import InspectionLine.WorkerFrames
import InspectionLine.WorkerHeartbeats

/-! # READY rests on evidence of one live instance

What the callbacks of Master do to the mirror of one worker is a sequence of operations on it.
A history keeps them together with the heartbeats that were accepted and the command epoch. -/
namespace InspectionLine

inductive WorkerOp where
  | freshMirror
  | attempt (requestId : String) (number : ℕ) (nowNs timeoutNs : ℤ)
  | goalAccepted (requestId : String)
  | actionReady (result : InitializeReply) (nowNs timeoutNs : ℤ)
  | statusRequest (requestId : String)
  | statusPoll (nowNs intervalNs : ℤ)
  | statusUnusable (requestId : String)
  | statusReply (requestId : String) (status : NodeStatus) (healthState : NodeHealthState)
  | retry (nowNs intervalNs : ℤ) (errorCode : ℕ) (reason : String) (manual : Bool)
  | unavailable (interfaceVersion : Option String)
  | epochAdvance (restarting initializeAgain : Bool) (nowNs intervalNs : ℤ) (reason : String)
  | heartbeat (message : NodeHeartbeat) (healthState : NodeHealthState) (receivedNs : ℤ)
  | recovered
  | ready (sessionId interfaceVersion : String) (commandEpoch : ℕ) (nowNs timeoutNs : ℤ)

namespace WorkerOp

def heartbeatUpdate (s : WorkerRuntimeState) (message : NodeHeartbeat)
    (healthState : NodeHealthState) (receivedNs : ℤ) : HeartbeatUpdate × WorkerRuntimeState :=
  s.acceptHeartbeat message.nodeInstanceId message.sequence healthState message.interfaceVersion
    message.sessionId receivedNs

def apply (w : WorkerId) (s : WorkerRuntimeState) : WorkerOp → WorkerRuntimeState
  | freshMirror => { workerId := w }
  | attempt requestId number nowNs timeoutNs =>
    s.beginAttempt requestId number nowNs timeoutNs
  | goalAccepted _ => s.markGoalAccepted
  | actionReady result nowNs timeoutNs =>
    s.markActionReady result.interfaceVersion result.softwareVersion result.activeSessionId
      result.reason nowNs timeoutNs
  | statusRequest requestId => s.beginStatusCheck requestId
  | statusPoll nowNs intervalNs => s.scheduleStatusPoll nowNs intervalNs
  | statusUnusable _ => { s with statusRequestId := "" }
  | statusReply _ status healthState =>
    { s with statusRequestId := "" }.recordStatus status healthState
  | retry nowNs intervalNs errorCode reason manual =>
    s.scheduleRetry nowNs intervalNs errorCode reason manual
  | unavailable interfaceVersion =>
    { s with
      ready := false, statusVerified := false
      interfaceVersion := interfaceVersion.getD s.interfaceVersion }
  | epochAdvance restarting initializeAgain nowNs intervalNs reason =>
    if restarting then s
    else if initializeAgain then
      s.scheduleRetry nowNs intervalNs ErrorCode.nodeInitFailed.value
        ("reinitialize after command epoch change: " ++ reason) false
    else s.invalidateEpochEvidence nowNs intervalNs
  | heartbeat message healthState receivedNs => (heartbeatUpdate s message healthState receivedNs).2
  | recovered => { s with phase := .waitingStatus }
  | ready _ _ _ _ _ => s.markReady

/-- What the handlers check first. A worker is only spared by a new epoch that its own restart
has brought about. -/
def Enabled (s : WorkerRuntimeState) : WorkerOp → Prop
  | goalAccepted requestId => s.requestId = requestId ∧ s.phase = .waitingGoalResponse
  | actionReady result _ _ => s.requestId = result.requestId ∧ s.phase = .waitingResult
  | statusRequest _ => s.actionReady = true ∧ s.phase = .waitingStatus
  | statusPoll _ _ => s.phase = .waitingStatus
  | statusUnusable requestId => s.phase = .waitingStatus ∧ s.statusRequestId = requestId
  | statusReply requestId status healthState =>
    s.phase = .waitingStatus ∧ s.statusRequestId = requestId ∧
      NodeHealthState.ofRaw? status.healthState = some healthState
  | epochAdvance restarting _ _ _ _ => restarting = true → s.statusVerified = false
  | recovered => s.actionReady = true
  | ready sessionId interfaceVersion commandEpoch nowNs timeoutNs =>
    s.canMarkReady sessionId interfaceVersion commandEpoch nowNs timeoutNs = true
  | _ => True

def advancesEpoch : WorkerOp → Bool
  | epochAdvance .. => true
  | _ => false

def heartbeat? : WorkerOp → Option (NodeHeartbeat × NodeHealthState)
  | heartbeat message healthState _ => some (message, healthState)
  | _ => none

def status? : WorkerOp → Option (String × NodeStatus)
  | statusReply requestId status _ => some (requestId, status)
  | _ => none

/-- What ends the evidence of an instance, unless the evidence is renewed. A heartbeat without
identity or sequence is dropped and ends nothing. -/
def Disturbs (instanceId : String) : WorkerOp → Prop
  | statusRequest _ | statusPoll _ _ | statusUnusable _ | recovered | ready _ _ _ _ _ => False
  | heartbeat message _ _ =>
    message.nodeInstanceId ≠ "" ∧ message.sequence ≠ 0 ∧ message.nodeInstanceId ≠ instanceId
  | _ => True

end WorkerOp

structure MirrorHistory where
  mirror : WorkerRuntimeState
  epoch : ℕ := 0
  log : List WorkerOp := []
  accepted : List NodeHeartbeat := []

namespace MirrorHistory

open WorkerOp

def start (w : WorkerId) : MirrorHistory where
  mirror := { workerId := w }

def acceptedBy (s : WorkerRuntimeState) : WorkerOp → List NodeHeartbeat
  | heartbeat message healthState receivedNs =>
    if (heartbeatUpdate s message healthState receivedNs).1.accepted then [message] else []
  | _ => []

def next (w : WorkerId) (h : MirrorHistory) (op : WorkerOp) : MirrorHistory where
  mirror := op.apply w h.mirror
  epoch := if op.advancesEpoch then h.epoch + 1 else h.epoch
  log := op :: h.log
  accepted := acceptedBy h.mirror op ++ h.accepted

/-- Every order of the operations that the handlers allow. -/
abbrev Run (w : WorkerId) : MirrorHistory → MirrorHistory → Prop :=
  InputRuns.Execution (next w) fun h op => op.Enabled h.mirror

/-! ### What one operation leaves of the evidence -/

variable {w : WorkerId} {s : WorkerRuntimeState} {op : WorkerOp} {h k : MirrorHistory}

/-- The part of the mirror that only a status reply writes. -/
structure Reports (s : WorkerRuntimeState) (status : NodeStatus) (healthState : NodeHealthState) :
    Prop where
  nodeInstance : s.statusNodeInstanceId = status.nodeInstanceId
  session : s.activeSessionId = status.activeSessionId
  epoch : s.commandEpoch = status.commandEpoch
  sequence : s.statusHeartbeatSequence = status.heartbeatSequence
  health : s.statusHealthState = healthState
  ready : s.statusReady = status.ready
  alive : s.statusMasterHeartbeatAlive = status.masterHeartbeatAlive

/-- While an initialization runs, no status counts. -/
def Unproven (s : WorkerRuntimeState) : Prop :=
  s.phase = .waitingGoalResponse ∨ s.phase = .waitingResult → s.statusVerified = false

theorem unproven_apply (hs : Unproven s) (henabled : op.Enabled s) : Unproven (op.apply w s) := by
  cases op with
  | goalAccepted requestId => exact fun _ => hs (.inl henabled.2)
  | statusReply requestId status healthState =>
    rintro (hphase | hphase) <;> exact absurd (henabled.1.symm.trans hphase) (by simp)
  | heartbeat message healthState receivedNs =>
    rcases WorkerRuntimeState.accept_heartbeat_cases s _ _ _ _ _ _
      (u := (heartbeatUpdate s message healthState receivedNs).1)
      (v := (heartbeatUpdate s message healthState receivedNs).2) rfl with
      ⟨_, _, hsame, _⟩ | ⟨_, _, _, _, hv⟩
    · rw [apply, hsame]
      exact hs
    · rw [apply, hv]
      split
      · exact fun _ => rfl
      · exact hs
  | epochAdvance restarting initializeAgain nowNs intervalNs reason =>
    simp only [apply]
    split
    · exact hs
    · split
      · exact fun _ => rfl
      · unfold WorkerRuntimeState.invalidateEpochEvidence
        simp only
        split <;> exact fun _ => rfl
  | _ => first
    | exact fun _ => rfl
    | exact hs
    | (rintro (hphase | hphase) <;> cases hphase)

/-- What an operation leaves of a status that counts: it is the status itself, or it does not
disturb the instance that is followed after it and leaves the report as it is. -/
theorem apply_verified (hs : Unproven s) (henabled : op.Enabled s)
    (hverified : (op.apply w s).statusVerified = true) :
    (∃ requestId status healthState, op = statusReply requestId status healthState) ∨
      (s.statusVerified = true ∧ ¬op.Disturbs (op.apply w s).heartbeatNodeInstanceId ∧
        (∀ status healthState, Reports s status healthState →
          Reports (op.apply w s) status healthState) ∧
        (s.heartbeatNodeInstanceId = "" ∨
          (op.apply w s).heartbeatNodeInstanceId = s.heartbeatNodeInstanceId)) := by
  cases op with
  | statusReply requestId status healthState => exact .inl ⟨requestId, status, healthState, rfl⟩
  | goalAccepted requestId =>
    have hunproven : s.statusVerified = false := hs (.inl henabled.2)
    exact absurd (hverified.symm.trans hunproven) (by simp)
  | actionReady result nowNs timeoutNs =>
    have hunproven : s.statusVerified = false := hs (.inr henabled.2)
    exact absurd (hverified.symm.trans hunproven) (by simp)
  | epochAdvance restarting initializeAgain nowNs intervalNs reason =>
    simp only [apply] at hverified
    split at hverified
    · rename_i hrestarting
      rw [henabled hrestarting] at hverified
      cases hverified
    · split at hverified
      · cases hverified
      · unfold WorkerRuntimeState.invalidateEpochEvidence at hverified
        simp only at hverified
        split at hverified <;> cases hverified
  | heartbeat message healthState receivedNs =>
    rcases WorkerRuntimeState.accept_heartbeat_cases s _ _ _ _ _ _
      (u := (heartbeatUpdate s message healthState receivedNs).1)
      (v := (heartbeatUpdate s message healthState receivedNs).2) rfl with
      ⟨_, _, hsame, hdropped⟩ | ⟨_, hid, hsequence, hrestarted, hv⟩
    · refine .inr ?_
      rw [apply, hsame] at hverified ⊢
      refine ⟨hverified, fun hdisturbs => ?_, fun _ _ hreports => hreports, .inr rfl⟩
      obtain ⟨hid, hsequence, hother⟩ := hdisturbs
      exact hother ((hdropped.resolve_left hid).resolve_left hsequence).1.symm
    · refine .inr ?_
      rw [apply, hv] at hverified ⊢
      split at hverified
      · cases hverified
      · rename_i hquiet
        rw [if_neg hquiet]
        rw [hrestarted, not_and_or, not_not, not_not] at hquiet
        refine ⟨hverified, fun hdisturbs => hdisturbs.2.2 rfl,
          fun status healthState hreports => ?_, hquiet.imp_right Eq.symm⟩
        exact ⟨hreports.nodeInstance, hreports.session, hreports.epoch, hreports.sequence,
          hreports.health, hreports.ready, hreports.alive⟩
  | statusRequest | statusPoll | statusUnusable | recovered | ready =>
    refine .inr ⟨hverified, id, fun status healthState hreports => ?_, .inr rfl⟩
    exact ⟨hreports.nodeInstance, hreports.session, hreports.epoch, hreports.sequence,
      hreports.health, hreports.ready, hreports.alive⟩
  | freshMirror | attempt | retry | unavailable => cases hverified

theorem undisturbed_of_unheard (hop : ¬op.Disturbs "") (instanceId : String) :
    ¬op.Disturbs instanceId := by
  cases op with
  | heartbeat message healthState receivedNs =>
    rintro ⟨hid, hsequence, _⟩
    exact hop ⟨hid, hsequence, hid⟩
  | _ => exact hop

/-! ### The evidence along a run -/

/-- The status that the mirror reports, and what has been processed since. -/
structure Evidence (h : MirrorHistory) (after : List WorkerOp) (status : NodeStatus)
    (healthState : NodeHealthState) : Prop where
  log : ∃ requestId before, h.log = after ++ statusReply requestId status healthState :: before
  parsed : NodeHealthState.ofRaw? status.healthState = some healthState
  reports : Reports h.mirror status healthState
  undisturbed : ∀ op ∈ after, ¬op.Disturbs h.mirror.heartbeatNodeInstanceId

structure Grounded (h : MirrorHistory) : Prop where
  unproven : Unproven h.mirror
  evidence : h.mirror.statusVerified = true →
    ∃ after status healthState, Evidence h after status healthState
  heard : h.mirror.heartbeatReceivedNs ≠ 0 → ∃ message, h.accepted.head? = some message ∧
    message.nodeInstanceId = h.mirror.heartbeatNodeInstanceId ∧
    message.sequence = h.mirror.heartbeatSequence ∧
    message.sessionId = h.mirror.heartbeatSessionId

theorem evidence_next {after : List WorkerOp} {status : NodeStatus}
    {healthState : NodeHealthState} (he : Evidence h after status healthState)
    (hop : ¬op.Disturbs (op.apply w h.mirror).heartbeatNodeInstanceId)
    (hreports : Reports (op.apply w h.mirror) status healthState)
    (hfollowed : h.mirror.heartbeatNodeInstanceId = "" ∨
      (op.apply w h.mirror).heartbeatNodeInstanceId = h.mirror.heartbeatNodeInstanceId) :
    Evidence (next w h op) (op :: after) status healthState where
  log := by
    obtain ⟨requestId, before, hlog⟩ := he.log
    exact ⟨requestId, before, congrArg (op :: ·) hlog⟩
  parsed := he.parsed
  reports := hreports
  undisturbed earlier hearlier := by
    rcases List.mem_cons.mp hearlier with rfl | hearlier
    · exact hop
    · have hkept := he.undisturbed earlier hearlier
      rcases hfollowed with hunheard | hsame
      · rw [hunheard] at hkept
        exact undisturbed_of_unheard hkept _
      · exact hsame ▸ hkept

theorem heard_next (hg : Grounded h) (hreceived : (next w h op).mirror.heartbeatReceivedNs ≠ 0) :
    ∃ message, (next w h op).accepted.head? = some message ∧
      message.nodeInstanceId = (next w h op).mirror.heartbeatNodeInstanceId ∧
      message.sequence = (next w h op).mirror.heartbeatSequence ∧
      message.sessionId = (next w h op).mirror.heartbeatSessionId := by
  cases op with
  | heartbeat message healthState receivedNs =>
    simp only [next, acceptedBy, apply] at hreceived ⊢
    rcases WorkerRuntimeState.accept_heartbeat_cases h.mirror _ _ _ _ _ _
      (u := (heartbeatUpdate h.mirror message healthState receivedNs).1)
      (v := (heartbeatUpdate h.mirror message healthState receivedNs).2) rfl with
      ⟨hdropped, _, hsame, _⟩ | ⟨haccepted, _, _, _, hv⟩
    · rw [hsame] at hreceived ⊢
      rw [hdropped]
      exact hg.heard hreceived
    · rw [haccepted, hv]
      exact ⟨message, rfl, rfl, rfl, rfl⟩
  | freshMirror => exact absurd rfl hreceived
  | epochAdvance restarting initializeAgain nowNs intervalNs reason =>
    simp only [next, acceptedBy, apply] at hreceived ⊢
    split at hreceived
    · rename_i hrestarting
      rw [if_pos hrestarting]
      exact hg.heard hreceived
    · rename_i hrestarting
      rw [if_neg hrestarting]
      split at hreceived
      · rename_i hagain
        rw [if_pos hagain]
        exact hg.heard hreceived
      · rename_i hagain
        rw [if_neg hagain]
        unfold WorkerRuntimeState.invalidateEpochEvidence at hreceived ⊢
        simp only at hreceived ⊢
        split at hreceived <;> rename_i hready
        · rw [if_pos hready]
          exact hg.heard hreceived
        · rw [if_neg hready]
          exact hg.heard hreceived
  | _ => exact hg.heard hreceived

theorem grounded_start (w : WorkerId) : Grounded (start w) where
  unproven _ := rfl
  evidence hverified := by cases hverified
  heard hreceived := absurd rfl hreceived

theorem grounded_next (hg : Grounded h) (henabled : op.Enabled h.mirror) :
    Grounded (next w h op) where
  unproven := unproven_apply hg.unproven henabled
  evidence hverified := by
    rcases apply_verified hg.unproven henabled hverified with
      ⟨requestId, status, healthState, rfl⟩ | ⟨hbefore, hop, hreports, hfollowed⟩
    · refine ⟨[], status, healthState, ⟨requestId, h.log, rfl⟩, henabled.2.2, ?_, ?_⟩
      · exact ⟨rfl, rfl, rfl, rfl, rfl, rfl, rfl⟩
      · exact fun earlier hearlier => absurd hearlier List.not_mem_nil
    · obtain ⟨after, status, healthState, he⟩ := hg.evidence hbefore
      exact ⟨op :: after, status, healthState,
        evidence_next he hop (hreports status healthState he.reports) hfollowed⟩
  heard := heard_next hg

theorem grounded_run (hrun : Run w (start w) h) : Grounded h :=
  hrun.invariant (P := Grounded) (fun _ _ hg henabled => grounded_next hg henabled)
    (grounded_start w)

/-- What READY rests on: a status of the session and the epoch, of an instance that reported
READY and a live Master, that was followed by nothing but heartbeats of this instance. -/
structure RestsOn (h : MirrorHistory) (sessionId : String) (commandEpoch : ℕ)
    (after : List WorkerOp) (status : NodeStatus) : Prop where
  log : ∃ requestId before, h.log = after ++ statusReply requestId status .ready :: before
  session : status.activeSessionId = sessionId
  epoch : status.commandEpoch = commandEpoch
  health : NodeHealthState.ofRaw? status.healthState = some .ready
  ready : status.ready = true
  masterAlive : status.masterHeartbeatAlive = true
  live : ∃ message, h.accepted.head? = some message ∧
    message.nodeInstanceId = status.nodeInstanceId ∧ message.sessionId = sessionId ∧
    status.heartbeatSequence ≤ message.sequence
  undisturbed : ∀ op ∈ after, ¬op.Disturbs status.nodeInstanceId

theorem rests_on_live_instance (hrun : Run w (start w) h) {sessionId interfaceVersion : String}
    {commandEpoch : ℕ} {nowNs timeoutNs : ℤ}
    (hready : h.mirror.canMarkReady sessionId interfaceVersion commandEpoch nowNs timeoutNs =
      true) : ∃ after status, RestsOn h sessionId commandEpoch after status := by
  have hg := grounded_run hrun
  simp only [WorkerRuntimeState.canMarkReady, WorkerRuntimeState.heartbeatIsFresh,
    Bool.and_eq_true, decide_eq_true_eq] at hready
  obtain ⟨⟨⟨⟨⟨⟨⟨⟨⟨⟨⟨⟨_, hverified⟩, hinstance⟩, hsession⟩, hheartbeat⟩, _⟩, hepoch⟩, hsequence⟩,
    hstatusReady⟩, halive⟩, hhealth⟩, _⟩, hreceived, _⟩ := hready
  obtain ⟨after, status, healthState, he⟩ := hg.evidence hverified
  obtain ⟨message, hlast, hid, hnumber, hsessionId⟩ := hg.heard hreceived.ne'
  have hsame : h.mirror.heartbeatNodeInstanceId = status.nodeInstanceId :=
    hinstance.symm.trans he.reports.nodeInstance
  obtain rfl : healthState = .ready := he.reports.health.symm.trans hhealth
  refine ⟨after, status, he.log, ?_, ?_, he.parsed, ?_, ?_, ?_, hsame ▸ he.undisturbed⟩
  · exact he.reports.session.symm.trans hsession
  · exact he.reports.epoch.symm.trans hepoch
  · exact he.reports.ready.symm.trans hstatusReady
  · exact he.reports.alive.symm.trans halive
  · refine ⟨message, hlast, hid.trans hsame, hsessionId.trans hheartbeat, ?_⟩
    rw [← he.reports.sequence, hnumber]
    exact hsequence

end MirrorHistory

end InspectionLine
