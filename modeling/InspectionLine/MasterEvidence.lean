import InspectionLine.MasterRefinement
import InspectionLine.WorkerEvidence

/-! # Every run of Master records a history of each worker

A callback performs operations on the mirror of a worker. A heartbeat and a status are delivered
by a message; everything else Master does of its own accord. -/
namespace InspectionLine

namespace WorkerOp

/-- No message from the worker is recorded. -/
def Internal (op : WorkerOp) : Prop := op.heartbeat? = none ∧ op.status? = none

end WorkerOp

namespace MirrorHistory

open WorkerOp

def heartbeats (h : MirrorHistory) : List (NodeHeartbeat × NodeHealthState) :=
  h.log.filterMap heartbeat?

def statuses (h : MirrorHistory) : List (String × NodeStatus) := h.log.filterMap status?

structure Tracks (w : WorkerId) (h : MirrorHistory) (m : Master) : Prop where
  mirror : h.mirror = m.workerStates w
  epoch : h.epoch = m.commandEpoch

/-- From the end of a history Master has gone on of its own accord. -/
def Follows (w : WorkerId) (a : MirrorHistory) (m : Master) : Prop :=
  ∃ h, InputRuns.Execution (next w) (fun h op => op.Enabled h.mirror ∧ op.Internal) a h ∧
    Tracks w h m

variable {w : WorkerId} {a h k : MirrorHistory} {m n : Master} {stopped : Master → Master}

theorem Tracks.follows (ht : Tracks w h m) : Follows w h m := ⟨h, .refl h, ht⟩

theorem Tracks.spares (ht : Tracks w h m) (hs : Master.Spares .workers m n) : Tracks w h n := by
  have hview : n.workerStates = m.workerStates ∧ n.commandEpoch = m.commandEpoch :=
    Prod.mk.inj hs
  exact ⟨ht.mirror.trans (by rw [hview.1]), ht.epoch.trans hview.2.symm⟩

theorem Follows.spares (hf : Follows w a m) (hs : Master.Spares .workers m n) : Follows w a n := by
  obtain ⟨h, hrun, ht⟩ := hf
  exact ⟨h, hrun, ht.spares hs⟩

theorem Follows.perform (hf : Follows w a m) (op : WorkerOp)
    (henabled : op.Enabled (m.workerStates w)) (hop : op.Internal)
    (hmirror : n.workerStates w = op.apply w (m.workerStates w))
    (hepoch : n.commandEpoch = if op.advancesEpoch then m.commandEpoch + 1 else m.commandEpoch) :
    Follows w a n := by
  obtain ⟨h, hrun, ht⟩ := hf
  refine ⟨next w h op, .tail op hrun ⟨ht.mirror ▸ henabled, hop⟩, ?_, ?_⟩
  · rw [hmirror, ← ht.mirror]
    rfl
  · rw [hepoch, ← ht.epoch]
    rfl

theorem Follows.update (hf : Follows w a m) (v : WorkerId)
    (f : WorkerRuntimeState → WorkerRuntimeState) (op : WorkerOp)
    (hop : op.Internal ∧ op.advancesEpoch = false)
    (hsame : v = w → op.Enabled (m.workerStates w) ∧
      f (m.workerStates w) = op.apply w (m.workerStates w)) :
    Follows w a (m.updateWorker v f) := by
  by_cases hv : v = w
  · subst hv
    refine hf.perform op (hsame rfl).1 hop.1 ?_ ?_
    · rw [← (hsame rfl).2]
      exact Function.update_self _ _ _
    · rw [hop.2]
      rfl
  · obtain ⟨h, hrun, ht⟩ := hf
    refine ⟨h, hrun, ?_, ht.epoch⟩
    rw [ht.mirror]
    exact (Function.update_of_ne (Ne.symm hv) _ _).symm

theorem Follows.foldl {β : Type} {f : Master → β → Master}
    (hfold : ∀ m b, Follows w a m → Follows w a (f m b)) (l : List β) (hf : Follows w a m) :
    Follows w a (l.foldl f m) := by
  induction l generalizing m with
  | nil => exact hf
  | cons b l ih => exact ih (hfold m b hf)

theorem spares_reportInitializationFailed (m : Master) (reason : String) (timedOut : Bool) :
    Master.Spares .workers m (m.reportInitializationFailed reason timedOut) :=
  (Master.Spares.refl .workers m).getD_event reason

/-! ### Initialization -/

theorem Follows.scheduleInitializeRetry (hf : Follows w a m) (v : WorkerId) (reason : String)
    (errorCode : ℕ) (timedOut manual : Bool) :
    Follows w a (m.scheduleInitializeRetry v reason errorCode timedOut manual) := by
  simp only [Master.scheduleInitializeRetry]
  generalize hcanceled : (if timedOut = true then _ else _) = k
  have hk : Master.Spares .workers m k := by
    rw [← hcanceled]
    split
    · refine Master.Spares.elimCancelGoal ?_ _
      exact Master.Spares.refl .workers m
    · exact Master.Spares.refl .workers m
  have hretried := (hf.spares hk).update v (fun state => state.scheduleRetry k.nowNs
    k.retryInterval errorCode reason manual)
    (.retry k.nowNs k.retryInterval errorCode reason manual) ⟨⟨rfl, rfl⟩, rfl⟩
    fun _ => ⟨trivial, rfl⟩
  split
  · exact hretried.spares (spares_reportInitializationFailed _ _ _)
  · exact hretried

theorem Follows.sendInitializeGoal (hf : Follows w a m) (v : WorkerId) (attempt : ℕ) :
    Follows w a (m.sendInitializeGoal v attempt) := by
  have hbegun : Follows w a (m.newUuid.2.updateWorker v fun state =>
      state.beginAttempt m.newUuid.1 attempt m.newUuid.2.nowNs
        (fromMs m.newUuid.2.config.initTimeoutMs)) := by
    refine Follows.update (m := m.newUuid.2) (hf.spares rfl) v _ (.attempt m.newUuid.1 attempt
      m.newUuid.2.nowNs (fromMs m.newUuid.2.config.initTimeoutMs)) ⟨⟨rfl, rfl⟩, rfl⟩ ?_
    exact fun _ => ⟨trivial, rfl⟩
  simp only [Master.sendInitializeGoal]
  split
  · exact hf
  · split
    · exact hbegun.scheduleInitializeRetry _ _ _ _ _
    · exact hbegun.scheduleInitializeRetry _ _ _ _ _
    · exact hbegun.spares rfl

theorem Follows.startWorkerInitialization (hf : Follows w a m) :
    Follows w a m.startWorkerInitialization := by
  simp only [Master.startWorkerInitialization]
  split
  · exact hf
  · refine Follows.foldl (fun k v hk => hk.sendInitializeGoal v 1) _ ?_
    exact hf.perform .freshMirror trivial ⟨rfl, rfl⟩ rfl rfl

theorem Follows.handleInitializeGoalResponse (hf : Follows w a m) (v : WorkerId)
    (requestId : String) (response : Except String GoalReply) :
    Follows w a (m.handleInitializeGoalResponse v requestId response) := by
  simp only [Master.handleInitializeGoalResponse]
  split
  · exact hf
  · rename_i hguard
    obtain ⟨hrequest, hphase⟩ := not_or.mp hguard
    split
    · exact hf.scheduleInitializeRetry _ _ _ _ _
    · split
      · exact hf.scheduleInitializeRetry _ _ _ _ _
      · refine Follows.spares (m := m.updateWorker v fun state => state.markGoalAccepted) ?_ rfl
        refine hf.update v _ (.goalAccepted requestId) ⟨⟨rfl, rfl⟩, rfl⟩ ?_
        rintro rfl
        exact ⟨⟨not_not.mp hrequest, not_not.mp hphase⟩, rfl⟩

theorem Follows.requestWorkerStatus (hf : Follows w a m) (v : WorkerId) :
    Follows w a (m.requestWorkerStatus v) := by
  simp only [Master.requestWorkerStatus]
  split
  · exact hf
  · rename_i hguard
    obtain ⟨hready, hphase⟩ := not_or.mp hguard
    have hactionReady : (m.workerStates v).actionReady = true := by simpa using hready
    have hwaiting : (m.workerStates v).phase = .waitingStatus := not_not.mp hphase
    have hrequested : Follows w a (m.newUuid.2.updateWorker v fun state =>
        state.beginStatusCheck m.newUuid.1) := by
      refine Follows.update (m := m.newUuid.2) (hf.spares rfl) v _ (.statusRequest m.newUuid.1)
        ⟨⟨rfl, rfl⟩, rfl⟩ ?_
      rintro rfl
      exact ⟨⟨hactionReady, hwaiting⟩, rfl⟩
    split
    · refine hf.update v _ (.statusPoll m.nowNs m.retryInterval) ⟨⟨rfl, rfl⟩, rfl⟩ ?_
      rintro rfl
      exact ⟨hwaiting, rfl⟩
    · exact hrequested.scheduleInitializeRetry _ _ _ _ _
    · exact hrequested.spares rfl

theorem Follows.handleInitializeResult (hf : Follows w a m) (v : WorkerId) (requestId : String)
    (result : Except String InitializeReply) :
    Follows w a (m.handleInitializeResult v requestId result) := by
  have hretry : ∀ reason errorCode manual, Follows w a
      (({ m with initializeGoalHandles := Function.update m.initializeGoalHandles v none } :
        Master).scheduleInitializeRetry v reason errorCode false manual) := by
    intro reason errorCode manual
    refine Follows.scheduleInitializeRetry ?_ v reason errorCode false manual
    exact hf.spares rfl
  simp only [Master.handleInitializeResult]
  split
  · exact hf
  · rename_i hguard
    obtain ⟨hrequest, hphase⟩ := not_or.mp hguard
    split
    · exact hretry _ _ _
    · split
      · exact hretry _ _ _
      · rename_i hidentity
        obtain ⟨hresult, _⟩ := not_or.mp hidentity
        split
        · exact hretry _ _ _
        · split
          · exact hretry _ _ _
          · split
            · exact hretry _ _ _
            · rename_i result _ _ _ _
              refine Follows.requestWorkerStatus ?_ v
              refine Follows.update ?_ v _ (.actionReady result m.nowNs
                (fromMs m.config.initTimeoutMs)) ⟨⟨rfl, rfl⟩, rfl⟩ ?_
              · exact hf.spares rfl
              · rintro rfl
                refine ⟨⟨?_, not_not.mp hphase⟩, rfl⟩
                exact (not_not.mp hrequest).trans (not_not.mp hresult).symm

/-! ### Status and readiness -/

theorem Follows.tryMarkWorkerReady (hf : Follows w a m) (v : WorkerId) :
    Follows w a (m.tryMarkWorkerReady v).2 := by
  have hhealth : ∀ k : Master, Master.Spares .workers k
      (if (k.systemState = .ready ∨ k.systemState = .runSys ∨ k.systemState = .paused) ∧
          k.allWorkersReadyForSession ∧ k.logSpoolOpen then k.setHealthState .ready else k) := by
    intro k
    split <;> exact Master.Spares.refl .workers k
  have hcompleted : ∀ k : Master, Master.Spares .workers k k.maybeCompleteInitialization := fun k =>
    (Master.Spares.refl .workers k).maybeCompleteInitialization
  simp only [Master.tryMarkWorkerReady]
  split
  · exact hf
  · rename_i hmark
    have hready := (Bool.not_eq_false _).mp fun hno => hmark ((Bool.not_eq_true' _).mpr hno)
    refine Follows.spares ?_ (hhealth _)
    refine Follows.spares ?_ (hcompleted _)
    split
    · exact hf
    · refine hf.update v _ (.ready m.config.sessionId m.config.expectedInterfaceVersion
        m.commandEpoch m.nowNs (fromMs m.config.nodeHeartbeatTimeoutMs)) ⟨⟨rfl, rfl⟩, rfl⟩ ?_
      rintro rfl
      exact ⟨hready, rfl⟩

theorem tryMarkWorkerReady_rejected {v : WorkerId}
    (hrejected : m.tryMarkWorkerReady v = (false, n)) : n = m := by
  simp only [Master.tryMarkWorkerReady] at hrejected
  split at hrejected <;> cases hrejected
  rfl

/-- A poll that was answered without a usable status is repeated. -/
theorem Follows.pollStatusAgain (hf : Follows w a m) (v : WorkerId)
    (hwaiting : (m.workerStates v).phase = .waitingStatus) : Follows w a (m.pollStatusAgain v) := by
  refine hf.update v _ (.statusPoll m.nowNs m.retryInterval) ⟨⟨rfl, rfl⟩, rfl⟩ ?_
  rintro rfl
  exact ⟨hwaiting, rfl⟩

theorem Follows.afterStatus (hf : Follows w a m) (v : WorkerId) (status : NodeStatus)
    (hwaiting : (m.workerStates v).phase = .waitingStatus) :
    Follows w a (if !status.ready ∨ !status.masterHeartbeatAlive then m.pollStatusAgain v
      else match m.tryMarkWorkerReady v with
        | (true, m) => m
        | (false, m) => m.pollStatusAgain v) := by
  have hmarked := hf.tryMarkWorkerReady v
  split
  · exact hf.pollStatusAgain v hwaiting
  · split <;> rename_i heq <;> rw [heq] at hmarked
    · exact hmarked
    · rw [tryMarkWorkerReady_rejected heq]
      exact hf.pollStatusAgain v hwaiting

theorem workerStates_updateWorker (m : Master) (v : WorkerId)
    (f : WorkerRuntimeState → WorkerRuntimeState) :
    (m.updateWorker v f).workerStates v = f (m.workerStates v) := by
  simp [Master.updateWorker]

theorem workerStates_updateOther {v : WorkerId} (hv : v ≠ w)
    (f : WorkerRuntimeState → WorkerRuntimeState) :
    (m.updateWorker v f).workerStates w = m.workerStates w := by
  simp [Master.updateWorker, Ne.symm hv]

theorem Tracks.updateOther (ht : Tracks w h m) {v : WorkerId} (hv : v ≠ w)
    (f : WorkerRuntimeState → WorkerRuntimeState) : Tracks w h (m.updateWorker v f) :=
  ⟨ht.mirror.trans (workerStates_updateOther hv f).symm, ht.epoch⟩

theorem Tracks.updateSelf (ht : Tracks w h m) (f : WorkerRuntimeState → WorkerRuntimeState)
    (op : WorkerOp) (hop : op.apply w h.mirror = f h.mirror) (hepoch : op.advancesEpoch = false) :
    Tracks w (next w h op) (m.updateWorker w f) := by
  refine ⟨?_, ?_⟩
  · refine hop.trans ?_
    rw [ht.mirror, workerStates_updateWorker]
  · refine Eq.trans ?_ ht.epoch
    simp [next, hepoch]

theorem updateWorker_updateWorker (m : Master) (v : WorkerId)
    (f g : WorkerRuntimeState → WorkerRuntimeState) :
    (m.updateWorker v f).updateWorker v g = m.updateWorker v fun state => g (f state) := by
  simp [Master.updateWorker]

/-- The reply of a worker that is asked for its status: the status is recorded if it fits. -/
theorem follows_handleWorkerStatus (ht : Tracks w h m) (v : WorkerId) (requestId : String)
    (response : Except String NodeStatus) :
    Follows w h (m.handleWorkerStatus v requestId response) ∨
      ∃ status healthState, v = w ∧ response = .ok status ∧
        (statusReply requestId status healthState).Enabled h.mirror ∧
        Follows w (next w h (statusReply requestId status healthState))
          (m.handleWorkerStatus v requestId response) := by
  simp only [Master.handleWorkerStatus]
  split
  · exact .inl ht.follows
  · rename_i hguard
    obtain ⟨hphase, hrequest⟩ := not_or.mp hguard
    have hwaiting : (m.workerStates v).phase = .waitingStatus := not_not.mp hphase
    have hawaited : (m.workerStates v).statusRequestId = requestId := not_not.mp hrequest
    have hunusable : Follows w h (m.updateWorker v fun state => { state with
        statusRequestId := "" }) := by
      refine ht.follows.update v _ (.statusUnusable requestId) ⟨⟨rfl, rfl⟩, rfl⟩ ?_
      rintro rfl
      exact ⟨⟨hwaiting, hawaited⟩, rfl⟩
    split
    · refine .inl (hunusable.pollStatusAgain v ?_)
      rw [workerStates_updateWorker]
      exact hwaiting
    · rename_i status
      split
      · exact .inl (hunusable.scheduleInitializeRetry _ _ _ _ _)
      · split
        · exact .inl (hunusable.scheduleInitializeRetry _ _ _ _ _)
        · split
          · exact .inl (hunusable.scheduleInitializeRetry _ _ _ _ _)
          · split
            · exact .inl (hunusable.scheduleInitializeRetry _ _ _ _ _)
            · rename_i healthState hparsed
              rw [updateWorker_updateWorker]
              have hkept : ((m.updateWorker v fun state =>
                  { state with statusRequestId := "" }.recordStatus status
                    healthState).workerStates v).phase = .waitingStatus := by
                rw [workerStates_updateWorker]
                exact hwaiting
              by_cases hv : v = w
              · subst hv
                refine .inr ⟨status, healthState, rfl, rfl, ?_, ?_⟩
                · rw [ht.mirror]
                  exact ⟨hwaiting, hawaited, hparsed⟩
                · refine Follows.afterStatus (Tracks.follows ?_) v status hkept
                  exact ht.updateSelf _ _ rfl rfl
              · exact .inl ((ht.updateOther hv _).follows.afterStatus v status hkept)

/-! ### The command epoch and outages -/

theorem Follows.advanceCommandEpoch (hf : Follows w a m) (reason : String)
    (restartingWorker : Option WorkerId) (reinitializeAllWorkers : Bool)
    (hrestarting : restartingWorker = some w → (m.workerStates w).statusVerified = false) :
    Follows w a (m.advanceCommandEpoch reason restartingWorker reinitializeAllWorkers) := by
  refine hf.perform (.epochAdvance (restartingWorker = some w) reinitializeAllWorkers m.nowNs
    m.retryInterval reason) ?_ ⟨rfl, rfl⟩ ?_ rfl
  · intro hself
    exact hrestarting (of_decide_eq_true hself)
  · simp [Master.advanceCommandEpoch, apply]

/-- The rest of an outage, once the worker does not count any more. -/
theorem Follows.handleWorkerUnavailable (hs : Master.Sparing .workers stopped) (v : WorkerId)
    (reason : String) (restarted versionMismatch : Bool)
    (hf : Follows w a (m.updateWorker v fun state =>
      { state with ready := false, statusVerified := false })) :
    Follows w a (m.handleWorkerUnavailable stopped v reason restarted versionMismatch) := by
  simp only [Master.handleWorkerUnavailable]
  split
  · split
    · exact hf.spares rfl
    · refine Follows.scheduleInitializeRetry ?_ _ _ _ _ _
      exact hf.spares rfl
  · have hrest : ∀ k : Master, Master.Spares .workers k
        (if v = .control ∧ (k.systemState = .runSys ∨ k.systemState = .pausing) then
          (k.reportCriticalFault stopped reason .lineClearRequired).2
        else if v = .vision ∧ k.systemState = .runSys then
          (k.requestRecoverableDevicePause stopped reason
            (if restarted then .deviceRecoveryManual else .deviceRecoveryAuto)).2
        else k.setHealthState .degraded) := by
      intro k
      split
      · exact (Master.Spares.refl .workers k).reportCriticalFault hs _ _
      · split
        · exact (Master.Spares.refl .workers k).requestRecoverableDevicePause hs _ trivial
        · exact Master.Spares.refl .workers k
    refine Follows.spares ?_ (hrest _)
    have hresidency : ∀ k : Master, Master.Spares .workers k
        (if v = .vision then k.recordVisionOutageResidency else k) := by
      intro k
      split
      · exact (Master.Spares.refl .workers k).recordVisionOutageResidency
      · exact Master.Spares.refl .workers k
    refine Follows.spares ?_ (hresidency _)
    refine Follows.update ?_ v _ (.retry m.nowNs m.retryInterval ErrorCode.nodeInitFailed.value
      reason false) ⟨⟨rfl, rfl⟩, rfl⟩ fun _ => ⟨trivial, rfl⟩
    exact hf.spares rfl

theorem Follows.unavailable (hf : Follows w a m) (v : WorkerId) :
    Follows w a (m.updateWorker v fun state =>
      { state with ready := false, statusVerified := false }) :=
  hf.update v _ (.unavailable none) ⟨⟨rfl, rfl⟩, rfl⟩ fun _ => ⟨trivial, rfl⟩

theorem Follows.handleWorkerRestart (hs : Master.Sparing .workers stopped) (hf : Follows w a m)
    (v : WorkerId) (hrestarted : v = w → (m.workerStates w).statusVerified = false) :
    Follows w a (m.handleWorkerRestart stopped v) := by
  simp only [Master.handleWorkerRestart]
  refine Follows.handleWorkerUnavailable hs v _ _ _ (Follows.unavailable ?_ v)
  split
  · refine Follows.advanceCommandEpoch ?_ _ _ _ ?_
    · exact hf.spares rfl
    · rintro ⟨⟩
      exact hrestarted rfl
  · refine hf.advanceCommandEpoch _ _ _ ?_
    rintro ⟨⟩
    exact hrestarted rfl

/-! ### Heartbeats -/

def heartbeatOf (config : MasterConfig) (w : WorkerId) :
    MasterCall → Option (NodeHeartbeat × NodeHealthState)
  | .workerHeartbeat v message =>
    if v = w ∧ message.nodeId = v.value ∧
        message.interfaceVersion = config.expectedInterfaceVersion then
      (NodeHealthState.ofRaw? message.healthState).map fun healthState => (message, healthState)
    else none
  | _ => none

theorem unverified_of_restarted {s : WorkerRuntimeState} {message : NodeHeartbeat}
    {healthState : NodeHealthState} {nowNs : ℤ}
    (hrestarted : (heartbeatUpdate s message healthState nowNs).1.restarted = true) :
    (heartbeatUpdate s message healthState nowNs).2.statusVerified = false := by
  rcases WorkerRuntimeState.accept_heartbeat_cases s _ _ _ _ _ _
    (u := (heartbeatUpdate s message healthState nowNs).1)
    (v := (heartbeatUpdate s message healthState nowNs).2) rfl with
    ⟨_, hquiet, _⟩ | ⟨_, _, _, _, hv⟩
  · rw [hquiet] at hrestarted
    cases hrestarted
  · rw [hv, if_pos hrestarted]

/-- What Master makes of a heartbeat that the mirror has taken in. -/
theorem Follows.afterHeartbeat (hs : Master.Sparing .workers stopped) (hf : Follows w a m)
    (v : WorkerId)
    (restarted recovered : Bool) (healthState : NodeHealthState)
    (hrestarted : v = w → restarted = true → (m.workerStates w).statusVerified = false) :
    Follows w a (if restarted then m.handleWorkerRestart stopped v
      else if healthState ≠ .ready then
        if (m.workerStates v).ready then
          m.handleWorkerUnavailable stopped v
            (v.value ++ " health changed to " ++ healthState.name) false
        else m
      else if recovered ∧ (m.workerStates v).actionReady then
        (m.updateWorker v fun state => { state with
          phase := .waitingStatus }).requestWorkerStatus v
      else if (m.workerStates v).statusVerified then (m.tryMarkWorkerReady v).2
      else m) := by
  split
  · rename_i hrestart
    exact hf.handleWorkerRestart hs v fun hv => hrestarted hv hrestart
  · split
    · split
      · exact (hf.unavailable v).handleWorkerUnavailable hs v _ _ _
      · exact hf
    · split
      · rename_i hrecovered
        refine Follows.requestWorkerStatus ?_ v
        refine hf.update v _ .recovered ⟨⟨rfl, rfl⟩, rfl⟩ ?_
        rintro rfl
        exact ⟨hrecovered.2, rfl⟩
      · split
        · exact hf.tryMarkWorkerReady v
        · exact hf

/-- A heartbeat that is dropped before the mirror sees it; one of another version is an outage. -/
theorem Follows.dropHeartbeat (hs : Master.Sparing .workers stopped) (hf : Follows w a m)
    (v : WorkerId)
    (message : NodeHeartbeat)
    (hdropped : heartbeatOf m.config v (.workerHeartbeat v message) = none) :
    Follows w a (m.handleWorkerHeartbeat stopped v message) := by
  simp only [Master.handleWorkerHeartbeat]
  split
  · exact hf
  · rename_i hnode
    split
    · refine Follows.handleWorkerUnavailable hs v _ _ _ ?_
      rw [updateWorker_updateWorker]
      exact hf.update v _ (.unavailable (some message.interfaceVersion))
        ⟨⟨rfl, rfl⟩, rfl⟩ fun _ => ⟨trivial, rfl⟩
    · rename_i hversion
      split
      · exact hf
      · rename_i healthState hknown
        rw [heartbeatOf, if_pos ⟨rfl, not_not.mp hnode, not_not.mp hversion⟩, hknown] at hdropped
        cases hdropped

theorem Follows.takeHeartbeat (hs : Master.Sparing .workers stopped) (v : WorkerId)
    (message : NodeHeartbeat) (healthState : NodeHealthState)
    (htaken : heartbeatOf m.config v (.workerHeartbeat v message) = some (message, healthState))
    (hf : Follows w a (m.updateWorker v fun _ =>
      (heartbeatUpdate (m.workerStates v) message healthState m.nowNs).2)) :
    Follows w a (m.handleWorkerHeartbeat stopped v message) := by
  simp only [heartbeatOf] at htaken
  split at htaken
  · rename_i hpasses
    obtain ⟨known, hknown, hsame⟩ := Option.map_eq_some_iff.mp htaken
    obtain rfl : known = healthState := (Prod.mk.inj hsame).2
    simp only [Master.handleWorkerHeartbeat]
    rw [if_neg (not_not.mpr hpasses.2.1), if_neg (not_not.mpr hpasses.2.2), hknown]
    simp only
    split
    · exact hf
    · refine Follows.afterHeartbeat hs ?_ v _ _ known ?_
      · exact hf.spares rfl
      · rintro rfl hrestarted
        have hmirror := workerStates_updateWorker m v fun _ =>
          (heartbeatUpdate (m.workerStates v) message known m.nowNs).2
        exact (congrArg _ hmirror).trans (unverified_of_restarted hrestarted)
  · cases htaken

theorem follows_handleWorkerHeartbeat (hs : Master.Sparing .workers stopped) (ht : Tracks w h m)
    (v : WorkerId) (message : NodeHeartbeat) :
    (heartbeatOf m.config w (.workerHeartbeat v message) = none ∧
        Follows w h (m.handleWorkerHeartbeat stopped v message)) ∨
      ∃ healthState,
        heartbeatOf m.config w (.workerHeartbeat v message) = some (message, healthState) ∧
          Follows w (next w h (heartbeat message healthState m.nowNs))
            (m.handleWorkerHeartbeat stopped v message) := by
  cases hdelivered : heartbeatOf m.config v (.workerHeartbeat v message) with
  | none =>
    refine .inl ⟨?_, ht.follows.dropHeartbeat hs v message hdelivered⟩
    by_cases hv : v = w
    · exact hv ▸ hdelivered
    · rw [heartbeatOf, if_neg fun hpasses => hv hpasses.1]
  | some taken =>
    obtain ⟨taken, healthState⟩ := taken
    obtain rfl : taken = message := by
      simp only [heartbeatOf] at hdelivered
      split at hdelivered
      · obtain ⟨_, _, hsame⟩ := Option.map_eq_some_iff.mp hdelivered
        exact (Prod.mk.inj hsame).1.symm
      · cases hdelivered
    by_cases hv : v = w
    · subst hv
      refine .inr ⟨healthState, hdelivered, ?_⟩
      refine Follows.takeHeartbeat hs v taken healthState hdelivered (Tracks.follows ?_)
      refine ht.updateSelf _ _ ?_ rfl
      rw [apply, ht.mirror]
    · refine .inl ⟨?_, ?_⟩
      · rw [heartbeatOf, if_neg fun hpasses => hv hpasses.1]
      · refine Follows.takeHeartbeat hs v taken healthState hdelivered ?_
        exact (ht.updateOther hv _).follows

/-! ### The watchdog and the reset -/

theorem Follows.advanceWorkerInitialization (hf : Follows w a m) (v : WorkerId) :
    Follows w a (m.advanceWorkerInitialization v) := by
  simp only [Master.advanceWorkerInitialization]
  split
  · exact hf.scheduleInitializeRetry _ _ _ _ _
  · split
    · exact hf.requestWorkerStatus v
    · split
      · exact hf.sendInitializeGoal v _
      · split
        · exact hf.scheduleInitializeRetry _ _ _ _ _
        · exact hf

theorem Follows.checkWorkerHeartbeats (hs : Master.Sparing .workers stopped) (hf : Follows w a m) :
    Follows w a (m.checkWorkerHeartbeats stopped) := by
  have hadvanced := hf.foldl (fun _ v hk => hk.advanceWorkerInitialization v) WorkerId.all
  simp only [Master.checkWorkerHeartbeats]
  split
  · exact hadvanced
  · refine hadvanced.foldl (fun k v hk => ?_) _
    simp only [Master.checkWorkerHeartbeat]
    split
    · exact hk
    · split
      · exact hk
      · exact (hk.unavailable v).handleWorkerUnavailable hs v _ _ _

theorem Follows.requestReset (hs : Master.Sparing .workers stopped) (hf : Follows w a m)
    (reason : String) : Follows w a (m.requestReset stopped reason).2 := by
  have hstarted : ∀ k : Master, Follows w a k →
      Follows w a (k.startResetSequence stopped reason) := by
    intro k hk
    have hadvanced := hk.advanceCommandEpoch "reset sequence started" none true nofun
    simp only [Master.startResetSequence]
    split
    · refine Follows.spares ?_ ((Master.Spares.refl .workers _).confirmResetCompleted hs)
      exact hadvanced.spares rfl
    · exact hadvanced.spares rfl
  simp only [Master.requestReset]
  split
  · exact hf
  · split
    · exact hf
    · rename_i n hm
      exact hstarted n (hf.spares (Master.spares_of_event hm (.refl _ m)))

/-! ### All callbacks -/

theorem Follows.operatorHandler (hs : Master.Sparing .workers stopped) (hf : Follows w a m)
    {request : OperatorRequest} {reason : String} {accepted : Bool}
    (hm : m.operatorHandler stopped request reason = some (accepted, n)) : Follows w a n := by
  have hsame := Master.Spares.refl .workers m
  have hinitialized : Follows w a (m.requestInitialize reason).2 := by
    simp only [Master.requestInitialize]
    split
    · exact hf
    · rename_i k hk
      exact (hf.spares (Master.spares_of_event hk (.refl _ m))).startWorkerInitialization
  have hcleared : Master.Spares .workers m (m.confirmLineCleared request.operatorId).2 := by
    simp only [Master.confirmLineCleared]
    split
    · exact hsame
    · refine Master.Spares.emitLogEvent ?_
      exact hsame
  have hanswer : ∀ r : Bool × Master, Follows w a r.2 → some r = some (accepted, n) →
      Follows w a n := by
    intro r hr heq
    rw [Option.some.inj heq] at hr
    exact hr
  unfold Master.operatorHandler at hm
  split at hm
  · exact hanswer _ hinitialized hm
  · exact hanswer _ (hf.spares (hsame.requestRun hs reason)) hm
  · exact hanswer _ (hf.spares (hsame.requestPause hs reason)) hm
  · exact hanswer _ (hf.spares (hsame.requestResume hs reason _ (by simp))) hm
  · exact hanswer _ (hf.requestReset hs reason) hm
  · exact hanswer _ (hf.spares hcleared) hm
  · cases hm

theorem Follows.handleOperatorCommand (hs : Master.Sparing .workers stopped) (hf : Follows w a m)
    (request : OperatorRequest) : Follows w a (m.handleOperatorCommand stopped request) := by
  have hrun : ∀ k : Master, Follows w a k →
      Follows w a (k.runOperatorCommand stopped request).2.2 := by
    intro k hk
    simp only [Master.runOperatorCommand]
    split
    · exact hk
    · split
      · exact hk
      · exact hk.operatorHandler hs ‹_›
  simp only [Master.handleOperatorCommand]
  generalize hidentified : (if request.requestId = "" then (m.newUuid.1, m.newUuid.2)
    else (request.requestId, m)) = identified
  obtain ⟨requestId, k⟩ := identified
  have hk : Follows w a k := by
    split at hidentified <;> cases hidentified
    · exact hf.spares rfl
    · exact hf
  simp only
  split
  · exact hk.spares rfl
  · split
    · exact hk.spares rfl
    · exact hk.spares rfl
    · refine Follows.spares (hrun _ ?_) rfl
      exact hk.spares rfl

def statusOf (w : WorkerId) : MasterCall → Option (String × NodeStatus)
  | .workerStatus v requestId (.ok status) => if v = w then some (requestId, status) else none
  | _ => none

/-- A callback without news from the worker. -/
theorem Follows.handle (hs : Master.Sparing .workers stopped) (hf : Follows w a m)
    {call : MasterCall} (hheartbeat : ∀ v message, call ≠ .workerHeartbeat v message)
    (hstatus : ∀ v requestId response, call ≠ .workerStatus v requestId response) :
    Follows w a (Master.handle stopped m call) := by
  have hspared := Master.Spares.refl .workers m
  cases call with
  | operatorCommand request => exact hf.handleOperatorCommand hs request
  | sensorEvent message => exact hf.spares (hspared.handleSensorEvent hs message)
  | positionSettled sessionId conveyorId =>
    exact hf.spares (hspared.handlePositionSettled hs sessionId conveyorId)
  | equipmentState message => exact hf.spares (hspared.handleEquipmentState hs message)
  | equipmentUpdate update => exact hf.spares (hspared.updateEquipmentSnapshot hs update)
  | captureFeedback s captureId stage batch =>
    exact hf.spares (hspared.handleCaptureFeedback hs (by simp) s captureId stage batch)
  | captureGoalResponse s captureId response =>
    exact hf.spares (hspared.handleCaptureGoalResponse hs s captureId response)
  | captureResult s captureId result =>
    exact hf.spares (hspared.handleCaptureResult hs s captureId result)
  | stationResult message => exact hf.spares (hspared.handleStationResult hs _ _)
  | stationFailure message => exact hf.spares (hspared.handleStationFailure hs _ _ _ _)
  | actuationGoalResponse job command response =>
    exact hf.spares (hspared.handleActuationGoalResponse hs job command response)
  | actuationResult job command result =>
    exact hf.spares (hspared.handleActuationResult hs job command result)
  | queueState sessionId state batch => exact hf.spares (hspared.handleQueueState hs _ _ _)
  | workerHeartbeat v message => exact absurd rfl (hheartbeat v message)
  | initializeGoalResponse v requestId response =>
    exact hf.handleInitializeGoalResponse v requestId response
  | initializeResult v requestId result => exact hf.handleInitializeResult v requestId result
  | workerStatus v requestId response => exact absurd rfl (hstatus v requestId response)
  | replayResponse generation response =>
    exact hf.spares (hspared.handleStationResultReplay hs generation response)
  | checkWorkerHeartbeats => exact hf.checkWorkerHeartbeats hs
  | checkOperationDeadlines => exact hf.spares (hspared.checkOperationDeadlines hs)
  | requestStationResultReplay => exact hf.spares hspared.requestStationResultReplay
  | flushLogSpool => exact hf.spares (hspared.flushLogSpool hs)
  | requestShutdown => exact hf.spares (hspared.requestShutdown hs)

/-- What Master does of its own accord is a run that takes in no message of the worker. -/
theorem run_of_follows (hf : Follows w a m) : ∃ k, Run w a k ∧ Tracks w k m ∧
    k.heartbeats = a.heartbeats ∧ k.statuses = a.statuses := by
  obtain ⟨k, hrun, ht⟩ := hf
  have hkept : k.heartbeats = a.heartbeats ∧ k.statuses = a.statuses := by
    refine hrun.invariant (P := fun k => k.heartbeats = a.heartbeats ∧ k.statuses = a.statuses)
      (fun k op hk hop => ?_) ⟨rfl, rfl⟩
    refine ⟨Eq.trans ?_ hk.1, Eq.trans ?_ hk.2⟩
    · exact List.filterMap_cons_none hop.2.1
    · exact List.filterMap_cons_none hop.2.2
  exact ⟨k, hrun.mono fun _ _ hop => hop.1, ht, hkept⟩

/-- One callback goes on with the history: its log takes in the heartbeat that the callback hands
to the mirror, and the status it brings if that is the one that was asked for. -/
theorem callback_recorded (hs : Master.Sparing .workers stopped) (ht : Tracks w h m)
    (call : MasterCall) : ∃ k, Run w h k ∧ Tracks w k (Master.handle stopped m call) ∧
      k.heartbeats = (heartbeatOf m.config w call).toList ++ h.heartbeats ∧
      (k.statuses = h.statuses ∨ ∃ reply, statusOf w call = some reply ∧
        k.statuses = reply :: h.statuses) := by
  by_cases hheartbeat : ∃ v message, call = .workerHeartbeat v message
  · obtain ⟨v, message, rfl⟩ := hheartbeat
    rcases follows_handleWorkerHeartbeat hs ht v message with
      ⟨hdropped, hf⟩ | ⟨healthState, hdelivered, hf⟩
    · obtain ⟨k, hrun, htracks, hheartbeats, hstatuses⟩ := run_of_follows hf
      exact ⟨k, hrun, htracks, by rw [hdropped]; exact hheartbeats, .inl hstatuses⟩
    · obtain ⟨k, hrun, htracks, hheartbeats, hstatuses⟩ := run_of_follows hf
      refine ⟨k, .trans (.single ?_) hrun, htracks, ?_, .inl hstatuses⟩
      · exact trivial
      · rw [hdelivered]
        exact hheartbeats
  · by_cases hstatus : ∃ v requestId response, call = .workerStatus v requestId response
    · obtain ⟨v, requestId, response, rfl⟩ := hstatus
      rcases follows_handleWorkerStatus ht v requestId response with
        hf | ⟨status, healthState, rfl, rfl, henabled, hf⟩
      · obtain ⟨k, hrun, htracks, hheartbeats, hstatuses⟩ := run_of_follows hf
        exact ⟨k, hrun, htracks, hheartbeats, .inl hstatuses⟩
      · obtain ⟨k, hrun, htracks, hheartbeats, hstatuses⟩ := run_of_follows hf
        refine ⟨k, .trans (.single henabled) hrun, htracks, hheartbeats, .inr ?_⟩
        exact ⟨(requestId, status), if_pos rfl, hstatuses⟩
    · have hf : Follows w h (Master.handle stopped m call) :=
        ht.follows.handle hs (fun v message hcall => hheartbeat ⟨v, message, hcall⟩)
          (fun v requestId response hcall => hstatus ⟨v, requestId, response, hcall⟩)
      obtain ⟨k, hrun, htracks, hheartbeats, hstatuses⟩ := run_of_follows hf
      have hnone : heartbeatOf m.config w call = none := by
        cases call with
        | workerHeartbeat v message => exact absurd ⟨v, message, rfl⟩ hheartbeat
        | _ => rfl
      exact ⟨k, hrun, htracks, by rw [hnone]; exact hheartbeats, .inl hstatuses⟩

end MirrorHistory

namespace Master

open MirrorHistory

variable {config : MasterConfig} {around : Surroundings} {events : List MasterEvent}

def stateAfter (config : MasterConfig) (around : Surroundings) (events : List MasterEvent) :
    Master :=
  InputRuns.runTrace next (initial config around) events

/-- The history is one of the operations, ends in the mirror that Master keeps, has taken in
exactly the heartbeats that the callbacks brought, and no status that they did not bring. -/
structure Records (config : MasterConfig) (around : Surroundings) (events : List MasterEvent)
    (w : WorkerId) (h : MirrorHistory) : Prop where
  run : MirrorHistory.Run w (start w) h
  tracks : Tracks w h (stateAfter config around events)
  heartbeats : h.heartbeats.reverse = events.filterMap fun e => heartbeatOf config w e.call
  statuses : h.statuses.reverse.Sublist (events.filterMap fun e => statusOf w e.call)

theorem run_recorded (config : MasterConfig) (around : Surroundings) (events : List MasterEvent)
    (w : WorkerId) : ∃ h, Records config around events w h := by
  induction events using List.reverseRecOn with
  | nil => exact ⟨start w, .refl _, ⟨rfl, rfl⟩, rfl, List.Sublist.refl _⟩
  | append_singleton events e ih =>
    obtain ⟨h, hrecords⟩ := ih
    have hconfig : (stateAfter config around events).config = config :=
      config_of_run (run_trace config around events)
    have hstep : stateAfter config around (events ++ [e]) =
        (stateAfter config around events).next e :=
      InputRuns.run_trace_append next _ events [e]
    obtain ⟨k, hrun, htracks, hheartbeats, hstatuses⟩ :=
      callback_recorded (m := { stateAfter config around events with around := e.around })
        (sparing_whenStopped stopDepth) (hrecords.tracks.spares rfl) e.call
    refine ⟨k, hrecords.run.trans hrun, ?_, ?_, ?_⟩
    · rw [hstep]
      exact htracks
    · rw [hheartbeats, List.reverse_append, hrecords.heartbeats, List.filterMap_append, hconfig]
      cases hnew : heartbeatOf config w e.call <;> simp [hnew]
    · rw [List.filterMap_append]
      rcases hstatuses with hstatuses | ⟨reply, hreply, hstatuses⟩ <;> rw [hstatuses]
      · exact hrecords.statuses.trans (List.sublist_append_left _ _)
      · have hone : [e].filterMap (fun e => statusOf w e.call) = [reply] := by simp [hreply]
        rw [List.reverse_cons, hone]
        exact hrecords.statuses.append (List.Sublist.refl _)

/-- READY rests on evidence of one live instance: whatever is recorded of a run, the instance of
the last accepted heartbeat has reported the session, the epoch, READY and a live Master, and
since then nothing has been processed that takes this evidence away. -/
theorem ready_on_live_evidence {w : WorkerId} {sessionId interfaceVersion : String}
    {commandEpoch : ℕ} {nowNs timeoutNs : ℤ}
    (hready : ((stateAfter config around events).workerStates w).canMarkReady sessionId
      interfaceVersion commandEpoch nowNs timeoutNs = true) :
    (∃ h, Records config around events w h) ∧
      ∀ h, Records config around events w h →
        ∃ since status, h.RestsOn sessionId commandEpoch since status := by
  refine ⟨run_recorded config around events w, fun h hrecords => ?_⟩
  rw [← hrecords.tracks.mirror] at hready
  exact rests_on_live_instance hrecords.run hready

/-- Control has been initialized. -/
theorem control_ready_on_evidence :
    (∃ h, Records (defaultConfig .sim false) { nowNs := 1, nowNs_nonneg := Int.one_nonneg }
        startUp .control h) ∧
      ∀ h, Records (defaultConfig .sim false) { nowNs := 1, nowNs_nonneg := Int.one_nonneg }
        startUp .control h → ∃ since status, h.RestsOn (numberedUuid 0) 0 since status :=
  ready_on_live_evidence (show ((stateAfter (defaultConfig .sim false)
    { nowNs := 1, nowNs_nonneg := Int.one_nonneg } startUp).workerStates .control).canMarkReady
      (numberedUuid 0) "1" 0 1000 2000000000 = true by decide +kernel)

end Master

end InspectionLine
