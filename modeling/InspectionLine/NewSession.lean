import InspectionLine.NodeBase
import InspectionLine.InputRuns

/-! # Heartbeats of a new session

The worker keeps one epoch counter over all sessions. The history lists the epochs taken over
from each session, so it can be said what the counter should be compared with. -/
namespace InspectionLine

open InputRuns

structure WorkerHistory where
  worker : Worker
  accepted : List (String × ℕ)

namespace WorkerHistory

/-- The message takes the epoch over and, for a heartbeat, refreshes the liveness. -/
def TakesHeartbeat (w : Worker) (m : MasterHeartbeat) : Prop :=
  m.interfaceVersion = w.interfaceVersion ∧ (w.sessionId = "" ∨ m.sessionId = w.sessionId) ∧
    w.commandEpoch ≤ m.commandEpoch ∧ (SystemState.ofRaw? m.systemState).isSome

def TakesCommand (w : Worker) (m : SystemCommand) : Prop :=
  m.command.sessionId = w.sessionId ∧ w.sessionId ≠ "" ∧ isUuid4 m.command.commandId = true ∧
    isSha256Hex m.command.payloadDigest = true ∧
    (w.seenSystemCommands.inspect m.command.commandId m.command.payloadDigest).1.kind = .new ∧
    w.commandEpoch ≤ m.command.commandEpoch

instance (w : Worker) (m : MasterHeartbeat) : Decidable (TakesHeartbeat w m) := by
  unfold TakesHeartbeat
  infer_instance

instance (w : Worker) (m : SystemCommand) : Decidable (TakesCommand w m) := by
  unfold TakesCommand
  infer_instance

/-- The epoch a message takes over, with the session it came from. -/
def taken (w : Worker) : NodeEvent → List (String × ℕ)
  | .masterHeartbeat m _ => if TakesHeartbeat w m then [(m.sessionId, m.commandEpoch)] else []
  | .systemCommand m =>
    if TakesCommand w m then [(m.command.sessionId, m.command.commandEpoch)] else []
  | _ => []

def next (h : WorkerHistory) (e : NodeEvent) : WorkerHistory where
  worker := h.worker.handle e
  accepted := taken h.worker e ++ h.accepted

def initial (interfaceVersion : String) (masterHeartbeatTimeoutMs : ℕ) : WorkerHistory :=
  ⟨{ interfaceVersion, masterHeartbeatTimeoutMs }, []⟩

/-- The action runs only for a goal that was accepted. -/
def Admits (h : WorkerHistory) : NodeEvent → Prop
  | .executeInitialize _ _ => h.worker.initializeInProgress = true
  | _ => True

instance (h : WorkerHistory) (e : NodeEvent) : Decidable (Admits h e) := by
  cases e <;> dsimp only [Admits] <;> infer_instance

def Reachable (h : WorkerHistory) : Prop :=
  ∃ version timeoutMs, Execution next Admits (initial version timeoutMs) h

/-- A heartbeat a Master can publish: its state field is a SystemState. -/
def FromMaster (m : MasterHeartbeat) : Prop := (SystemState.ofRaw? m.systemState).isSome

def Within (s : String) (h : WorkerHistory) (e : NodeEvent) : Prop :=
  Admits h e ∧ (next h e).worker.sessionId = s ∧
    ∀ m now, e = .masterHeartbeat m now → FromMaster m

abbrev SessionRun (s : String) : WorkerHistory → WorkerHistory → Prop := Execution next (Within s)

def NewSession (w : Worker) (s : String) : Prop :=
  ∀ e ∈ w.initializeRequests.values, e.2.success = true → e.1.sessionId ≠ s

instance (w : Worker) (s : String) : Decidable (NewSession w s) := by
  unfold NewSession
  infer_instance

def Accepts (w : Worker) (m : MasterHeartbeat) (nowNs : ℤ) : Prop :=
  (w.handleMasterHeartbeat m nowNs).lastMasterHeartbeatNs = some nowNs ∧
    (w.handleMasterHeartbeat m nowNs).commandEpoch = m.commandEpoch

/-- Every heartbeat of the session that is not older than what was accepted is accepted. -/
def NeverLockedOut (s : String) (after : WorkerHistory) : Prop :=
  ∀ later, SessionRun s after later → ∀ m nowNs, FromMaster m → m.sessionId = s →
    m.interfaceVersion = later.worker.interfaceVersion →
    (∀ e, (s, e) ∈ later.accepted → e ≤ m.commandEpoch) → Accepts later.worker m nowNs

/-- The counter is not above what the session has accepted. -/
def Covered (s : String) (h : WorkerHistory) : Prop :=
  h.worker.commandEpoch = 0 ∨ ∃ e, (s, e) ∈ h.accepted ∧ h.worker.commandEpoch ≤ e

theorem heartbeat_cases (w : Worker) (m : MasterHeartbeat) (nowNs : ℤ) :
    (TakesHeartbeat w m ∧ Accepts w m nowNs) ∨
      (¬ TakesHeartbeat w m ∧
        (w.handleMasterHeartbeat m nowNs = w ∨ ¬ FromMaster m)) := by
  unfold TakesHeartbeat Accepts FromMaster Worker.handleMasterHeartbeat
  by_cases hv : m.interfaceVersion = w.interfaceVersion
  · by_cases hs : w.sessionId ≠ "" ∧ m.sessionId ≠ w.sessionId
    · exact .inr ⟨fun h => h.2.1.elim hs.1 hs.2, .inl (by simp [hv, hs])⟩
    · by_cases he : m.commandEpoch < w.commandEpoch
      · exact .inr ⟨fun h => absurd h.2.2.1 (by omega), .inl (by simp [hv, hs, he])⟩
      · cases hstate : SystemState.ofRaw? m.systemState with
        | none => exact .inr ⟨fun h => by simp at h, .inr (by simp)⟩
        | some state =>
          have hsession : w.sessionId = "" ∨ m.sessionId = w.sessionId := by
            rw [not_and_or, not_not, not_not] at hs
            exact hs
          exact .inl ⟨⟨hv, hsession, by omega, rfl⟩, by simp [hv, hs, he]⟩
  · exact .inr ⟨fun h => hv h.1, .inl (by simp [hv])⟩

theorem system_command_epoch (w : Worker) (m : SystemCommand) :
    (TakesCommand w m ∧ (w.handleSystemCommand m).commandEpoch = m.command.commandEpoch) ∨
      (w.handleSystemCommand m).commandEpoch = w.commandEpoch := by
  have happly : ∀ v : Worker, (v.applySystemCommand m).commandEpoch = m.command.commandEpoch := by
    intro v
    unfold Worker.applySystemCommand
    split
    · rfl
    · split <;> rfl
  unfold Worker.handleSystemCommand
  split
  · exact .inr rfl
  · rename_i hsession
    split
    · exact .inr rfl
    · rename_i hform
      simp only
      split
      · exact .inr rfl
      · exact .inr rfl
      · rename_i hkind
        split
        · exact .inr rfl
        · rename_i hepoch
          rw [not_or, not_not] at hsession
          simp only [Bool.or_eq_true, Bool.not_eq_true', not_or, Bool.not_eq_false] at hform
          exact .inl ⟨⟨hsession.1, hsession.2, hform.1, hform.2, hkind, by simpa using hepoch⟩,
            happly _⟩

theorem run_initialization_epoch (w : Worker) (request : InitializeRequest)
    (around : InitializeSurroundings) :
    (w.runInitialization request around).2.commandEpoch = w.commandEpoch := by
  unfold Worker.runInitialization
  split
  · rfl
  · split
    · rfl
    · split
      · rfl
      · dsimp only
        split
        · rfl
        · split <;> rfl

theorem initialize_epoch (w : Worker) (request : InitializeRequest)
    (around : InitializeSurroundings) :
    (w.executeInitialize request around).2.commandEpoch = w.commandEpoch := by
  unfold Worker.executeInitialize
  dsimp only
  split
  · split <;> rfl
  · split
    · rfl
    · exact run_initialization_epoch w request around

theorem run_initialization_success {w : Worker} {request : InitializeRequest}
    {around : InitializeSurroundings}
    (h : (w.runInitialization request around).1.success = true) :
    (w.runInitialization request around).2.sessionId = request.sessionId := by
  unfold Worker.runInitialization at h ⊢
  split at h
  · cases h
  · split at h
    · cases h
    · split at h
      · cases h
      · rename_i hv hc hm
        dsimp only at h ⊢
        split at h
        · cases h
        · rename_i ho
          split at h
          · cases h
          · simp [hv, hc, hm, ho]

/-- A success for a session the worker never had installs that session. -/
theorem initialize_new_session {w : Worker} {request : InitializeRequest}
    {around : InitializeSurroundings} (hnew : NewSession w request.sessionId)
    (h : (w.executeInitialize request around).1.values.success = true) :
    (w.executeInitialize request around).2.sessionId = request.sessionId := by
  unfold Worker.executeInitialize at h ⊢
  dsimp only at h ⊢
  split at h
  · rename_i signature cached hcached
    split at h
    · cases h
    · rename_i hsame
      have hmem : (signature, cached) ∈ w.initializeRequests.values :=
        List.mem_map.mpr ⟨_, OrderedDict.get?_eq_some.mp hcached, rfl⟩
      exact absurd (congrArg InitializeSignature.sessionId (not_not.mp hsame))
        (hnew _ hmem h)
  · split at h
    · cases h
    · rename_i hcancel
      simp only [hcancel]
      exact run_initialization_success h

theorem heartbeat_session (w : Worker) (m : MasterHeartbeat) (nowNs : ℤ) :
    (w.handleMasterHeartbeat m nowNs).sessionId = w.sessionId := by
  unfold Worker.handleMasterHeartbeat
  repeat' split
  all_goals rfl

theorem system_command_session (w : Worker) (m : SystemCommand) :
    (w.handleSystemCommand m).sessionId = w.sessionId := by
  unfold Worker.handleSystemCommand Worker.applySystemCommand
  dsimp only
  repeat' split
  all_goals rfl

theorem goal_keeps (w : Worker) (request : InitializeRequest) :
    (w.handleInitializeGoal request).2.commandEpoch = w.commandEpoch := by
  unfold Worker.handleInitializeGoal
  repeat' split
  all_goals rfl

theorem check_keeps (w : Worker) (nowNs : ℤ) :
    (w.checkMasterHeartbeat nowNs).commandEpoch = w.commandEpoch := by
  unfold Worker.checkMasterHeartbeat
  split <;> rfl

theorem step_keeps_covered {s : String} (hs : s ≠ "") {h : WorkerHistory} {e : NodeEvent}
    (hc : Covered s h) (he : Within s h e) : Covered s (next h e) := by
  cases e with
  | masterHeartbeat m now =>
    have hsession : h.worker.sessionId = s :=
      (heartbeat_session h.worker m now).symm.trans he.2.1
    simp only [next, taken, Worker.handle]
    rcases heartbeat_cases h.worker m now with ⟨htakes, -, hepoch⟩ | ⟨hrejects, hsame⟩
    · have hm : m.sessionId = s := by
        rcases htakes.2.1 with hnone | hm
        · exact absurd (hsession.symm.trans hnone) hs
        · exact hm.trans hsession
      exact .inr ⟨m.commandEpoch, by simp [htakes, hm], hepoch.le⟩
    · have hkept := hsame.resolve_right (not_not.mpr (he.2.2 m now rfl))
      simp only [Covered, hkept, hrejects, if_false, List.nil_append]
      exact hc
  | systemCommand m =>
    have hsession : h.worker.sessionId = s :=
      (system_command_session h.worker m).symm.trans he.2.1
    simp only [next, taken, Worker.handle]
    rcases system_command_epoch h.worker m with ⟨htakes, hepoch⟩ | hkept
    · exact .inr ⟨m.command.commandEpoch, by simp [htakes, htakes.1.trans hsession], hepoch.le⟩
    · rcases hc with hzero | ⟨f, hf, hle⟩
      · exact .inl (hkept.trans hzero)
      · exact .inr ⟨f, List.mem_append_right _ hf, hkept.trans_le hle⟩
  | initializeGoal request =>
    simp only [next, taken, Worker.handle, Covered, goal_keeps, List.nil_append]
    exact hc
  | executeInitialize request around =>
    simp only [next, taken, Worker.handle, Covered, initialize_epoch, List.nil_append]
    exact hc
  | checkMasterHeartbeat now =>
    simp only [next, taken, Worker.handle, Covered, check_keeps, List.nil_append]
    exact hc
  | setHealthState state => exact hc

/-- The highest epoch accepted from a session, or zero. -/
theorem exists_highest (s : String) (accepted : List (String × ℕ)) :
    ∃ top, (∀ e, (s, e) ∈ accepted → e ≤ top) ∧ (top = 0 ∨ (s, top) ∈ accepted) := by
  induction accepted with
  | nil => exact ⟨0, by simp, .inl rfl⟩
  | cons a rest ih =>
    obtain ⟨top, hle, htop⟩ := ih
    obtain ⟨t, f⟩ := a
    by_cases ht : t = s
    · subst ht
      rcases le_total f top with hf | hf
      · refine ⟨top, ?_, htop.imp_right (List.mem_cons_of_mem _)⟩
        intro e he
        rcases List.mem_cons.mp he with he | he
        · cases he
          exact hf
        · exact hle e he
      · refine ⟨f, ?_, .inr (List.mem_cons_self ..)⟩
        intro e he
        rcases List.mem_cons.mp he with he | he
        · cases he
          exact le_refl _
        · exact (hle e he).trans hf
    · refine ⟨top, ?_, htop.imp_right (List.mem_cons_of_mem _)⟩
      intro e he
      rcases List.mem_cons.mp he with he | he
      · cases he
        exact absurd rfl ht
      · exact hle e he

theorem never_locked_out_iff {s : String} (hs : s ≠ "") {after : WorkerHistory}
    (hsession : after.worker.sessionId = s) : NeverLockedOut s after ↔ Covered s after := by
  constructor
  · intro h
    obtain ⟨top, hle, htop⟩ := exists_highest s after.accepted
    let m : MasterHeartbeat := {
      sessionId := s, masterInstanceId := "", interfaceVersion := after.worker.interfaceVersion,
      commandEpoch := top, systemState := 2 }
    obtain ⟨-, hepoch⟩ := h after (.refl _) m 0 rfl rfl rfl hle
    have hnot : ¬ top < after.worker.commandEpoch := by
      intro hlt
      have hkept : after.worker.handleMasterHeartbeat m 0 = after.worker := by
        simp [Worker.handleMasterHeartbeat, m, hsession, hlt]
      rw [hkept] at hepoch
      simp only [m] at hepoch
      omega
    rcases htop with hzero | hmem
    · exact .inl (by omega)
    · exact .inr ⟨top, hmem, by omega⟩
  · intro hcovered later hrun m now hmaster hm hversion hnewest
    have hlater : Covered s later :=
      hrun.invariant (P := Covered s) (fun _ _ hc he => step_keeps_covered hs hc he) hcovered
    have hsame : later.worker.sessionId = s := by
      cases hrun with
      | refl => exact hsession
      | tail e _ he => exact he.2.1
    have hepoch : later.worker.commandEpoch ≤ m.commandEpoch := by
      rcases hlater with hzero | ⟨e, he, hle⟩
      · omega
      · exact hle.trans (hnewest e he)
    rcases heartbeat_cases later.worker m now with ⟨-, haccepts⟩ | ⟨hrejects, -⟩
    · exact haccepts
    · exact absurd ⟨hversion, .inr (hm.trans hsame.symm), hepoch, hmaster⟩ hrejects

/-- After a new session is installed, the Master of that session is never locked out exactly
when the counter left by the earlier sessions is zero or was already reached in this one. -/
theorem new_session_never_locked_out_iff {h : WorkerHistory} {request : InitializeRequest}
    {around : InitializeSurroundings} (hgoal : isUuid4 request.sessionId = true)
    (hnew : NewSession h.worker request.sessionId)
    (hdone : (h.worker.executeInitialize request around).1.values.success = true) :
    NeverLockedOut request.sessionId (next h (.executeInitialize request around)) ↔
      Covered request.sessionId h := by
  have hs : request.sessionId ≠ "" := by
    intro hempty
    rw [hempty] at hgoal
    revert hgoal
    decide
  rw [never_locked_out_iff hs (initialize_new_session hnew hdone)]
  simp only [next, taken, Worker.handle, Covered, initialize_epoch, List.nil_append]

def sampleRequest (requestId sessionId : String) : InitializeRequest where
  requestId := requestId
  sessionId := sessionId
  configVersion := "1"
  configDigest := String.ofList (List.replicate 64 '0')
  expectedInterfaceVersion := "1.0.0"

def firstRequest : InitializeRequest :=
  sampleRequest "aaaaaaaa-0000-4000-8000-000000000001" "11111111-0000-4000-8000-000000000001"

def secondRequest : InitializeRequest :=
  sampleRequest "aaaaaaaa-0000-4000-8000-000000000002" "22222222-0000-4000-8000-000000000002"

def ready : InitializeSurroundings :=
  { resources := .ok {
      success := true, reason := "sim skeleton resource initialization completed" } }

def heartbeatOf (sessionId : String) (commandEpoch : ℕ) : NodeEvent :=
  .masterHeartbeat {
    sessionId, masterInstanceId := "master-1", interfaceVersion := "1.0.0", commandEpoch
    systemState := 3 } 1000

/-- The Master spends three epochs in the first session and restarts with a second one. -/
def restartedMaster : List NodeEvent := [
  .initializeGoal firstRequest, .executeInitialize firstRequest ready,
  heartbeatOf firstRequest.sessionId 3,
  .initializeGoal secondRequest]

/-- Before the first session the worker has heard of the second, at the epoch that the first one
gets to. -/
def announcedMaster : List NodeEvent := heartbeatOf secondRequest.sessionId 3 :: restartedMaster

theorem announced_session_never_locked_out :
    NeverLockedOut secondRequest.sessionId
      (next (runTrace next (initial "1.0.0" 2000) announcedMaster)
        (.executeInitialize secondRequest ready)) := by
  let h := runTrace next (initial "1.0.0" 2000) announcedMaster
  have hfacts : NewSession h.worker secondRequest.sessionId ∧
      (h.worker.executeInitialize secondRequest ready).1.values.success = true ∧
      (secondRequest.sessionId, 3) ∈ h.accepted ∧ h.worker.commandEpoch ≤ 3 := by decide +kernel
  obtain ⟨hnew, hdone, haccepted, hepoch⟩ := hfacts
  exact (new_session_never_locked_out_iff (by decide +kernel) hnew hdone).mpr
    (.inr ⟨3, haccepted, hepoch⟩)

/-- After the restart the worker keeps epoch 3, and the second session starts at epoch 0. -/
theorem restarted_master_is_locked_out :
    ¬ ∀ (h : WorkerHistory) (request : InitializeRequest) (around : InitializeSurroundings),
      Reachable h → Admits h (.executeInitialize request around) →
      isUuid4 request.sessionId = true → NewSession h.worker request.sessionId →
      (h.worker.executeInitialize request around).1.values.success = true →
      NeverLockedOut request.sessionId (next h (.executeInitialize request around)) := by
  intro hall
  have hreach : Reachable (runTrace next (initial "1.0.0" 2000) restartedMaster) :=
    ⟨"1.0.0", 2000, valid_trace_execution (by decide +kernel)⟩
  have hopen := hall _ secondRequest ready hreach (by decide +kernel) (by decide +kernel)
    (by decide +kernel) (by decide +kernel)
  rw [never_locked_out_iff (by decide +kernel) (by decide +kernel)] at hopen
  rcases hopen with hzero | ⟨e, he, hle⟩
  · exact absurd hzero (by decide +kernel)
  · have hnone : ∀ a ∈ (next (runTrace next (initial "1.0.0" 2000) restartedMaster)
        (.executeInitialize secondRequest ready)).accepted, a.1 ≠ secondRequest.sessionId := by
      decide +kernel
    exact hnone _ he rfl

end WorkerHistory

end InspectionLine
