import InspectionLine.MasterRefinement
import InspectionLine.ResumeSafety
import InspectionLine.WorkerFrames

/-! # Which callbacks have the line run again

All conveyors of a paused line run again when the operator asks for it, or by themselves when
Vision's full queue has recovered: then with the report of the recovery if the line has come to
rest by that time, and otherwise with the report of the stop. -/
namespace InspectionLine

open Supervision

namespace Master

variable {a m n k : Master} {stopped : Master → Master} {w : WorkerId}

/-! ### Callbacks about the workers -/

theorem Spares.scheduleInitializeRetry (h : Spares .resumes a m) (w : WorkerId) (reason : String)
    (errorCode : ℕ) (timedOut manualInterventionRequired : Bool) :
    Spares .resumes a (m.scheduleInitializeRetry w reason errorCode timedOut
      manualInterventionRequired) := by
  have hcanceled : ∀ k : Master, Spares .resumes a k →
      Spares .resumes a (if timedOut then (m.initializeGoalHandles w).elim k k.cancelGoal
        else k) := by
    intro k hk
    split
    · exact hk.elimCancelGoal _
    · exact hk
  have hretried : ∀ k : Master, Spares .resumes a k → Spares .resumes a
      (if k.systemState = .initializing then k.reportInitializationFailed reason timedOut
        else k) := by
    intro k hk
    split
    · exact hk.getD_event reason
    · exact hk
  refine hretried _ ?_
  exact hcanceled { m with
    initializeGoalHandles := Function.update m.initializeGoalHandles w none } h

theorem Spares.sendInitializeGoal (h : Spares .resumes a m) (w : WorkerId) (attempt : ℕ) :
    Spares .resumes a (m.sendInitializeGoal w attempt) := by
  simp only [Master.sendInitializeGoal]
  split
  · exact h
  · split
    · refine Spares.scheduleInitializeRetry ?_ _ _ _ _ _
      exact h
    · refine Spares.scheduleInitializeRetry ?_ _ _ _ _ _
      exact h
    · exact h

theorem Spares.startWorkerInitialization (h : Spares .resumes a m) :
    Spares .resumes a m.startWorkerInitialization := by
  simp only [Master.startWorkerInitialization]
  split
  · exact h
  · refine Spares.foldl (fun k w hk => hk.sendInitializeGoal w 1) _ ?_
    exact h

theorem Spares.handleInitializeGoalResponse (h : Spares .resumes a m) (w : WorkerId)
    (requestId : String) (response : Except String GoalReply) :
    Spares .resumes a (m.handleInitializeGoalResponse w requestId response) := by
  simp only [Master.handleInitializeGoalResponse]
  split
  · exact h
  · split
    · exact h.scheduleInitializeRetry _ _ _ _ _
    · split
      · exact h.scheduleInitializeRetry _ _ _ _ _
      · exact h

theorem Spares.requestWorkerStatus (h : Spares .resumes a m) (w : WorkerId) :
    Spares .resumes a (m.requestWorkerStatus w) := by
  simp only [Master.requestWorkerStatus]
  split
  · exact h
  · split
    · exact h
    · refine Spares.scheduleInitializeRetry ?_ _ _ _ _ _
      exact h
    · exact h

theorem Spares.handleInitializeResult (h : Spares .resumes a m) (w : WorkerId) (requestId : String)
    (result : Except String InitializeReply) :
    Spares .resumes a (m.handleInitializeResult w requestId result) := by
  have hcleared : Spares .resumes a
      { m with initializeGoalHandles := Function.update m.initializeGoalHandles w none } := h
  simp only [Master.handleInitializeResult]
  split
  · exact h
  · split
    · exact hcleared.scheduleInitializeRetry _ _ _ _ _
    · split
      · exact hcleared.scheduleInitializeRetry _ _ _ _ _
      · split
        · exact hcleared.scheduleInitializeRetry _ _ _ _ _
        · split
          · exact hcleared.scheduleInitializeRetry _ _ _ _ _
          · split
            · exact hcleared.scheduleInitializeRetry _ _ _ _ _
            · refine Spares.requestWorkerStatus ?_ _
              exact hcleared

theorem Spares.tryMarkWorkerReady (h : Spares .resumes a m) (w : WorkerId) :
    Spares .resumes a (m.tryMarkWorkerReady w).2 := by
  have hmarked : Spares .resumes a (if (m.workerStates w).ready then m
      else m.updateWorker w fun state => state.markReady) := by
    split <;> exact h
  have hhealthy : ∀ (k : Master) (p : Prop) [Decidable p], Spares .resumes a k →
      Spares .resumes a (if p then k.setHealthState .ready else k) := by
    intro k p _ hk
    split <;> exact hk
  unfold Master.tryMarkWorkerReady
  split
  · exact h
  · exact hhealthy _ _ hmarked.maybeCompleteInitialization

theorem Spares.handleWorkerStatus (h : Spares .resumes a m) (w : WorkerId) (requestId : String)
    (response : Except String NodeStatus) :
    Spares .resumes a (m.handleWorkerStatus w requestId response) := by
  have hanswered : Spares .resumes a
      (m.updateWorker w fun state => { state with statusRequestId := "" }) := h
  simp only [Master.handleWorkerStatus]
  split
  · exact h
  · split
    · exact hanswered
    · split
      · exact hanswered.scheduleInitializeRetry _ _ _ _ _
      · split
        · exact hanswered.scheduleInitializeRetry _ _ _ _ _
        · split
          · exact hanswered.scheduleInitializeRetry _ _ _ _ _
          · split
            · exact hanswered.scheduleInitializeRetry _ _ _ _ _
            · rename_i response _ _ _ _ healthState _
              have hrecorded : Spares .resumes a ((m.updateWorker w fun state =>
                  { state with statusRequestId := "" }).updateWorker w fun state =>
                    state.recordStatus response healthState) := h
              have hready := hrecorded.tryMarkWorkerReady w
              split
              · exact hrecorded
              · split <;> rename_i heq <;> rw [heq] at hready <;> exact hready

theorem not_all_ready (h : (m.workerStates w).ready = false) :
    m.allWorkersReadyForSession = false := by
  by_contra hall
  have hready := List.all_eq_true.mp (Bool.not_eq_false _ ▸ hall) w (by cases w <;> decide)
  simp [h] at hready

section Confirmed

variable (hs : Sparing .resumes stopped)
include hs

/-- An outage of Vision pauses the line until it recovers, and Vision is not ready then. -/
theorem Spares.handleWorkerUnavailable (h : Spares .resumes a m) (w : WorkerId) (reason : String)
    (restarted versionMismatch : Bool) :
    Spares .resumes a (m.handleWorkerUnavailable stopped w reason restarted versionMismatch) := by
  simp only [Master.handleWorkerUnavailable]
  split
  · split
    · exact h
    · refine Spares.scheduleInitializeRetry ?_ _ _ _ _ _
      exact h
  · have hrest : ∀ k : Master, Spares .resumes a k → k.allWorkersReadyForSession = false →
        Spares .resumes a (if w = .control ∧ (k.systemState = .runSys ∨ k.systemState = .pausing)
        then (k.reportCriticalFault stopped reason .lineClearRequired).2
        else if w = .vision ∧ k.systemState = .runSys then
          (k.requestRecoverableDevicePause stopped reason
            (if restarted then .deviceRecoveryManual else .deviceRecoveryAuto)).2
        else k.setHealthState .degraded) := by
      intro k hk hready
      split
      · exact hk.reportCriticalFault hs _ _
      · split
        · exact hk.requestRecoverableDevicePause hs _ (.inr (.inr hready))
        · exact hk
    have hresidency : ∀ k : Master, Spares .resumes a k →
        Spares .resumes a (if w = .vision then k.recordVisionOutageResidency else k) := by
      intro k hk
      split
      · exact hk.recordVisionOutageResidency
      · exact hk
    have hworkers : ∀ k : Master, Spares .workers k
        (if w = .vision then k.recordVisionOutageResidency else k) := by
      intro k
      split
      · exact (Spares.refl .workers k).recordVisionOutageResidency
      · exact .refl .workers k
    refine hrest _ (hresidency _ ?_) (not_all_ready (w := w) ?_)
    · exact h
    · refine (congrArg (fun view => (view.1 w).ready) (hworkers _)).trans ?_
      simp [workerView, updateWorker, WorkerRuntimeState.scheduleRetry]

theorem Spares.handleWorkerRestart (h : Spares .resumes a m) (w : WorkerId) :
    Spares .resumes a (m.handleWorkerRestart stopped w) := by
  have hreplay : Spares .resumes a (if w = .vision ∨ w = .log then { m with
      stationReplayGeneration := m.stationReplayGeneration + 1
      stationReplayOffset := 0
      stationReplayInflight := false } else m) := by
    split <;> exact h
  refine Spares.handleWorkerUnavailable hs ?_ _ _ _ _
  exact hreplay

theorem Spares.handleWorkerHeartbeat (h : Spares .resumes a m) (w : WorkerId)
    (message : NodeHeartbeat) : Spares .resumes a (m.handleWorkerHeartbeat stopped w message) := by
  simp only [Master.handleWorkerHeartbeat]
  split
  · exact h
  · split
    · refine Spares.handleWorkerUnavailable hs ?_ _ _ _ _
      exact h
    · split
      · exact h
      · split
        · exact h
        · rename_i healthState _ _
          generalize ((m.workerStates w).acceptHeartbeat message.nodeInstanceId message.sequence
            healthState message.interfaceVersion message.sessionId m.nowNs) = accepted
          have hseen : ∀ outages, Spares .resumes a { m.updateWorker w fun _ => accepted.2 with
              reportedWorkerOutages := outages } := fun _ => h
          split
          · exact (hseen _).handleWorkerRestart hs w
          · split
            · split
              · exact (hseen _).handleWorkerUnavailable hs _ _ _ _
              · exact hseen _
            · split
              · refine Spares.requestWorkerStatus ?_ _
                exact h
              · split
                · exact (hseen _).tryMarkWorkerReady w
                · exact hseen _

omit hs in
theorem Spares.advanceWorkerInitialization (h : Spares .resumes a m) (w : WorkerId) :
    Spares .resumes a (m.advanceWorkerInitialization w) := by
  simp only [Master.advanceWorkerInitialization]
  split
  · exact h.scheduleInitializeRetry _ _ _ _ _
  · split
    · exact h.requestWorkerStatus w
    · split
      · exact h.sendInitializeGoal w _
      · split
        · exact h.scheduleInitializeRetry _ _ _ _ _
        · exact h

theorem Spares.checkWorkerHeartbeats (h : Spares .resumes a m) :
    Spares .resumes a (m.checkWorkerHeartbeats stopped) := by
  have hadvanced : Spares .resumes a (WorkerId.all.foldl Master.advanceWorkerInitialization m) :=
    h.foldl (fun k w hk => hk.advanceWorkerInitialization w) _
  simp only [Master.checkWorkerHeartbeats]
  split
  · exact hadvanced
  · refine hadvanced.foldl (fun k w hk => ?_) _
    unfold Master.checkWorkerHeartbeat
    split
    · exact hk
    · split
      · exact hk
      · exact hk.handleWorkerUnavailable hs _ _ _ _

theorem Spares.requestReset (h : Spares .resumes a m) (reason : String) :
    Spares .resumes a (m.requestReset stopped reason).2 := by
  simp only [Master.requestReset, Master.startResetSequence]
  split
  · exact h
  · split
    · exact h
    · rename_i n hm
      have hn := spares_of_event hm h
      split
      · refine Spares.confirmResetCompleted hs ?_
        exact hn
      · exact hn

/-! ### Granted requests -/

/-- A resume request is refused and changes nothing, or it is granted: then nothing that it looks
at speaks against it, and the line is as it was. -/
theorem resume_granted (m : Master) (reason : String) (automatic : Bool) :
    Spares .resumes m (m.requestResume stopped reason automatic).2 ∨
      (automatic = true → m.pauseReason = some .deviceRecoveryAuto) ∧
        m.verifyResumeConditions = true ∧
        (m.requestResume stopped reason automatic).2.history.resumeRequests =
          ⟨m.line, m.pausedByQueue, automatic⟩ :: m.history.resumeRequests := by
  by_cases hauto : automatic = true ∧ m.pauseReason ≠ some .deviceRecoveryAuto
  · exact .inl ((Spares.refl _ m).requestResume hs _ _ fun _ => .inl hauto)
  · by_cases hverified : m.verifyResumeConditions = true
    · refine .inr ⟨fun ha => not_not.mp fun hr => hauto ⟨ha, hr⟩, hverified, ?_⟩
      have hpaused : m.systemState = .paused := by
        simp only [verifyResumeConditions, Bool.and_eq_true, decide_eq_true_eq] at hverified
        exact hverified.1.1.1.1.1
      cases hm : m.applySystemEvent (if automatic then .deviceRecovered else .resumeRequest)
          reason with
      | none =>
        exfalso
        revert hm
        cases automatic <;> simp [applySystemEvent, decideSystemTransition, hpaused, faultRule,
          transitionRule]
      | some n =>
        obtain ⟨t, _, _, hn⟩ := apply_system_event_spec hm
        have hrun : Spares .resumes ({ n with pendingRunConfirmation := true }.noteResumeRequest
            automatic) (m.requestResume stopped reason automatic).2 := by
          simp only [Master.requestResume, if_neg hauto, hverified, hm]
          exact (Spares.refl _ _).requestConveyorRun hs _
        refine Eq.trans hrun ?_
        simp only [noteResumeRequest, hn]
        rfl
    · exact .inl ((Spares.refl _ m).requestResume hs _ _ fun _ =>
        .inr ((Bool.not_eq_true _).mp hverified))

end Confirmed

/-! ### The events that ask for a run -/

/-- The command is valid and new, so it is executed. -/
def Executes (m : Master) (request : OperatorRequest) : Prop :=
  let requestId := if request.requestId = "" then m.newUuid.1 else request.requestId
  isUuid4 requestId = true ∧ m.operatorResults.get? requestId = none

/-- A paused line waits for nothing but its stop: Vision's full queue has recovered. -/
@[mk_iff]
structure AwaitsRecovery (m : Master) (equipment : EquipmentSnapshot) : Prop where
  waiting : m.systemState = .pausing ∨ m.systemState = .paused
  goesOn : m.shutdownRequested = false
  pausedByQueue : m.pausedByQueue = true
  recovered : m.queueRecoveredPending = true
  automatic : m.pauseReason = some .deviceRecoveryAuto
  workers : m.allWorkersReadyForSession = true
  safe : equipment.inPlaceGuardsSatisfied = true
  policy : m.recoveryPolicy ≠ .lineClearRequired

/-- Vision reports that its full queue has recovered, and the line has come to rest for it. -/
@[mk_iff]
structure RecoversByQueue (m : Master) (sessionId : String) (state : ℕ) : Prop where
  session : sessionId = m.config.sessionId
  accepting : state = 1
  pausedByQueue : m.pausedByQueue = true
  automatic : m.pauseReason = some .deviceRecoveryAuto
  guards : { m with queueRecoveredPending := true }.verifyResumeConditions = true

/-- Control reports that the conveyors have stopped, after the full queue has recovered. The FIFO
counts as it is unless the report also has products move on. -/
@[mk_iff]
structure RecoversByStop (m : Master) (message : EquipmentState) : Prop where
  session : message.sessionId = m.config.sessionId
  stopped : (m.equipment.updated message.update).allConveyorsStopped = true
  awaits : m.AwaitsRecovery (m.equipment.updated message.update)
  aligned : (∀ c, message.running c = false) → m.validateFifoAlignment = true

/-- The event asks for a run of all conveyors after a pause, and nothing that is looked at speaks
against it in the state before. -/
def AsksToResume (m : Master) (e : MasterEvent) : Prop :=
  let m : Master := { m with around := e.around }
  match e.call with
  | .operatorCommand request =>
    request.commandType = 4 ∧ m.Executes request ∧ m.verifyResumeConditions = true
  | .queueState sessionId state _ => m.RecoversByQueue sessionId state
  | .equipmentState message => m.RecoversByStop message
  | _ => False

instance (m : Master) (request : OperatorRequest) : Decidable (m.Executes request) :=
  inferInstanceAs (Decidable (_ ∧ _))

instance (m : Master) (equipment : EquipmentSnapshot) :
    Decidable (m.AwaitsRecovery equipment) := decidable_of_iff' _ (awaitsRecovery_iff m equipment)

instance (m : Master) (sessionId : String) (state : ℕ) :
    Decidable (m.RecoversByQueue sessionId state) :=
  decidable_of_iff' _ (recoversByQueue_iff m sessionId state)

instance (m : Master) (message : EquipmentState) : Decidable (m.RecoversByStop message) :=
  decidable_of_iff' _ (recoversByStop_iff m message)

instance (m : Master) (e : MasterEvent) : Decidable (m.AsksToResume e) := by
  apply e.call.casesOn (motive := fun call => Decidable (m.AsksToResume ⟨call, e.around⟩)) <;>
    intros <;> dsimp only [AsksToResume] <;> infer_instance

/-- A resume request has been granted; if the line was at rest before, it found it at rest. -/
def Requested (m n : Master) : Prop :=
  ∃ request : ResumeRequest, n.history.resumeRequests = request :: m.history.resumeRequests ∧
    (AtRest m.line → AtRest request.line)

section Confirmed

variable (hs : Sparing .resumes stopped)
include hs

theorem operator_handler_requests {request : OperatorRequest} {reason : String} {accepted : Bool}
    (hm : m.operatorHandler stopped request reason = some (accepted, n)) :
    Spares .resumes m n ∨ request.commandType = 4 ∧ m.verifyResumeConditions = true ∧
      Requested m n := by
  have hspared := Spares.refl .resumes m
  have hinitialized : Spares .resumes m (m.requestInitialize reason).2 := by
    simp only [Master.requestInitialize]
    split
    · exact hspared
    · exact (spares_of_event ‹_› hspared).startWorkerInitialization
  have hcleared : Spares .resumes m (m.confirmLineCleared request.operatorId).2 := by
    simp only [Master.confirmLineCleared]
    split
    · exact hspared
    · refine Spares.emitLogEvent ?_
      exact hspared
  have hanswer : ∀ r : Bool × Master, Spares .resumes m r.2 → some r = some (accepted, n) →
      Spares .resumes m n := by
    intro r hr heq
    rw [Option.some.inj heq] at hr
    exact hr
  unfold Master.operatorHandler at hm
  split at hm
  · exact .inl (hanswer _ hinitialized hm)
  · exact .inl (hanswer _ (hspared.requestRun hs reason) hm)
  · exact .inl (hanswer _ (hspared.requestPause hs reason) hm)
  · rename_i hresume
    rcases resume_granted hs m reason false with hrefused | ⟨_, hverified, hgranted⟩
    · exact .inl (hanswer _ hrefused hm)
    · rw [Option.some.inj hm] at hgranted
      exact .inr ⟨hresume, hverified, _, hgranted, id⟩
  · exact .inl (hanswer _ (hspared.requestReset hs reason) hm)
  · exact .inl (hanswer _ hcleared hm)
  · cases hm

theorem operator_command_requests (m : Master) (request : OperatorRequest) :
    Spares .resumes m (m.handleOperatorCommand stopped request) ∨
      (request.commandType = 4 ∧ m.Executes request ∧ m.verifyResumeConditions = true) ∧
        Requested m (m.handleOperatorCommand stopped request) := by
  have hrun : ∀ k : Master, Spares .resumes k (k.runOperatorCommand stopped request).2.2 ∨
      request.commandType = 4 ∧ k.verifyResumeConditions = true ∧
        Requested k (k.runOperatorCommand stopped request).2.2 := by
    intro k
    simp only [Master.runOperatorCommand]
    split
    · exact .inl (.refl _ k)
    · split
      · exact .inl (.refl _ k)
      · exact operator_handler_requests hs ‹_›
  simp only [Master.handleOperatorCommand]
  generalize hidentified : (if request.requestId = "" then (m.newUuid.1, m.newUuid.2)
    else (request.requestId, m)) = identified
  obtain ⟨requestId, k⟩ := identified
  have hid : (if request.requestId = "" then m.newUuid.1 else request.requestId) = requestId := by
    split at hidentified <;> cases hidentified <;> simp_all
  have hk : ∃ issued, k = { m with uuidsIssued := issued } := by
    split at hidentified <;> cases hidentified
    · exact ⟨m.uuidsIssued + 1, rfl⟩
    · exact ⟨m.uuidsIssued, rfl⟩
  obtain ⟨issued, rfl⟩ := hk
  have hsame : ∀ operatorResults, Spares .resumes m
      { m with uuidsIssued := issued, operatorResults } := fun _ => rfl
  simp only
  split
  · exact .inl (hsame m.operatorResults)
  · rename_i huuid
    rcases m.operatorResults.inspect_cases requestId (m.config.payloadDigest
        [("command_type", toString request.commandType), ("operator_id", request.operatorId),
          ("reason", request.reason)]) with
      ⟨hnew, hkind⟩ | ⟨_, _, _, _, hkind⟩ | ⟨_, _, hkind⟩
    · rcases hrun { m with
          uuidsIssued := issued
          operatorResults := (m.operatorResults.inspect requestId (m.config.payloadDigest
            [("command_type", toString request.commandType), ("operator_id", request.operatorId),
              ("reason", request.reason)])).2 } with hspared | ⟨hresume, hverified, hrequested⟩
      · refine .inl ?_
        simp only [hkind]
        exact hspared
      · refine .inr ⟨⟨hresume, ⟨?_, ?_⟩, hverified⟩, ?_⟩
        · rw [hid]
          simpa using huuid
        · rw [hid]
          exact hnew
        · simp only [hkind]
          exact hrequested
    · simp only [hkind]
      exact .inl rfl
    · simp only [hkind]
      exact .inl rfl

/-! ### A confirmed stop -/

/-- A resume request was granted with the line as it was. -/
def Granted (m n : Master) : Prop :=
  ∃ request : ResumeRequest, n.history.resumeRequests = request :: m.history.resumeRequests ∧
    request.line = m.line

theorem recovery_requests (m : Master) :
    Spares .resumes m (m.resumeAfterQueueRecovery stopped) ∨
      (m.pauseReason = some .deviceRecoveryAuto ∧ m.verifyResumeConditions = true) ∧
        Granted m (m.resumeAfterQueueRecovery stopped) := by
  have hgranted := resume_granted hs m "Vision queue recovered" true
  simp only [Master.resumeAfterQueueRecovery]
  split
  · exact .inl (.refl _ m)
  · split <;> rename_i heq <;> rw [heq] at hgranted
    · rcases hgranted with hrefused | ⟨hauto, hverified, hlogged⟩
      · exact .inl hrefused
      · exact .inr ⟨⟨hauto rfl, hverified⟩, _, hlogged, rfl⟩
    · rcases hgranted with hrefused | ⟨hauto, hverified, hlogged⟩
      · exact .inl hrefused
      · exact .inr ⟨⟨hauto rfl, hverified⟩, _, hlogged, rfl⟩

omit hs in
theorem verified_awaits (hauto : m.pauseReason = some .deviceRecoveryAuto)
    (hverified : m.verifyResumeConditions = true) (hgoes : m.shutdownRequested = false)
    (hqueue : m.pausedByQueue = true ∧ m.queueRecoveredPending = true) :
    m.AwaitsRecovery m.equipment ∧ m.validateFifoAlignment = true := by
  simp only [verifyResumeConditions, Bool.and_eq_true, decide_eq_true_eq] at hverified
  obtain ⟨⟨⟨⟨⟨hpaused, hworkers⟩, hsafe⟩, haligned⟩, hpolicy⟩, _⟩ := hverified
  exact ⟨⟨.inr hpaused, hgoes, hqueue.1, hqueue.2, hauto, hworkers, hsafe, hpolicy⟩, haligned⟩

theorem after_stop_requests (m : Master) :
    Spares .resumes m (m.afterConveyorsStopped stopped) ∨
      (m.AwaitsRecovery m.equipment ∧ m.validateFifoAlignment = true) ∧
        Granted m (m.afterConveyorsStopped stopped) := by
  simp only [Master.afterConveyorsStopped]
  split
  · exact .inl ((Spares.refl .resumes m).finalizeShutdownSequence hs)
  · rename_i hgoes
    split
    · exact .inl (.refl _ m)
    · split
      · rename_i hqueue
        refine (recovery_requests hs m).imp_right ?_
        rintro ⟨⟨hauto, hverified⟩, hresumed⟩
        exact ⟨verified_awaits hauto hverified ((Bool.not_eq_true _).mp hgoes) hqueue, hresumed⟩
      · exact .inl (.refl _ m)

/-- The confirmation of a stop has the line run again only when nothing else was waited for. -/
theorem stop_requests (m : Master) :
    Spares .resumes m (m.confirmAllConveyorsStopped stopped) ∨
      (m.AwaitsRecovery m.equipment.markAllStopped ∧ m.validateFifoAlignment = true) ∧
        Granted m (m.confirmAllConveyorsStopped stopped) := by
  simp only [Master.confirmAllConveyorsStopped]
  split
  · refine (after_stop_requests hs _).imp_right ?_
    rintro ⟨⟨hawaits, haligned⟩, hresumed⟩
    exact ⟨⟨⟨hawaits.waiting, hawaits.goesOn, hawaits.pausedByQueue, hawaits.recovered,
      hawaits.automatic, hawaits.workers, hawaits.safe, hawaits.policy⟩, haligned⟩, hresumed⟩
  · rename_i hpausing
    have hsame := Spares.refl .resumes m
    split
    · refine .inl (Spares.reportCriticalFault hs ?_ _ _)
      exact hsame
    · split
      · exact .inl hsame
      · rename_i n hn
        have hspared : Spares .resumes m n := spares_of_event hn hsame
        obtain ⟨t, _, _, hentered⟩ := apply_system_event_spec hn
        have hworkers := workers_of_event hn
        have hreason := pauseReason_applySystemEvent hn
        have hshutdown := shutdown_of_event hn
        have hrecovery := recovery_of_event hn
        have hafter : ∀ k : Master, k.toSupervision = n.toSupervision → k.pauseReason =
            n.pauseReason → k.allWorkersReadyForSession = n.allWorkersReadyForSession →
            k.shutdownRequested = n.shutdownRequested →
            k.queueRecoveredPending = n.queueRecoveredPending →
            Spares .resumes m (k.afterConveyorsStopped stopped) ∨
              (m.AwaitsRecovery m.equipment.markAllStopped ∧ m.validateFifoAlignment = true) ∧
                Granted m (k.afterConveyorsStopped stopped) := by
          intro k hk hr hw hd hq
          have hline := hk.trans hentered
          have hlogged : k.history.resumeRequests = m.history.resumeRequests :=
            congrArg (·.history.resumeRequests) hline
          rcases after_stop_requests hs k with hrefused | ⟨⟨hawaits, haligned⟩, request, hnext, hat⟩
          · exact .inl (Eq.trans hrefused hlogged)
          · refine .inr ⟨⟨⟨.inl (not_not.mp hpausing), ?_, ?_, ?_, ?_, ?_, ?_, ?_⟩, ?_⟩, request,
              hnext.trans (congrArg _ hlogged), hat.trans (congrArg (·.line) hline)⟩
            · exact hshutdown.symm.trans (hd.symm.trans hawaits.goesOn)
            · exact (congrArg (·.pausedByQueue) hline).symm.trans hawaits.pausedByQueue
            · exact hrecovery.symm.trans (hq.symm.trans hawaits.recovered)
            · exact hreason.symm.trans (hr.symm.trans hawaits.automatic)
            · exact hworkers.symm.trans (hw.symm.trans hawaits.workers)
            · exact (congrArg (·.equipment.inPlaceGuardsSatisfied) hline).symm.trans hawaits.safe
            · intro hpolicy
              exact hawaits.policy ((congrArg (·.recoveryPolicy) hline).trans hpolicy)
            · exact (congrArg (·.line.ledger.validateAlignment) hline).symm.trans haligned
        split
        · exact hafter _ rfl rfl rfl rfl rfl
        · exact hafter _ rfl rfl rfl rfl rfl

end Confirmed

/-! ### Reports of the conveyors -/

/-- The cycles are the earlier ones but for their deadlines, and no capture is lost. -/
theorem at_rest_kept {before after : PhysicalLine} (h : AtRest before)
    (hcycles : ∀ s cycle, after.stationCycles.get? s = some cycle →
      ∃ deadlineNs, before.stationCycles.get? s = some { cycle with deadlineNs })
    (hstations : ∀ p f, (after.ledger.get p f).map (·.stations) =
      (before.ledger.get p f).map (·.stations)) : AtRest after := by
  intro s cycle hcycle
  obtain ⟨deadlineNs, hbefore⟩ := hcycles s cycle hcycle
  have hrest := h s _ hbefore
  have hstation : (after.ledger.get cycle.productId cycle.fifoSequence).map
      (·.station cycle.stationId) = (before.ledger.get cycle.productId cycle.fifoSequence).map
      (·.station cycle.stationId) := by
    have hsame := congrArg (Option.map fun stations => stations cycle.stationId)
      (hstations cycle.productId cycle.fifoSequence)
    rw [Option.map_map, Option.map_map] at hsame
    exact hsame
  simp only [NeedsRest] at hrest ⊢
  rw [hstation]
  exact hrest

theorem resumed_stations (c : ProductContext) (s : StationId) :
    ((ContextOp.markConveyorResumedAfterCapture s).apply c).2.stations = c.stations := by
  simp only [ContextOp.apply, ContextOp.reply, ProductContext.markConveyorResumedAfterCapture]
  split
  · rfl
  · cases s <;> rfl

theorem resumed_captures (L : ProductLedger) (q p : String) (f : ℕ) (s : StationId) :
    ((L.operate q (.markConveyorResumedAfterCapture s)).2.get p f).map (·.stations) =
      (L.get p f).map (·.stations) := by
  simp only [ProductLedger.get, ProductLedger.get?_operate]
  split
  · cases L.byId.get? p with
    | none => rfl
    | some c =>
      have hsequence := (ContextOp.apply_same_identity (.markConveyorResumedAfterCapture s)
        c).fifoSequence
      by_cases hf : c.fifoSequence = f
      · simp [Option.filter, hsequence, hf, resumed_stations]
      · simp [Option.filter, hsequence, hf]
  · rfl

/-- The line is as it was, but its conveyors have been reported on. -/
theorem at_rest_popped {line : PhysicalLine} (h : AtRest line) (p : String) (s : StationId)
    (resumes : List Scope) :
    AtRest { line.operate p (.markConveyorResumedAfterCapture s) with
      stationCycles := line.stationCycles.pop s, deferredCaptureResumes := resumes } := by
  refine at_rest_kept h (fun t cycle hcycle => ?_) (fun q f => resumed_captures _ _ _ _ _)
  have hget : (line.stationCycles.pop s).get? t = some cycle := hcycle
  rw [StationCycles.get?_pop] at hget
  split at hget
  · cases hget
  · exact ⟨cycle.deadlineNs, hget⟩

theorem fault_stopped (hs : Settles stopped) (m : Master) (reason : String) :
    (m.faultStop stopped reason).systemState = .faultStop := by
  obtain ⟨n, hm⟩ := applies_fault ({ m with
    recoveryPolicy := .lineClearRequired, pendingRunConfirmation := false } : Master) reason
      (.inl rfl)
  have hstate := state_after_fault hm (.inl rfl)
  obtain ⟨equipment, _, _, hquiet⟩ := stop_in_fault hs hstate reason
  have hnote : m.noteIf (decide (RecoveryPolicy.lineClearRequired ≠ .lineClearRequired) &&
      lineClearLatched m.transitions) .weakenedLatch = m := rfl
  simp only [Master.faultStop, Master.reportCriticalFault, hnote, hm, if_true,
    Master.requestLineClear, toSupervision_emitLogEvent, hquiet]
  exact hstate

/-- What is looked at before a pause ends is as it was, and captures at rest still are. -/
structure StillPaused (m k : Master) : Prop where
  systemState : k.systemState = m.systemState
  shutdown : k.shutdownRequested = m.shutdownRequested
  pauseReason : k.pauseReason = m.pauseReason
  pausedByQueue : k.pausedByQueue = m.pausedByQueue
  recovered : k.queueRecoveredPending = m.queueRecoveredPending
  policy : k.recoveryPolicy = m.recoveryPolicy
  equipment : k.equipment = m.equipment
  workers : k.allWorkersReadyForSession = m.allWorkersReadyForSession
  rest : AtRest m.line → AtRest k.line

theorem StillPaused.refl (m : Master) : StillPaused m m :=
  ⟨rfl, rfl, rfl, rfl, rfl, rfl, rfl, rfl, id⟩

theorem StillPaused.emitLogEvent (h : StillPaused m k) : StillPaused m k.emitLogEvent := by
  unfold Master.emitLogEvent
  split <;> exact ⟨h.systemState, h.shutdown, h.pauseReason, h.pausedByQueue, h.recovered,
    h.policy, h.equipment, h.workers, h.rest⟩

theorem StillPaused.awaits {equipment : EquipmentSnapshot} (h : StillPaused m k)
    (hk : k.AwaitsRecovery equipment) : m.AwaitsRecovery equipment where
  waiting := h.systemState ▸ hk.waiting
  goesOn := h.shutdown ▸ hk.goesOn
  pausedByQueue := h.pausedByQueue ▸ hk.pausedByQueue
  recovered := h.recovered ▸ hk.recovered
  automatic := h.pauseReason ▸ hk.automatic
  workers := h.workers ▸ hk.workers
  safe := hk.safe
  policy := h.policy ▸ hk.policy

/-- A pause is as it was, or a fault has ended it. -/
def PausedOrFaulted (m k : Master) : Prop :=
  Spares .resumes m k ∧ (k.systemState = .faultStop ∨ StillPaused m k)

section Confirmed

variable (hs : Sparing .resumes stopped) (hsettles : Settles stopped)
include hs hsettles

theorem PausedOrFaulted.confirmConveyorResumed (h : PausedOrFaulted m k) (productId : String)
    (s : StationId) : PausedOrFaulted m (k.confirmConveyorResumed stopped productId s).2 := by
  refine ⟨h.1.confirmConveyorResumed hs productId s, ?_⟩
  simp only [Master.confirmConveyorResumed]
  split
  · exact h.2
  · split
    · exact h.2
    · split
      · obtain ⟨hfault, hsame⟩ := ignored_of_some ‹_›
        exact .inl ((congrArg (·.systemState) hsame).trans hfault)
      · rename_i hworking
        split
        · exact .inl (fault_stopped hsettles _ _)
        · split
          · exact .inl (fault_stopped hsettles _ _)
          · rename_i heq
            obtain rfl := congrArg Prod.snd heq
            rcases h.2 with hfault | hpaused
            · simp [ignoreOperationWhileFaultStopped, hfault] at hworking
            · refine .inr (StillPaused.emitLogEvent ?_)
              exact ⟨hpaused.systemState, hpaused.shutdown, hpaused.pauseReason,
                hpaused.pausedByQueue, hpaused.recovered, hpaused.policy, hpaused.equipment,
                hpaused.workers, fun hrest => at_rest_popped (hpaused.rest hrest) _ _ _⟩

theorem PausedOrFaulted.confirmPendingResume (h : PausedOrFaulted m k) (started : Bool)
    (conveyor : ConveyorId) :
    PausedOrFaulted m (if started then k.confirmPendingResume stopped conveyor else k) := by
  have hloop : ∀ (items : List (StationId × StationCycle)) (k : Master), PausedOrFaulted m k →
      PausedOrFaulted m (items.foldl (fun k item =>
        if item.2.conveyorId = conveyor ∧ item.2.phase = .resumePending then
          (k.confirmConveyorResumed stopped item.2.productId item.1).2 else k) k) := by
    intro items
    induction items with
    | nil => exact fun k hk => hk
    | cons item rest ih =>
      intro k hk
      refine ih _ ?_
      dsimp only
      split
      · exact hk.confirmConveyorResumed hs hsettles _ _
      · exact hk
  split
  · exact hloop _ k h
  · exact h

omit hsettles in
/-- The run that is confirmed is not one that waits for a recovery. -/
theorem PausedOrFaulted.confirmAllConveyorsRunning (hmanual : Sparing .manual stopped)
    (h : PausedOrFaulted m k) (running : Bool) :
    Spares .resumes m
        (if running then (k.confirmAllConveyorsRunning stopped).2 else k) ∧
      ((if running then (k.confirmAllConveyorsRunning stopped).2 else k) = k ∨
        StaysStopped (if running then (k.confirmAllConveyorsRunning stopped).2 else k)) := by
  split
  · refine ⟨h.1.confirmAllConveyorsRunning hs, ?_⟩
    simp only [Master.confirmAllConveyorsRunning]
    split
    · exact .inl rfl
    · split
      · exact .inl rfl
      · refine .inr (.inr (.inr (.inl ?_)))
        refine Spares.resumeDeferredOperations hmanual (Spares.refl .manual _) ?_
        simp
  · exact ⟨h.1, .inl rfl⟩

omit hs hsettles in
theorem stopped_guards {equipment : EquipmentSnapshot}
    (hstopped : equipment.allConveyorsStopped = true)
    (h : equipment.markAllStopped.inPlaceGuardsSatisfied = true) :
    equipment.inPlaceGuardsSatisfied = true := by
  simp only [EquipmentSnapshot.inPlaceGuardsSatisfied, Bool.and_eq_true] at h ⊢
  exact ⟨⟨hstopped, h.1.2⟩, h.2⟩

omit hs hsettles in
/-- A pause that is not over yet, and a run that is not to be confirmed. -/
theorem PausedOrFaulted.awaits {equipment : EquipmentSnapshot} (h : PausedOrFaulted m k)
    (hn : n = k ∨ StaysStopped n) (hawaits : n.AwaitsRecovery equipment) :
    n = k ∧ StillPaused m k := by
  have hk : n = k := by
    refine hn.resolve_right fun hstays => ?_
    rcases hstays with ⟨hpausing, hpaused⟩ | hshutdown | hreason | hrecovery | hworkers
    · exact hawaits.waiting.elim hpausing hpaused
    · simp [hawaits.goesOn] at hshutdown
    · exact hreason hawaits.automatic
    · simp [hawaits.recovered] at hrecovery
    · simp [hawaits.workers] at hworkers
  subst hk
  refine ⟨rfl, h.2.resolve_left fun hfault => ?_⟩
  have hwaiting := hawaits.waiting
  simp [hfault] at hwaiting

omit hsettles in
/-- The last confirmation, of the stop, after the reported conveyors were dealt with. -/
theorem PausedOrFaulted.confirmAllConveyorsStopped (h : PausedOrFaulted m k)
    (hn : Spares .resumes m n ∧ (n = k ∨ StaysStopped n)) :
    Spares .resumes m
        (if n.equipment.allConveyorsStopped then n.confirmAllConveyorsStopped stopped else n) ∨
      ((m.AwaitsRecovery m.equipment ∧ m.equipment.allConveyorsStopped = true ∧ n = k ∧
        k.validateFifoAlignment = true) ∧ Requested m
        (if n.equipment.allConveyorsStopped then n.confirmAllConveyorsStopped stopped else n)) := by
  split
  · rename_i hstopped
    rcases stop_requests hs n with hrefused | ⟨⟨hawaits, haligned⟩, request, hlogged, hline⟩
    · exact .inl (hn.1.trans hrefused)
    · obtain ⟨rfl, hpaused⟩ := h.awaits hn.2 hawaits
      rw [hpaused.equipment] at hstopped hawaits
      have hready := hpaused.awaits hawaits
      exact .inr ⟨⟨{ hready with safe := stopped_guards hstopped hready.safe }, hstopped, rfl,
        haligned⟩, request, hlogged.trans (congrArg _ hn.1), fun hrest =>
          hline ▸ hpaused.rest hrest⟩
  · exact .inl hn.1

/-- A report resumes the line only when it reports the stop that was waited for. -/
theorem report_requests (hmanual : Sparing .manual stopped) (m : Master)
    (message : EquipmentState) :
    Spares .resumes m (m.handleEquipmentState stopped message) ∨
      m.RecoversByStop message ∧ Requested m (m.handleEquipmentState stopped message) := by
  simp only [Master.handleEquipmentState]
  split
  · exact .inl (.refl _ m)
  · rename_i hsession
    have hseen : PausedOrFaulted { m with equipment := m.equipment.updated message.update }
        (m.updateEquipmentSnapshot stopped message.update) := ⟨rfl, .inr (.refl _)⟩
    have hreset : ∀ j k : Master, Spares .resumes j k → Spares .resumes j
        (if k.systemState = .resetting ∧ k.resetGuardsSatisfied then
          (k.confirmResetCompleted stopped).2 else k) := by
      intro j k hk
      split
      · exact hk.confirmResetCompleted hs
      · exact hk
    have hupper := hseen.confirmPendingResume hs hsettles (message.running .upper &&
      decide (m.equipment.conveyorRunning .upper ≠ some true)) .upper
    have hlower := hupper.confirmPendingResume hs hsettles (message.running .lower &&
      decide (m.equipment.conveyorRunning .lower ≠ some true)) .lower
    have hrunning := hlower.confirmAllConveyorsRunning hs hmanual
    refine (hlower.confirmAllConveyorsStopped hs (hrunning _)).imp (hreset _ _) ?_
    rintro ⟨⟨hawaits, hstopped, _, haligned⟩, request, hlogged, hrest⟩
    refine ⟨⟨not_not.mp hsession, hstopped, ⟨hawaits.waiting, hawaits.goesOn,
      hawaits.pausedByQueue, hawaits.recovered, hawaits.automatic, hawaits.workers, hawaits.safe,
      hawaits.policy⟩, fun hnone => ?_⟩, request, ?_, hrest⟩
    · simp only [hnone, Bool.false_and, Bool.false_eq_true, if_false] at haligned
      exact haligned
    · exact Eq.trans (hreset _ _ (Spares.refl .resumes _)) hlogged

end Confirmed

/-! ### The queue -/

theorem restarted_deadlines (m : Master) :
    ∃ cycles : StationCycles, m.restartCaptureDeadlines = { m with line.stationCycles := cycles } ∧
      ∀ s cycle, cycles.get? s = some cycle →
        ∃ deadlineNs, m.line.stationCycles.get? s = some { cycle with deadlineNs } := by
  have hloop : ∀ (items : List (StationId × StationCycle)) (k : Master),
      (∀ s cycle, (s, cycle) ∈ items → m.line.stationCycles.get? s = some cycle) →
      (∃ cycles : StationCycles, k = { m with line.stationCycles := cycles } ∧
        ∀ s cycle, cycles.get? s = some cycle →
          ∃ deadlineNs, m.line.stationCycles.get? s = some { cycle with deadlineNs }) →
      ∃ cycles : StationCycles,
        items.foldl restartDeadline k = { m with line.stationCycles := cycles } ∧
          ∀ s cycle, cycles.get? s = some cycle →
            ∃ deadlineNs, m.line.stationCycles.get? s = some { cycle with deadlineNs } := by
    intro items
    induction items with
    | nil => exact fun k _ hk => hk
    | cons item rest ih =>
      rintro k hitems ⟨cycles, rfl, hcycles⟩
      obtain ⟨s, cycle⟩ := item
      have hget := hitems s cycle List.mem_cons_self
      have hstation := m.line.stationCycles.keyed s cycle hget
      refine ih _ (fun t other hmem => hitems t other (List.mem_cons_of_mem _ hmem)) ?_
      simp only [restartDeadline]
      split
      · refine ⟨_, rfl, fun t other hother => ?_⟩
        rw [StationCycles.get?_set] at hother
        split at hother
        · rename_i ht
          cases hother
          exact ⟨cycle.deadlineNs, (ht.trans hstation) ▸ hget⟩
        · exact hcycles t other hother
      · exact ⟨cycles, rfl, hcycles⟩
  exact hloop _ m (fun s cycle hmem => OrderedDict.get?_eq_some.mpr hmem)
    ⟨_, rfl, fun s cycle hcycle => ⟨cycle.deadlineNs, hcycle⟩⟩

section Confirmed

variable (hs : Sparing .resumes stopped)
include hs

theorem queue_requests (m : Master) (sessionId : String) (state : ℕ)
    (blockedFrameBatchId : String) :
    Spares .resumes m (m.handleQueueState stopped sessionId state blockedFrameBatchId) ∨
      m.RecoversByQueue sessionId state ∧
        Requested m (m.handleQueueState stopped sessionId state blockedFrameBatchId) := by
  have hsame := Spares.refl .resumes m
  simp only [Master.handleQueueState]
  split
  · exact .inl hsame
  · rename_i hsession
    split
    · exact .inl hsame
    · split
      · split
        · exact .inl hsame
        · refine .inl (Spares.pause hs ?_ _ (permits_blocked (by simp) rfl))
          exact hsame.noteIf (m.systemState = .paused && m.pendingRunConfirmation) .blockedResume
      · split
        · rename_i hrecovers
          obtain ⟨cycles, hrestarted, hcycles⟩ :=
            restarted_deadlines { m with queueRecoveredPending := true }
          rw [hrestarted]
          split
          · rcases recovery_requests hs { m with
                queueRecoveredPending := true, line.stationCycles := cycles } with
              hrefused | ⟨⟨hauto, hverified⟩, request, hlogged, hline⟩
            · exact .inl hrefused
            · refine .inr ⟨⟨not_not.mp hsession, hrecovers.1, hrecovers.2, hauto, hverified⟩,
                request, hlogged, fun hrest => ?_⟩
              rw [hline]
              exact at_rest_kept hrest hcycles fun _ _ => rfl
          · exact .inl hsame
        · exact .inl hsame

/-! ### Every callback -/

/-- A callback grants a resume request only for one of the events that ask for it. -/
theorem handle_requests (hmanual : Sparing .manual stopped) (hsettles : Settles stopped)
    (m : Master) (e : MasterEvent) :
    Spares .resumes m (handle stopped { m with around := e.around } e.call) ∨
      m.AsksToResume e ∧ Requested m (handle stopped { m with around := e.around } e.call) := by
  have hsame : Spares .resumes m { m with around := e.around } := rfl
  obtain ⟨call, around⟩ := e
  cases call with
  | operatorCommand request => exact operator_command_requests hs _ request
  | sensorEvent message => exact .inl (hsame.handleSensorEvent hs message)
  | positionSettled sessionId conveyorId =>
    exact .inl (hsame.handlePositionSettled hs sessionId conveyorId)
  | equipmentState message => exact report_requests hs hsettles hmanual _ message
  | equipmentUpdate update => exact .inl (hsame.updateEquipmentSnapshot hs update)
  | captureFeedback s captureId stage batch =>
    exact .inl (hsame.handleCaptureFeedback hs (by simp) s captureId stage batch)
  | captureGoalResponse s captureId response =>
    exact .inl (hsame.handleCaptureGoalResponse hs s captureId response)
  | captureResult s captureId result =>
    exact .inl (hsame.handleCaptureResult hs s captureId result)
  | stationResult message => exact .inl (hsame.handleStationResult hs _ _)
  | stationFailure message => exact .inl (hsame.handleStationFailure hs _ _ _ _)
  | actuationGoalResponse job command response =>
    exact .inl (hsame.handleActuationGoalResponse hs job command response)
  | actuationResult job command result =>
    exact .inl (hsame.handleActuationResult hs job command result)
  | queueState sessionId state batch => exact queue_requests hs _ sessionId state batch
  | workerHeartbeat w message => exact .inl (hsame.handleWorkerHeartbeat hs w message)
  | initializeGoalResponse w requestId response =>
    exact .inl (hsame.handleInitializeGoalResponse w requestId response)
  | initializeResult w requestId result =>
    exact .inl (hsame.handleInitializeResult w requestId result)
  | workerStatus w requestId response => exact .inl (hsame.handleWorkerStatus w requestId response)
  | replayResponse generation response =>
    exact .inl (hsame.handleStationResultReplay hs generation response)
  | checkWorkerHeartbeats => exact .inl (hsame.checkWorkerHeartbeats hs)
  | checkOperationDeadlines => exact .inl (hsame.checkOperationDeadlines hs)
  | requestStationResultReplay => exact .inl hsame.requestStationResultReplay
  | flushLogSpool => exact .inl (hsame.flushLogSpool hs)
  | requestShutdown => exact .inl (hsame.requestShutdown hs)

end Confirmed

end Master

end InspectionLine
