import InspectionLine.ControlMoves

/-! # Supervising the workers makes moves -/
namespace InspectionLine

open Supervision

namespace Master

variable {a : Supervision × Debt} {m n : Master} {d : Debt} {stopped : Master → Master}

theorem Evolves.reportInitializationFailed (h : Evolves a m d) (reason : String)
    (timedOut : Bool) : Evolves a (m.reportInitializationFailed reason timedOut) d := by
  simp only [Master.reportInitializationFailed]
  cases hm : m.applySystemEvent (if timedOut then .initTimeout else .initFailed) reason with
  | none => exact h
  | some n => exact h.transit hm (by split <;> rfl) (by split <;> simp)

theorem Evolves.scheduleInitializeRetry (h : Evolves a m d) (w : WorkerId) (reason : String)
    (errorCode : ℕ) (timedOut manual : Bool) :
    Evolves a (m.scheduleInitializeRetry w reason errorCode timedOut manual) d := by
  simp only [Master.scheduleInitializeRetry]
  have hquiet : ∀ k : Master, k.toSupervision = m.toSupervision →
      Evolves a (if k.systemState = .initializing then
        k.reportInitializationFailed reason timedOut else k) d := by
    intro k hk
    split
    · exact (h.quiet hk).reportInitializationFailed reason timedOut
    · exact h.quiet hk
  refine hquiet _ ?_
  split
  · exact toSupervision_elim_cancelGoal _ _
  · rfl

theorem Evolves.sendInitializeGoal (h : Evolves a m d) (w : WorkerId) (attempt : ℕ) :
    Evolves a (m.sendInitializeGoal w attempt) d := by
  simp only [Master.sendInitializeGoal]
  split
  · exact h
  · split
    · refine Evolves.scheduleInitializeRetry ?_ _ _ _ _ _
      exact h.newUuid.quiet rfl
    · refine Evolves.scheduleInitializeRetry ?_ _ _ _ _ _
      exact h.newUuid.quiet rfl
    · exact h.newUuid.quiet rfl

theorem Evolves.startWorkerInitialization (h : Evolves a m d) :
    Evolves a m.startWorkerInitialization d := by
  simp only [Master.startWorkerInitialization]
  split
  · exact h
  · refine Evolves.foldl (fun _ w hk => hk.sendInitializeGoal w 1) _ ?_
    exact h.quiet rfl

theorem Evolves.handleInitializeGoalResponse (h : Evolves a m d) (w : WorkerId)
    (requestId : String) (response : Except String GoalReply) :
    Evolves a (m.handleInitializeGoalResponse w requestId response) d := by
  simp only [Master.handleInitializeGoalResponse]
  split
  · exact h
  · split
    · exact h.scheduleInitializeRetry _ _ _ _ _
    · split
      · exact h.scheduleInitializeRetry _ _ _ _ _
      · exact h.quiet rfl

theorem Evolves.requestWorkerStatus (h : Evolves a m d) (w : WorkerId) :
    Evolves a (m.requestWorkerStatus w) d := by
  simp only [Master.requestWorkerStatus]
  split
  · exact h
  · split
    · exact h.quiet rfl
    · refine Evolves.scheduleInitializeRetry ?_ _ _ _ _ _
      exact h.newUuid.quiet rfl
    · exact h.newUuid.quiet rfl

theorem Evolves.handleInitializeResult (h : Evolves a m d) (w : WorkerId)
    (requestId : String) (result : Except String InitializeReply) :
    Evolves a (m.handleInitializeResult w requestId result) d := by
  have hretry : ∀ reason errorCode manual, Evolves a
      (({ m with initializeGoalHandles := Function.update m.initializeGoalHandles w none } :
        Master).scheduleInitializeRetry w reason errorCode false manual) d := by
    intro reason errorCode manual
    refine Evolves.scheduleInitializeRetry ?_ w reason errorCode false manual
    exact h.quiet rfl
  simp only [Master.handleInitializeResult]
  split
  · exact h
  · split
    · exact hretry _ _ _
    · split
      · exact hretry _ _ _
      · split
        · exact hretry _ _ _
        · split
          · exact hretry _ _ _
          · split
            · exact hretry _ _ _
            · refine Evolves.requestWorkerStatus ?_ w
              exact h.quiet rfl

theorem Evolves.tryMarkWorkerReady (h : Evolves a m d) (w : WorkerId) :
    Evolves a (m.tryMarkWorkerReady w).2 d := by
  have hmarked : Evolves a
      (if (m.workerStates w).ready then m
        else m.updateWorker w fun state => state.markReady).maybeCompleteInitialization d := by
    refine Evolves.maybeCompleteInitialization ?_
    split
    · exact h
    · exact h.quiet rfl
  have hhealth : ∀ k : Master, Evolves a k d → Evolves a
      (if (k.systemState = .ready ∨ k.systemState = .runSys ∨ k.systemState = .paused) ∧
          k.allWorkersReadyForSession ∧ k.logSpoolOpen then k.setHealthState .ready else k) d := by
    intro k hk
    split
    · exact hk.quiet rfl
    · exact hk
  simp only [Master.tryMarkWorkerReady]
  split
  · exact h
  · exact hhealth _ hmarked

theorem Evolves.handleWorkerStatus (h : Evolves a m d) (w : WorkerId) (requestId : String)
    (response : Except String NodeStatus) :
    Evolves a (m.handleWorkerStatus w requestId response) d := by
  have hretry : ∀ reason errorCode manual, Evolves a
      ((m.updateWorker w fun state => { state with
        statusRequestId := "" }).scheduleInitializeRetry w reason errorCode false manual) d := by
    intro reason errorCode manual
    refine Evolves.scheduleInitializeRetry ?_ w reason errorCode false manual
    exact h.quiet rfl
  simp only [Master.handleWorkerStatus]
  split
  · exact h
  · split
    · exact h.quiet rfl
    · split
      · exact hretry _ _ _
      · split
        · exact hretry _ _ _
        · split
          · exact hretry _ _ _
          · split
            · exact hretry _ _ _
            · rename_i healthState _
              split
              · exact h.quiet rfl
              · rename_i response _ _ _ _ _ _
                have hmarked := Evolves.tryMarkWorkerReady (a := a)
                  (m := (m.updateWorker w fun state => { state with
                    statusRequestId := "" }).updateWorker w fun state =>
                      state.recordStatus response healthState) (h.quiet rfl) w
                split
                · rename_i k heq
                  rw [heq] at hmarked
                  exact hmarked
                · rename_i k heq
                  rw [heq] at hmarked
                  exact hmarked.quiet rfl

theorem toSupervision_recordVisionOutageResidency (m : Master) :
    m.recordVisionOutageResidency.toSupervision = m.toSupervision := by
  unfold recordVisionOutageResidency
  refine toSupervision_foldl (fun k entry => ?_) _ _
  simp only
  split
  · rfl
  · split <;> rfl

theorem Evolves.handleWorkerUnavailable (hs : Settles stopped) (h : Evolves a m d)
    (hpaid : d.unresumed = []) (w : WorkerId) (reason : String) (restarted versionMismatch : Bool) :
    Evolves a (m.handleWorkerUnavailable stopped w reason restarted versionMismatch) d := by
  simp only [Master.handleWorkerUnavailable]
  split
  · split
    · exact h.quiet rfl
    · refine Evolves.scheduleInitializeRetry ?_ _ _ _ _ _
      exact h.quiet rfl
  · have hrest : ∀ k : Master, k.toSupervision = m.toSupervision → Evolves a
        (if w = .control ∧ (k.systemState = .runSys ∨ k.systemState = .pausing) then
          (k.reportCriticalFault stopped reason .lineClearRequired).2
        else if w = .vision ∧ k.systemState = .runSys then
          (k.requestRecoverableDevicePause stopped reason
            (if restarted then .deviceRecoveryManual else .deviceRecoveryAuto)).2
        else k.setHealthState .degraded) d := by
      intro k hk
      have hmoved := h.quiet hk
      split
      · exact hmoved.faultStop hs reason (List.Subset.refl _)
      · split
        · exact hmoved.requestRecoverableDevicePause hs _ _ (.inl hpaid)
        · exact hmoved.quiet rfl
    refine hrest _ ?_
    split
    · exact toSupervision_recordVisionOutageResidency _
    · rfl

theorem Evolves.handleWorkerRestart (hs : Settles stopped) (h : Evolves a m d)
    (hpaid : d.unresumed = []) (w : WorkerId) : Evolves a (m.handleWorkerRestart stopped w) d := by
  simp only [Master.handleWorkerRestart]
  refine Evolves.handleWorkerUnavailable hs (h.quiet ?_) hpaid _ _ _ _
  split <;> rfl

theorem Evolves.handleWorkerHeartbeat (hs : Settles stopped) (h : Evolves a m d)
    (hpaid : d.unresumed = []) (w : WorkerId) (message : NodeHeartbeat) :
    Evolves a (m.handleWorkerHeartbeat stopped w message) d := by
  simp only [Master.handleWorkerHeartbeat]
  split
  · exact h
  · split
    · refine Evolves.handleWorkerUnavailable hs ?_ hpaid _ _ _ _
      exact h.quiet rfl
    · split
      · exact h
      · split
        · exact h.quiet rfl
        · split
          · refine Evolves.handleWorkerRestart hs ?_ hpaid w
            exact h.quiet rfl
          · split
            · split
              · refine Evolves.handleWorkerUnavailable hs ?_ hpaid _ _ _ _
                exact h.quiet rfl
              · exact h.quiet rfl
            · split
              · refine Evolves.requestWorkerStatus ?_ w
                exact h.quiet rfl
              · split
                · refine Evolves.tryMarkWorkerReady ?_ w
                  exact h.quiet rfl
                · exact h.quiet rfl

theorem Evolves.advanceWorkerInitialization (h : Evolves a m d) (w : WorkerId) :
    Evolves a (m.advanceWorkerInitialization w) d := by
  simp only [Master.advanceWorkerInitialization]
  split
  · exact h.scheduleInitializeRetry _ _ _ _ _
  · split
    · exact h.requestWorkerStatus w
    · split
      · exact h.sendInitializeGoal w _
      · split
        · exact h.scheduleInitializeRetry _ _ _ _ _
        · exact h

theorem Evolves.checkWorkerHeartbeat (hs : Settles stopped) (h : Evolves a m d)
    (hpaid : d.unresumed = []) (w : WorkerId) : Evolves a (m.checkWorkerHeartbeat stopped w) d := by
  unfold Master.checkWorkerHeartbeat
  split
  · exact h
  · split
    · exact h
    · exact h.handleWorkerUnavailable hs hpaid _ _ _ _

theorem Evolves.checkWorkerHeartbeats (hs : Settles stopped) (h : Evolves a m d)
    (hpaid : d.unresumed = []) : Evolves a (m.checkWorkerHeartbeats stopped) d := by
  have hadvanced := h.foldl (fun _ w hk => hk.advanceWorkerInitialization w) WorkerId.all
  simp only [Master.checkWorkerHeartbeats]
  split
  · exact hadvanced
  · exact hadvanced.foldl (fun _ w hk => hk.checkWorkerHeartbeat hs hpaid w) _

end Master

end InspectionLine
