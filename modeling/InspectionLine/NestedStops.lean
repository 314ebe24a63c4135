import InspectionLine.CalmStops

/-! # Confirmed stops nest three deep

The confirmation of a stop may fault or pause the line anew, which asks for another stop. One in
FAULT_STOP asks for none, and one during a pause of no automatic end only for that of a fault. -/
namespace InspectionLine

namespace Master

variable {f g : Master → Master} {m : Master}

/-! ### Where the line does not run -/

theorem done_not_running (h : m.systemState ≠ .runSys) :
    m.reportInitializationDone.2.systemState ≠ .runSys := by
  unfold reportInitializationDone
  split
  · exact h
  · split
    · exact h
    · split
      · exact h
      · rename_i n hn
        have hready := after_of_applied hn
        intro hrun
        rw [hrun] at hready
        revert hready
        cases m.systemState <;> decide

theorem recovered_not_running (h : m.systemState ≠ .runSys) :
    m.spoolRecovered.systemState ≠ .runSys := by
  unfold spoolRecovered
  split
  · exact h
  · split
    · unfold maybeCompleteInitialization
      split
      · exact h
      · have hdone := done_not_running (m := { m with initializationCompletionReported := true }) h
        split
        · rename_i n hn
          rw [hn] at hdone
          exact hdone
        · rename_i n hn
          rw [hn] at hdone
          exact hdone
    · exact h

theorem check_capacity_quiet (h : m.systemState ≠ .runSys) :
    m.checkLogSpoolCapacity f = m.checkLogSpoolCapacity g := by
  unfold checkLogSpoolCapacity
  split
  · rfl
  · dsimp only
    have hwarned : (if m.config.logSpoolWarningBytes ≠ 0 ∧
        m.config.logSpoolWarningBytes ≤ m.around.spoolBytes then
          m.setHealthState .degraded else m).systemState ≠ .runSys := by
      split <;> exact h
    generalize (if m.config.logSpoolWarningBytes ≠ 0 ∧
        m.config.logSpoolWarningBytes ≤ m.around.spoolBytes then
          m.setHealthState .degraded else m) = k at hwarned
    rw [if_neg fun hrun => hwarned hrun.2.2, if_neg fun hrun => hwarned hrun.2.2]

theorem read_spool_quiet (h : m.systemState ≠ .runSys) :
    m.readLogSpool f = m.readLogSpool g := by
  unfold readLogSpool
  rw [check_capacity_quiet (f := f) (g := g) h]

theorem flush_quiet (h : m.systemState ≠ .runSys) : m.flushLogSpool f = m.flushLogSpool g := by
  unfold flushLogSpool
  rw [read_spool_quiet (f := f) (g := g) h, read_spool_quiet (f := f) (g := g)
    (recovered_not_running (m := { m with logSpoolOpen := true }) h)]

theorem finalize_quiet (h : m.systemState ≠ .runSys) :
    m.finalizeShutdownSequence f = m.finalizeShutdownSequence g := by
  unfold finalizeShutdownSequence
  dsimp only
  rw [flush_quiet (f := f) (g := g)]
  simpa using h

/-! ### Stops that are confirmed alike -/

/-- Two confirmations that do not differ in FAULT_STOP. -/
def AgreeInFault (f g : Master → Master) : Prop :=
  ∀ m : Master, m.systemState = .faultStop → f m = g m

/-- Nor during a pause that does not end by itself. -/
structure StopsAgree (f g : Master → Master) : Prop where
  fault : AgreeInFault f g
  pausing : ∀ m : Master, m.systemState = .pausing →
    m.pauseReason ≠ some .deviceRecoveryAuto → f m = g m

theorem request_stop_agrees (reason : String)
    (h : ∀ k : Master, k.systemState = m.systemState → k.pauseReason = m.pauseReason →
      f k = g k) :
    m.requestAllConveyorsStop f reason = m.requestAllConveyorsStop g reason := by
  unfold requestAllConveyorsStop
  refine if_congr Iff.rfl (h _ ?_ ?_) rfl
  · split <;> rfl
  · split <;> rfl

theorem critical_fault_agrees (h : AgreeInFault f g) :
    Master.reportCriticalFault f = Master.reportCriticalFault g := by
  funext m reason policy
  unfold reportCriticalFault
  dsimp only
  split
  · rfl
  · rename_i n hn
    have hfault : ∀ k : Master, k.systemState = n.systemState → f k = g k := fun k hk =>
      h k (hk.trans (faulted_event hn))
    rw [request_stop_agrees reason fun k hk _ => hfault k hk]

theorem fault_stop_agrees (h : AgreeInFault f g) : Master.faultStop f = Master.faultStop g := by
  unfold Master.faultStop
  rw [critical_fault_agrees h]

theorem device_pause_agrees (h : StopsAgree f g) (reason : String) {pauseReason : PauseReason}
    (hmanual : pauseReason ≠ .deviceRecoveryAuto) :
    m.requestRecoverableDevicePause f reason pauseReason =
      m.requestRecoverableDevicePause g reason pauseReason := by
  unfold requestRecoverableDevicePause
  split
  · rfl
  · rename_i n hn
    have hpausing : n.systemState = .pausing := by
      have hafter := after_of_applied hn
      revert hafter
      generalize n.systemState = state
      cases m.systemState <;> intro hafter <;> cases hafter
      rfl
    have hpaused : ∀ k : Master, k.systemState = n.systemState →
        k.pauseReason = some pauseReason → f k = g k := by
      intro k hk hreason
      refine h.pausing k (hk.trans hpausing) fun hauto => hmanual ?_
      exact Option.some.inj (hreason.symm.trans hauto)
    exact Prod.ext rfl (request_stop_agrees reason hpaused)

/-! ### What is put off until the line runs -/

section
variable (h : StopsAgree f g)
include h

theorem conveyor_resumed_agrees :
    Master.confirmConveyorResumed f = Master.confirmConveyorResumed g := by
  unfold Master.confirmConveyorResumed
  rw [fault_stop_agrees h.fault]

theorem start_cycle_agrees : Master.startStationCycle f = Master.startStationCycle g := by
  unfold Master.startStationCycle Master.openStationCycle
  rw [fault_stop_agrees h.fault]

theorem send_actuation_agrees : Master.sendActuationGoal f = Master.sendActuationGoal g := by
  funext m locked
  unfold Master.sendActuationGoal
  rw [fault_stop_agrees h.fault]
  simp only [device_pause_agrees h _ (by decide : PauseReason.deviceRecoveryManual ≠
    .deviceRecoveryAuto)]

theorem deferred_operations_agree :
    Master.resumeDeferredOperations f = Master.resumeDeferredOperations g := by
  unfold Master.resumeDeferredOperations Master.resumeDeferredStart Master.resumePendingActuation
  rw [conveyor_resumed_agrees h, start_cycle_agrees h, send_actuation_agrees h]

theorem resume_agrees : @Master.requestResume f = @Master.requestResume g := by
  unfold Master.requestResume Master.requestConveyorRun Master.confirmAllConveyorsRunning
  rw [deferred_operations_agree h]

theorem check_capacity_agrees :
    Master.checkLogSpoolCapacity f = Master.checkLogSpoolCapacity g := by
  funext m
  unfold Master.checkLogSpoolCapacity
  simp only [device_pause_agrees h _ (by decide : PauseReason.storageRecovery ≠
    .deviceRecoveryAuto)]

theorem after_stop_agrees : Master.afterConveyorsStopped f = Master.afterConveyorsStopped g := by
  unfold Master.afterConveyorsStopped Master.finalizeShutdownSequence Master.flushLogSpool
    Master.readLogSpool Master.resumeAfterQueueRecovery
  rw [check_capacity_agrees h, resume_agrees h]

theorem confirmation_agrees :
    confirmAllConveyorsStopped f = confirmAllConveyorsStopped g := by
  unfold confirmAllConveyorsStopped
  rw [after_stop_agrees h, critical_fault_agrees h.fault]

end

/-! ### How deep the stops nest -/

theorem confirmation_in_fault (f g : Master → Master) :
    AgreeInFault (confirmAllConveyorsStopped f) (confirmAllConveyorsStopped g) := by
  intro m hfault
  have hpausing : m.systemState ≠ .pausing := by simp [hfault]
  have hpaused : m.systemState ≠ .paused := by simp [hfault]
  unfold confirmAllConveyorsStopped afterConveyorsStopped
  dsimp only
  rw [if_pos hpausing, if_pos hpausing, if_pos hpaused, if_pos hpaused]
  split
  · exact finalize_quiet (by simp [hfault])
  · rfl

/-- A pause that does not end by itself is confirmed, and nothing is resumed after it. -/
theorem confirmation_while_pausing (h : AgreeInFault f g) :
    StopsAgree (confirmAllConveyorsStopped f) (confirmAllConveyorsStopped g) := by
  refine ⟨confirmation_in_fault f g, fun m hpausing hreason => ?_⟩
  have hafter : ∀ k : Master, k.systemState = .paused → k.pauseReason = m.pauseReason →
      k.afterConveyorsStopped f = k.afterConveyorsStopped g := by
    intro k hpaused hsame
    have hrefused : ∀ stopped, k.resumeAfterQueueRecovery stopped = k := by
      intro stopped
      unfold resumeAfterQueueRecovery requestResume
      rw [if_neg (not_not.mpr hpaused), if_pos ⟨rfl, hsame ▸ hreason⟩]
    unfold afterConveyorsStopped
    rw [hrefused, hrefused, finalize_quiet (f := f) (g := g) (by simp [hpaused])]
  unfold confirmAllConveyorsStopped
  dsimp only
  rw [if_neg (not_not.mpr hpausing), if_neg (not_not.mpr hpausing), critical_fault_agrees h]
  split
  · rfl
  · split
    · rfl
    · rename_i n hn
      have hpaused : n.systemState = .paused := by
        have hafter := after_of_applied hn
        rw [show ({ m with
          equipment := m.equipment.markAllStopped, pauseDeadlineNs := 0 } : Master).systemState =
            .pausing from hpausing] at hafter
        exact (Option.some.inj hafter).symm
      have hsame := pauseReason_applySystemEvent hn
      refine hafter _ ?_ ?_
      · split <;> exact hpaused
      · split <;> exact hsame

/-- More confirmations than these never nest. -/
theorem nested_stops_settle {depth : ℕ} (h : stopDepth ≤ depth) :
    whenStopped depth = whenStopped stopDepth := by
  have hthree : ∀ n, whenStopped (n + 3) = whenStopped 3 := fun n =>
    confirmation_agrees (confirmation_while_pausing (confirmation_in_fault _ _))
  obtain ⟨n, rfl⟩ := Nat.exists_eq_add_of_le h
  calc whenStopped (stopDepth + n) = whenStopped (n + 1 + 3) := by
        rw [stopDepth]
        congr 1
        omega
    _ = whenStopped 3 := hthree (n + 1)
    _ = whenStopped stopDepth := (hthree 1).symm

end Master

end InspectionLine
