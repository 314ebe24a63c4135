import InspectionLine.MasterMoves

/-! # What leaves the workers alone, and what does not resume the line

Master keeps a mirror of every worker and the command epoch. Only the callbacks about workers
write them: everything else that Master does, the work on the line above all, leaves them as
they are. In the same way almost nothing grants a resume request, and nothing but Vision's outage
and its full queue pauses the line until it recovers by itself. The aspects share their proofs. -/
namespace InspectionLine

namespace Master

/-- The mirrors of the workers, and the epoch they are asked for. -/
def workerView (m : Master) : (WorkerId → WorkerRuntimeState) × ℕ :=
  (m.workerStates, m.commandEpoch)

/-- What a part of a callback can leave alone: the workers, the granted resume requests, and a
pause that does not end by itself. -/
inductive Aspect where
  | workers | resumes | manual

/-- Between the two states the aspect was left alone. -/
def Spares (κ : Aspect) (a m : Master) : Prop :=
  match κ with
  | .workers => m.workerView = a.workerView
  | .resumes => m.history.resumeRequests = a.history.resumeRequests
  | .manual => a.pauseReason ≠ some .deviceRecoveryAuto → m.pauseReason ≠ some .deviceRecoveryAuto

variable {κ : Aspect} {a m n : Master} {stopped : Master → Master}

theorem Spares.refl (κ : Aspect) (m : Master) : Spares κ m m := by
  cases κ
  · rfl
  · rfl
  · exact id

theorem Spares.trans (h : Spares κ a m) (g : Spares κ m n) : Spares κ a n := by
  cases κ
  · exact Eq.trans g h
  · exact Eq.trans g h
  · exact g ∘ h

theorem Spares.same (h : Spares κ a m) (hworkers : n.workerView = m.workerView)
    (hresumes : n.history.resumeRequests = m.history.resumeRequests)
    (hpause : n.pauseReason = m.pauseReason) : Spares κ a n := by
  cases κ
  · exact hworkers.trans h
  · exact hresumes.trans h
  · intro hmanual
    rw [hpause]
    exact h hmanual

/-- The pause is over, or does not end by itself. -/
theorem Spares.sameBut (h : Spares κ a m) (hworkers : n.workerView = m.workerView)
    (hresumes : n.history.resumeRequests = m.history.resumeRequests)
    (hpause : n.pauseReason ≠ some .deviceRecoveryAuto) : Spares κ a n := by
  cases κ
  · exact hworkers.trans h
  · exact hresumes.trans h
  · exact fun _ => hpause

theorem Spares.emitLogEvent (h : Spares κ a m) : Spares κ a m.emitLogEvent := by
  refine h.same ?_ ?_ ?_ <;> unfold Master.emitLogEvent <;> split <;> rfl

theorem Spares.noteIf (h : Spares κ a m) (lapsed : Bool) (lapse : Lapse) :
    Spares κ a (m.noteIf lapsed lapse) := by
  refine h.same ?_ ?_ ?_ <;> unfold Master.noteIf <;> split <;> rfl

theorem Spares.foldl {β : Type} {f : Master → β → Master}
    (hf : ∀ m b, Spares κ a m → Spares κ a (f m b)) (l : List β) (h : Spares κ a m) :
    Spares κ a (l.foldl f m) := by
  induction l generalizing m with
  | nil => exact h
  | cons b l ih => exact ih (hf m b h)

theorem spares_of_event {event : SystemEvent} {reason : String}
    (hm : m.applySystemEvent event reason = some n) (h : Spares κ a m) : Spares κ a n := by
  obtain ⟨t, _, rfl⟩ := Option.map_eq_some_iff.mp hm
  unfold onSystemStateEntered
  cases t.current <;> exact Spares.emitLogEvent (h.same rfl rfl rfl)

theorem spares_of_ignored (hm : m.ignoreOperationWhileFaultStopped = some n)
    (h : Spares κ a m) : Spares κ a n := by
  unfold ignoreOperationWhileFaultStopped at hm
  split at hm
  · cases hm
  · cases hm
    exact h.emitLogEvent

theorem spares_of_operate {productId : String} {op : ContextOp} {reply : Except FlowError Reply}
    (hm : m.operate productId op = (reply, n)) (h : Spares κ a m) : Spares κ a n := by
  cases hm
  exact h

theorem Spares.elimCancelGoal (h : Spares κ a m) (handle : Option GoalHandle) :
    Spares κ a (handle.elim m m.cancelGoal) := by
  cases handle <;> exact h

theorem Spares.cancelTrackedOperationGoals (h : Spares κ a m) (includeActuation : Bool) :
    Spares κ a (m.cancelTrackedOperationGoals includeActuation) :=
  Spares.foldl (f := cancelGoal) (fun _ _ hk => hk) _ h

theorem Spares.recordVisionOutageResidency (h : Spares κ a m) :
    Spares κ a m.recordVisionOutageResidency := by
  refine Spares.foldl (fun k entry hk => ?_) _ h
  simp only
  split
  · exact hk
  · split <;> exact hk

/-- The confirmation of a stop finds something that speaks against an automatic recovery. -/
def StaysStopped (m : Master) : Prop :=
  (m.systemState ≠ .pausing ∧ m.systemState ≠ .paused) ∨ m.shutdownRequested = true ∨
    m.pauseReason ≠ some .deviceRecoveryAuto ∨ m.queueRecoveredPending = false ∨
      m.allWorkersReadyForSession = false

/-- A confirmed stop leads to nothing that concerns the aspect. -/
def Sparing (κ : Aspect) (stopped : Master → Master) : Prop :=
  ∀ ⦃a m⦄, Spares κ a m → (κ = .resumes → StaysStopped m) → Spares κ a (stopped m)

/-- The line may be paused for the reason: it does not end by itself, or not yet. -/
def Permits (κ : Aspect) (m : Master) (pauseReason : PauseReason) : Prop :=
  match κ with
  | .workers => True
  | .resumes => pauseReason ≠ .deviceRecoveryAuto ∨ m.queueRecoveredPending = false ∨
      m.allWorkersReadyForSession = false
  | .manual => pauseReason ≠ .deviceRecoveryAuto

theorem permits_manual {pauseReason : PauseReason} (h : pauseReason ≠ .deviceRecoveryAuto) :
    Permits κ m pauseReason := by
  cases κ
  · trivial
  · exact .inl h
  · exact h

/-- A full queue pauses the line until Vision reports that it has recovered. -/
theorem permits_blocked (hκ : κ ≠ .manual) (h : m.queueRecoveredPending = false) :
    Permits κ m .deviceRecoveryAuto := by
  cases κ
  · trivial
  · exact .inr (.inl h)
  · exact absurd rfl hκ

theorem workers_of_event {event : SystemEvent} {reason : String}
    (h : m.applySystemEvent event reason = some n) :
    n.allWorkersReadyForSession = m.allWorkersReadyForSession := by
  obtain ⟨t, _, rfl⟩ := Option.map_eq_some_iff.mp h
  unfold onSystemStateEntered
  cases t.current <;> unfold Master.emitLogEvent <;> simp only <;> split <;> rfl

theorem shutdown_of_event {event : SystemEvent} {reason : String}
    (h : m.applySystemEvent event reason = some n) : n.shutdownRequested = m.shutdownRequested := by
  obtain ⟨t, _, rfl⟩ := Option.map_eq_some_iff.mp h
  unfold onSystemStateEntered
  cases t.current <;> unfold Master.emitLogEvent <;> simp only <;> split <;> rfl

theorem recovery_of_event {event : SystemEvent} {reason : String}
    (h : m.applySystemEvent event reason = some n) :
    n.queueRecoveredPending = m.queueRecoveredPending := by
  obtain ⟨t, _, _, hn⟩ := apply_system_event_spec h
  rw [hn]
  rfl

/-- A transition into a pause, for a reason that is permitted. -/
theorem spares_paused {event : SystemEvent} {reason : String} {pauseReason : PauseReason}
    (hm : m.applySystemEvent event reason = some n) (h : Spares κ a m)
    (hpermits : Permits κ m pauseReason) :
    Spares κ a { n with pauseReason := some pauseReason, pendingRunConfirmation := false } ∧
      (κ = .resumes → StaysStopped { n with
        pauseReason := some pauseReason, pendingRunConfirmation := false }) := by
  have hn := spares_of_event hm h
  cases κ with
  | workers => exact ⟨hn, fun hother => by cases hother⟩
  | resumes =>
    refine ⟨hn, fun _ => .inr (.inr ?_)⟩
    rcases hpermits with hr | hr | hr
    · exact .inl fun hauto => hr (Option.some.inj hauto)
    · exact .inr (.inl ((recovery_of_event hm).trans hr))
    · exact .inr (.inr ((workers_of_event hm).trans hr))
  | manual =>
    exact ⟨fun _ hauto => hpermits (Option.some.inj hauto), fun hother => by cases hother⟩

section Confirmed

variable (hs : Sparing κ stopped)
include hs

/-! ### Stopping and pausing -/

theorem Spares.requestAllConveyorsStop (h : Spares κ a m)
    (hstays : κ = .resumes → StaysStopped m) (reason : String) :
    Spares κ a (m.requestAllConveyorsStop stopped reason) := by
  unfold Master.requestAllConveyorsStop
  split <;> simp only <;> split
  · exact hs h hstays
  · exact h
  · exact hs h hstays
  · exact h

theorem Spares.reportCriticalFault (h : Spares κ a m) (reason : String)
    (recoveryPolicy : RecoveryPolicy) :
    Spares κ a (m.reportCriticalFault stopped reason recoveryPolicy).2 := by
  have hnoted := h.noteIf (recoveryPolicy ≠ .lineClearRequired && lineClearLatched m.transitions)
    .weakenedLatch
  simp only [Master.reportCriticalFault]
  split
  · exact hnoted
  · rename_i n hm
    have hn := spares_of_event hm hnoted
    have hfault : n.systemState = .faultStop := state_after_fault hm (.inl rfl)
    have hstopped := hn.requestAllConveyorsStop hs (fun _ => .inl (by simp [hfault])) reason
    split
    · refine Spares.emitLogEvent ?_
      exact hstopped
    · exact hstopped

theorem Spares.faultStop (h : Spares κ a m) (reason : String) :
    Spares κ a (m.faultStop stopped reason) := h.reportCriticalFault hs reason _

theorem Spares.reportEstopAsserted (h : Spares κ a m) :
    Spares κ a (m.reportEstopAsserted stopped).2 := by
  have hnoted := h.noteIf (lineClearLatched m.transitions) .weakenedLatch
  simp only [Master.reportEstopAsserted]
  split
  · exact hnoted
  · rename_i n hm
    have hn := spares_of_event hm hnoted
    have hfault : n.systemState = .faultStop := state_after_fault hm (.inr rfl)
    exact hn.requestAllConveyorsStop hs (fun _ => .inl (by simp [hfault])) _

theorem Spares.requestPause (h : Spares κ a m) (reason : String) :
    Spares κ a (m.requestPause stopped reason).2 := by
  simp only [Master.requestPause]
  split
  · exact h
  · rename_i n hm
    obtain ⟨hn, hstays⟩ := spares_paused hm h
      (permits_manual (by decide : PauseReason.operator ≠ _))
    exact hn.requestAllConveyorsStop hs hstays _

theorem Spares.requestRecoverableDevicePause (h : Spares κ a m) (reason : String)
    {pauseReason : PauseReason} (hpermits : Permits κ m pauseReason) :
    Spares κ a (m.requestRecoverableDevicePause stopped reason pauseReason).2 := by
  simp only [Master.requestRecoverableDevicePause]
  split
  · exact h
  · rename_i n hm
    obtain ⟨hn, hstays⟩ := spares_paused hm h hpermits
    refine Spares.requestAllConveyorsStop hs ?_ ?_ _
    · exact hn
    · exact hstays

theorem Spares.reportPauseFailed (h : Spares κ a m) (reason : String) (timedOut : Bool) :
    Spares κ a (m.reportPauseFailed stopped reason timedOut).2 := by
  simp only [Master.reportPauseFailed]
  split
  · exact h
  · rename_i n hm
    have hn : Spares κ a n := by
      refine spares_of_event hm ?_
      exact h
    have hafter := after_of_applied hm
    have hfault : n.systemState = .faultStop := by
      revert hafter
      cases timedOut <;> cases m.systemState <;>
        simp [SystemState.after, faultRule, transitionRule, eq_comm]
    exact hn.requestAllConveyorsStop hs (fun _ => .inl (by simp [hfault])) _

theorem Spares.pause (h : Spares κ a m) (reason : String)
    (hpermits : Permits κ m .deviceRecoveryAuto) : Spares κ a (m.pause stopped reason) := by
  simp only [Master.pause]
  split
  · exact h
  · split
    · exact h.requestRecoverableDevicePause hs reason hpermits
    · exact h

omit hs in
theorem Spares.reportRunFailed (h : Spares κ a m) (reason : String) :
    Spares κ a (m.reportRunFailed reason).2 := by
  simp only [Master.reportRunFailed]
  split
  · exact h
  · rename_i n hm
    have hn := spares_of_event hm h
    refine Spares.noteIf ?_ _ _
    exact hn

/-! ### Resuming -/

theorem Spares.confirmConveyorResumed (h : Spares κ a m) (productId : String) (s : StationId) :
    Spares κ a (m.confirmConveyorResumed stopped productId s).2 := by
  simp only [Master.confirmConveyorResumed]
  split
  · exact h
  · split
    · exact h
    · split
      · exact spares_of_ignored ‹_› h
      · split
        · exact h.faultStop hs _
        · split
          · rename_i heq
            exact (spares_of_operate heq h).faultStop hs _
          · rename_i heq
            have hn := spares_of_operate heq h
            refine Spares.emitLogEvent ?_
            exact hn

theorem Spares.openStationCycle (h : Spares κ a m) (productId : String) (fifoSequence : ℕ)
    (s : StationId) : Spares κ a (m.openStationCycle stopped productId fifoSequence s) := by
  simp only [Master.openStationCycle]
  split
  · rename_i heq
    exact (spares_of_operate heq h).faultStop hs _
  · rename_i heq
    have hbegun := spares_of_operate heq h
    split
    · exact hbegun.faultStop hs _
    · exact hbegun

theorem Spares.startStationCycle (h : Spares κ a m) (productId : String) (fifoSequence : ℕ)
    (s : StationId) : Spares κ a (m.startStationCycle stopped productId fifoSequence s) := by
  simp only [Master.startStationCycle]
  split
  · exact h
  · split
    · split
      · exact h
      · exact h.faultStop hs _
    · split
      · exact h.faultStop hs _
      · split
        · exact Spares.emitLogEvent h
        · split
          · exact h.faultStop hs _
          · exact h.openStationCycle hs _ _ _

theorem Spares.sendActuationGoal (h : Spares κ a m) (locked : LockedProduct) :
    Spares κ a (m.sendActuationGoal stopped locked) := by
  simp only [Master.sendActuationGoal]
  split
  · exact h.faultStop hs _
  · split
    · exact h.faultStop hs _
    · split
      · exact h.faultStop hs _
      · split
        · exact h.requestRecoverableDevicePause hs _ (permits_manual (by decide))
        · split
          · refine Spares.requestRecoverableDevicePause hs ?_ _ (permits_manual (by decide))
            exact h
          · exact h

theorem Spares.resumeDeferredStart (h : Spares κ a m) (scope : Scope) :
    Spares κ a (m.resumeDeferredStart stopped scope) := by
  simp only [Master.resumeDeferredStart]
  split
  · exact h
  · exact h.startStationCycle hs _ _ _

theorem Spares.resumePendingActuation (h : Spares κ a m) (actuatorJobId : String) :
    Spares κ a (m.resumePendingActuation stopped actuatorJobId) := by
  simp only [Master.resumePendingActuation]
  split
  · exact h
  · split
    · exact h
    · split
      · exact h
      · exact (h.noteIf _ _).sendActuationGoal hs _

theorem Spares.resumeDeferredOperations (h : Spares κ a m) :
    Spares κ a (m.resumeDeferredOperations stopped) := by
  simp only [Master.resumeDeferredOperations]
  refine Spares.foldl (fun _ job hk => hk.resumePendingActuation hs job) _ ?_
  refine Spares.foldl (fun _ scope hk => hk.resumeDeferredStart hs scope) _ ?_
  exact h.foldl (fun _ scope hk => hk.confirmConveyorResumed hs scope.1 scope.2) _

theorem Spares.confirmAllConveyorsRunning (h : Spares κ a m) :
    Spares κ a (m.confirmAllConveyorsRunning stopped).2 := by
  simp only [Master.confirmAllConveyorsRunning]
  split
  · exact h
  · split
    · exact h
    · rename_i n hm
      have hn := spares_of_event hm h
      exact Spares.resumeDeferredOperations hs (hn.sameBut rfl rfl (by simp))

theorem Spares.requestConveyorRun (h : Spares κ a m) (reason : String) :
    Spares κ a (m.requestConveyorRun stopped reason) := by
  simp only [Master.requestConveyorRun]
  split
  · exact Spares.confirmAllConveyorsRunning hs h
  · exact h

theorem Spares.requestRun (h : Spares κ a m) (reason : String) :
    Spares κ a (m.requestRun stopped reason).2 := by
  simp only [Master.requestRun]
  split
  · exact h
  · split
    · exact h
    · rename_i n hm
      have hn := spares_of_event hm h
      refine Spares.requestConveyorRun hs ?_ _
      exact hn

theorem Spares.requestResume (h : Spares κ a m) (reason : String) (automatic : Bool)
    (hrefused : κ = .resumes → automatic = true ∧ m.pauseReason ≠ some .deviceRecoveryAuto ∨
      m.verifyResumeConditions = false) :
    Spares κ a (m.requestResume stopped reason automatic).2 := by
  simp only [Master.requestResume]
  split
  · exact h
  · rename_i hauto
    split
    · exact h
    · rename_i hverified
      split
      · exact h
      · rename_i n hm
        have hn := spares_of_event hm h
        refine Spares.requestConveyorRun hs ?_ _
        cases κ with
        | workers => exact hn
        | resumes =>
          rcases hrefused rfl with hr | hr
          · exact absurd hr hauto
          · simp [hr] at hverified
        | manual => exact hn

theorem Spares.resumeAfterQueueRecovery (h : Spares κ a m)
    (hrefused : κ = .resumes → m.pauseReason ≠ some .deviceRecoveryAuto ∨
      m.verifyResumeConditions = false) :
    Spares κ a (m.resumeAfterQueueRecovery stopped) := by
  have hresumed := h.requestResume hs "Vision queue recovered" true
    fun hκ => (hrefused hκ).imp_left fun hr => ⟨rfl, hr⟩
  simp only [Master.resumeAfterQueueRecovery]
  split
  · exact h
  · split <;> rename_i heq <;> rw [heq] at hresumed <;> exact hresumed

/-! ### The end of the initialization, the spool and the shutdown -/

omit hs in
theorem Spares.maybeCompleteInitialization (h : Spares κ a m) :
    Spares κ a m.maybeCompleteInitialization := by
  have hdone : ∀ k : Master, Spares κ a k → Spares κ a k.reportInitializationDone.2 := by
    intro k hk
    simp only [Master.reportInitializationDone]
    split
    · exact hk
    · split
      · exact hk
      · split
        · exact hk
        · exact spares_of_event ‹_› hk
  have hreported := hdone { m with initializationCompletionReported := true } h
  simp only [Master.maybeCompleteInitialization]
  split
  · exact h
  · split <;> rename_i heq <;> rw [heq] at hreported <;> exact hreported

theorem Spares.readLogSpool (h : Spares κ a m) : Spares κ a (m.readLogSpool stopped) := by
  simp only [Master.readLogSpool, Master.checkLogSpoolCapacity]
  split
  · exact h
  · split
    · exact h
    · split <;> split
      · refine Spares.requestRecoverableDevicePause hs ?_ _ (permits_manual (by decide))
        exact h
      · exact h
      · exact h.requestRecoverableDevicePause hs _ (permits_manual (by decide))
      · exact h

theorem Spares.flushLogSpool (h : Spares κ a m) : Spares κ a (m.flushLogSpool stopped) := by
  have hrecovered : ∀ k : Master, Spares κ a k → Spares κ a k.spoolRecovered := by
    intro k hk
    simp only [Master.spoolRecovered]
    split
    · exact hk
    · split
      · exact hk.maybeCompleteInitialization
      · exact hk
  simp only [Master.flushLogSpool]
  split
  · exact h.readLogSpool hs
  · split
    · exact h
    · exact Spares.readLogSpool hs (hrecovered { m with logSpoolOpen := true } h)

theorem Spares.finalizeShutdownSequence (h : Spares κ a m) :
    Spares κ a (m.finalizeShutdownSequence stopped) := by
  simp only [Master.finalizeShutdownSequence]
  split
  · exact h
  · have hflush : ∀ k : Master, Spares κ a k → Spares κ a (k.flushLogSpool stopped) :=
      fun k hk => Spares.flushLogSpool hs hk
    refine hflush _ (Spares.emitLogEvent ?_)
    refine Spares.cancelTrackedOperationGoals ?_ true
    exact h

theorem Spares.afterConveyorsStopped (h : Spares κ a m)
    (hstays : κ = .resumes → StaysStopped m) : Spares κ a (m.afterConveyorsStopped stopped) := by
  simp only [Master.afterConveyorsStopped]
  split
  · exact h.finalizeShutdownSequence hs
  · rename_i hrunning
    split
    · exact h
    · rename_i hpaused
      split
      · rename_i hpending
        refine h.resumeAfterQueueRecovery hs fun hκ => ?_
        rcases hstays hκ with ⟨_, hstate⟩ | hshutdown | hreason | hrecovery | hworkers
        · exact absurd (not_not.mp hpaused) hstate
        · exact absurd hshutdown hrunning
        · exact .inl hreason
        · exact absurd hpending.2 (by simp [hrecovery])
        · exact .inr (by simp [verifyResumeConditions, hworkers])
      · exact h

theorem Spares.confirmAllConveyorsStopped (h : Spares κ a m)
    (hstays : κ = .resumes → StaysStopped m) :
    Spares κ a (m.confirmAllConveyorsStopped stopped) := by
  simp only [Master.confirmAllConveyorsStopped]
  split
  · refine Spares.afterConveyorsStopped hs ?_ ?_
    · exact h
    · exact hstays
  · rename_i hpausing
    split
    · refine Spares.reportCriticalFault hs ?_ _ _
      exact h
    · split
      · exact h
      · rename_i n hm
        have hn := spares_of_event hm h
        have hstill : κ = .resumes → StaysStopped n := by
          intro hκ
          rcases hstays hκ with ⟨hstate, _⟩ | hshutdown | hreason | hrecovery | hworkers
          · exact absurd (not_not.mp hpausing) hstate
          · exact .inr (.inl ((shutdown_of_event hm).trans hshutdown))
          · exact .inr (.inr (.inl fun hauto =>
              hreason ((pauseReason_applySystemEvent hm).symm.trans hauto)))
          · exact .inr (.inr (.inr (.inl ((recovery_of_event hm).trans hrecovery))))
          · exact .inr (.inr (.inr (.inr ((workers_of_event hm).trans hworkers))))
        split
        · refine Spares.afterConveyorsStopped hs ?_ ?_
          · exact hn
          · exact hstill
        · exact hn.afterConveyorsStopped hs hstill

end Confirmed

theorem sparing_whenStopped (depth : ℕ) : Sparing κ (whenStopped depth) := by
  induction depth with
  | zero =>
    intro a m h _
    exact h
  | succ depth ih =>
    intro a m h hstays
    rw [whenStopped]
    exact h.confirmAllConveyorsStopped ih hstays

section Confirmed

variable (hs : Sparing κ stopped)
include hs

/-! ### Stations -/

theorem Spares.resumeConveyorAfterCapture (h : Spares κ a m) (productId : String)
    (s : StationId) : Spares κ a (m.resumeConveyorAfterCapture stopped productId s) := by
  simp only [Master.resumeConveyorAfterCapture]
  split
  · exact h.faultStop hs _
  · split
    · exact h
    · split
      · refine Spares.confirmConveyorResumed hs ?_ _ _
        exact h
      · exact h

omit hs in
theorem Spares.reconcileStation (h : Spares κ a m) (s : StationId) :
    Spares κ a (m.reconcileStation s).2 := by
  simp only [Master.reconcileStation, Master.releaseStation]
  split
  · exact h
  · split
    · exact h
    · split
      · split
        · exact spares_of_operate ‹_› h
        · rename_i heq
          have hn := spares_of_operate heq h
          exact hn
      · split <;> rename_i heq <;> have hn := spares_of_operate heq (h.noteIf _ _) <;> exact hn

theorem Spares.pauseStationForRecovery (h : Spares κ a m) (s : StationId) (reason : String) :
    Spares κ a (m.pauseStationForRecovery stopped s reason) := by
  have hreconciled := h.reconcileStation s
  simp only [Master.pauseStationForRecovery]
  split
  · exact spares_of_ignored ‹_› h
  · split <;> rename_i heq <;> rw [heq] at hreconciled
    · exact hreconciled.faultStop hs _
    · exact hreconciled.requestRecoverableDevicePause hs _ (permits_manual (by decide))

theorem Spares.cancelActiveStationB (h : Spares κ a m) (cycle : StationCycle) (reason : String) :
    Spares κ a (m.cancelActiveStationB stopped cycle reason) := by
  have hcanceled := h.elimCancelGoal cycle.captureGoalHandle
  simp only [Master.cancelActiveStationB]
  split
  · rename_i heq
    exact (spares_of_operate heq hcanceled).emitLogEvent.resumeConveyorAfterCapture hs _ _
  · rename_i heq
    have hskipped := spares_of_operate heq hcanceled
    split
    · refine Spares.resumeConveyorAfterCapture hs (Spares.emitLogEvent ?_) _ _
      exact hskipped
    · exact hskipped

theorem Spares.cancelStationBAfterATerminal (h : Spares κ a m) (productId reason : String) :
    Spares κ a (m.cancelStationBAfterATerminal stopped productId reason) := by
  simp only [Master.cancelStationBAfterATerminal]
  split
  · exact h.emitLogEvent
  · split
    · exact h
    · split
      · refine Spares.cancelActiveStationB hs ?_ _ _
        exact h
      · split
        · exact h
        · split
          · rename_i heq
            have hn := spares_of_operate (a := a) heq h
            exact hn.emitLogEvent
          · rename_i heq
            exact spares_of_operate (a := a) heq h

theorem Spares.cancelAfterStation (h : Spares κ a m) (s : StationId)
    (productId reason : String) : Spares κ a (m.cancelAfterStation stopped s productId reason) := by
  simp only [Master.cancelAfterStation]
  split
  · exact h.cancelStationBAfterATerminal hs _ _
  · exact h

theorem Spares.finishCaptureFailure (h : Spares κ a m) (s : StationId) (reason : String)
    (errorCode : ℕ) : Spares κ a (m.finishCaptureFailure stopped s reason errorCode) := by
  simp only [Master.finishCaptureFailure]
  split
  · exact h
  · split
    · exact spares_of_ignored ‹_› h
    · split
      · exact h.faultStop hs _
      · split
        · rename_i heq
          exact (spares_of_operate heq h).faultStop hs _
        · rename_i heq
          have hfailed := (spares_of_operate heq h).emitLogEvent.cancelAfterStation hs s
          refine Spares.resumeConveyorAfterCapture hs (Spares.noteIf ?_ _ _) _ _
          split
          · exact (hfailed _ _).requestRecoverableDevicePause hs _ (permits_manual (by decide))
          · exact hfailed _ _

theorem Spares.sendCaptureGoal (h : Spares κ a m) (cycle : StationCycle) :
    Spares κ a (m.sendCaptureGoal stopped cycle) := by
  simp only [Master.sendCaptureGoal]
  split
  · rename_i heq
    exact (spares_of_operate (a := a) heq h).faultStop hs _
  · rename_i heq
    have hrequested := spares_of_operate (a := a) heq h
    split
    · refine Spares.pauseStationForRecovery hs ?_ _ _
      exact hrequested
    · exact hrequested

theorem Spares.maybeRequestStationCapture (h : Spares κ a m) (s : StationId) :
    Spares κ a (m.maybeRequestStationCapture stopped s) := by
  simp only [Master.maybeRequestStationCapture, Master.requestStationCapture]
  split
  · exact h
  · split
    · exact h
    · split
      · exact h
      · split
        · split
          · exact h
          · exact h.resumeConveyorAfterCapture hs _ _
        · split
          · exact h.pauseStationForRecovery hs _ _
          · exact h.sendCaptureGoal hs _

theorem Spares.handlePositionSettled (h : Spares κ a m) (sessionId : String) (conveyorId : ℕ) :
    Spares κ a (m.handlePositionSettled stopped sessionId conveyorId) := by
  simp only [Master.handlePositionSettled]
  split
  · exact h
  · split
    · exact h.faultStop hs _
    · split
      · exact spares_of_ignored ‹_› h
      · split
        · exact h.emitLogEvent
        · split
          · exact h.faultStop hs _
          · split
            · exact h.emitLogEvent
            · split
              · rename_i heq
                exact (spares_of_operate heq h).faultStop hs _
              · rename_i heq
                exact (spares_of_operate heq h).maybeRequestStationCapture hs _

theorem Spares.handleCaptureFeedback (h : Spares κ a m) (hκ : κ ≠ .manual) (s : StationId)
    (captureId : String) (stage : ℕ) (frameBatchId : String) :
    Spares κ a (m.handleCaptureFeedback stopped s captureId stage frameBatchId) := by
  simp only [Master.handleCaptureFeedback]
  split
  · exact h
  · split
    · exact h
    · split
      · refine Spares.pause hs ?_ _ (permits_blocked hκ rfl)
        exact h.noteIf (m.systemState = .paused && m.pendingRunConfirmation) .blockedResume
      · exact h

theorem Spares.handleCaptureGoalResponse (h : Spares κ a m) (s : StationId) (captureId : String)
    (response : Except String GoalReply) :
    Spares κ a (m.handleCaptureGoalResponse stopped s captureId response) := by
  simp only [Master.handleCaptureGoalResponse]
  split
  · exact h
  · split
    · exact spares_of_ignored ‹_› h
    · split
      · exact h.pauseStationForRecovery hs _ _
      · split
        · exact h.pauseStationForRecovery hs _ _
        · split
          · exact h
          · exact Spares.same (h.noteIf _ .staleReply) rfl rfl rfl

theorem Spares.handleCaptureResult (h : Spares κ a m) (s : StationId) (captureId : String)
    (result : Except String CaptureResult) :
    Spares κ a (m.handleCaptureResult stopped s captureId result) := by
  simp only [Master.handleCaptureResult, Master.applyCaptureSuccess]
  split
  · exact h
  · split
    · exact spares_of_ignored ‹_› h
    · split
      · exact h.pauseStationForRecovery hs _ _
      · split
        · exact h.faultStop hs _
        · split
          · split
            · exact h.emitLogEvent
            · exact h.emitLogEvent.resumeConveyorAfterCapture hs _ _
          · split
            · split
              · exact h.faultStop hs _
              · exact h.finishCaptureFailure hs _ _ _
            · split
              · exact h.finishCaptureFailure hs _ _ _
              · split
                · exact h.faultStop hs _
                · split
                  · rename_i heq
                    exact (spares_of_operate heq h).faultStop hs _
                  · rename_i heq
                    have hn := spares_of_operate heq h
                    exact hn.emitLogEvent.resumeConveyorAfterCapture hs _ _

theorem Spares.applyAcceptedStationResult (h : Spares κ a m) (facts : StationMessageFacts)
    (s : StationId) (verdict : Verdict) :
    Spares κ a (m.applyAcceptedStationResult stopped facts s verdict) := by
  simp only [Master.applyAcceptedStationResult]
  split <;> rename_i heq <;> have hn := spares_of_operate heq h
  · split
    · exact hn.emitLogEvent.cancelStationBAfterATerminal hs _ _
    · exact hn.emitLogEvent.noteIf _ _
  · exact hn
  · exact (hn.noteIf _ _).emitLogEvent
  · exact hn.faultStop hs _

theorem Spares.recordContractFailure (h : Spares κ a m) (productId : String) (s : StationId)
    (reason : String) : Spares κ a (m.recordContractFailure stopped productId s reason) := by
  refine Spares.cancelAfterStation hs (Spares.emitLogEvent ?_) _ _ _
  exact h

theorem Spares.handleStationResult (h : Spares κ a m) (sessionId : String)
    (facts : StationMessageFacts) : Spares κ a (m.handleStationResult stopped sessionId facts) := by
  simp only [Master.handleStationResult]
  split
  · exact h
  · split
    · exact spares_of_ignored ‹_› h
    · split
      · exact h.faultStop hs _
      · exact h.faultStop hs _
      · exact h.faultStop hs _
      · exact h.recordContractFailure hs _ _ _
      · exact h.applyAcceptedStationResult hs _ _ _
      · exact h.emitLogEvent

theorem Spares.applyAcceptedStationFailure (h : Spares κ a m) (facts : StationMessageFacts)
    (s : StationId) (errorCode : ℕ) (reason : String) :
    Spares κ a (m.applyAcceptedStationFailure stopped facts s errorCode reason) := by
  simp only [Master.applyAcceptedStationFailure]
  split <;> rename_i heq <;> have hn := spares_of_operate heq h
  · exact hn.faultStop hs _
  · have hcanceled := hn.emitLogEvent.cancelAfterStation hs s facts.productId
      ("Station A inference failure: " ++ reason)
    split
    · exact hcanceled.requestRecoverableDevicePause hs _ (permits_manual (by decide))
    · exact hcanceled
  · exact hn

theorem Spares.handleStationFailure (h : Spares κ a m) (sessionId : String)
    (facts : StationMessageFacts) (errorCode : ℕ) (reason : String) :
    Spares κ a (m.handleStationFailure stopped sessionId facts errorCode reason) := by
  simp only [Master.handleStationFailure]
  split
  · exact h
  · split
    · exact spares_of_ignored ‹_› h
    · split
      · exact h.faultStop hs _
      · exact h.faultStop hs _
      · exact h.faultStop hs _
      · exact h.recordContractFailure hs _ _ _
      · exact h.applyAcceptedStationFailure hs _ _ _ _
      · exact h.emitLogEvent

/-! ### The actuator -/

theorem Spares.scheduleActuation (h : Spares κ a m) (locked : LockedProduct) :
    Spares κ a (m.scheduleActuation stopped locked) := by
  simp only [Master.scheduleActuation]
  split
  · exact h.faultStop hs _
  · split
    · rename_i heq
      exact (spares_of_operate (a := a) heq h).faultStop hs _
    · rename_i heq
      have hbegun := spares_of_operate (a := a) heq h
      refine Spares.sendActuationGoal hs ?_ _
      exact hbegun

theorem Spares.handleActuationGoalResponse (h : Spares κ a m) (actuatorJobId commandId : String)
    (response : Except String GoalReply) :
    Spares κ a (m.handleActuationGoalResponse stopped actuatorJobId commandId response) := by
  simp only [Master.handleActuationGoalResponse]
  split
  · exact h
  · split
    · exact spares_of_ignored ‹_› h
    · split
      · exact h.requestRecoverableDevicePause hs _ (permits_manual (by decide))
      · split
        · exact h.requestRecoverableDevicePause hs _ (permits_manual (by decide))
        · split
          · exact h.faultStop hs _
          · split
            · rename_i heq
              exact (spares_of_operate heq (h.noteIf _ _)).faultStop hs _
            · rename_i heq
              have hn := spares_of_operate heq (h.noteIf _ _)
              exact hn

omit hs in
theorem Spares.removeCompletedFifoPrefix (h : Spares κ a m) :
    Spares κ a m.removeCompletedFifoPrefix := by
  simp only [Master.removeCompletedFifoPrefix]
  split
  · exact spares_of_ignored ‹_› h
  · refine Spares.foldl (fun k context hk => ?_) _ ?_
    · refine Spares.emitLogEvent ?_
      exact hk
    · exact h

theorem Spares.completeActuation (h : Spares κ a m) (cycle : ActuationCycle)
    (actuationId : String) : Spares κ a (m.completeActuation stopped cycle actuationId) := by
  simp only [Master.completeActuation]
  split
  · exact h.faultStop hs _
  · split
    · rename_i heq
      exact (spares_of_operate heq h).faultStop hs _
    · rename_i heq
      have hn := spares_of_operate heq h
      refine Spares.removeCompletedFifoPrefix (Spares.emitLogEvent ?_)
      exact hn

theorem Spares.handleActuationResult (h : Spares κ a m) (actuatorJobId commandId : String)
    (result : Except String ActuationResult) :
    Spares κ a (m.handleActuationResult stopped actuatorJobId commandId result) := by
  simp only [Master.handleActuationResult]
  split
  · exact h
  · split
    · exact spares_of_ignored ‹_› h
    · split
      · exact h.faultStop hs _
      · split
        · exact h.faultStop hs _
        · split
          · exact h.faultStop hs _
          · split
            · exact h.faultStop hs _
            · split
              · refine Spares.faultStop hs ?_ _
                exact h
              · refine Spares.completeActuation hs ?_ _ _
                exact h
              · refine Spares.completeActuation hs ?_ _ _
                exact h

/-! ### Sensors -/

theorem Spares.handleSensor1Entry (h : Spares κ a m) (message : SensorEvent) :
    Spares κ a (m.handleSensor1Entry stopped message) := by
  simp only [Master.handleSensor1Entry]
  split
  · exact h
  · split
    · exact h.faultStop hs _
    · split
      · exact h
      · rename_i ledger _
        have hentered : Spares κ a ({ m with line.ledger := ledger }.operate
            (m.productIdOf m.line.ledger.nextSequence)
            (.recordSensor 1 message.eventId message.estimatedStep)).2.emitLogEvent :=
          Spares.emitLogEvent h
        split
        · split
          · refine Spares.requestRecoverableDevicePause hs ?_ _ (permits_manual (by decide))
            exact hentered
          · exact hentered
        · exact hentered.startStationCycle hs _ _ _

theorem Spares.handleSensor2Entry (h : Spares κ a m) (message : SensorEvent) :
    Spares κ a (m.handleSensor2Entry stopped message) := by
  simp only [Master.handleSensor2Entry]
  split
  · exact h
  · split
    · exact h.faultStop hs _
    · split
      · rename_i heq
        exact (spares_of_operate heq h).faultStop hs _
      · rename_i heq
        have hn := (spares_of_operate heq h).emitLogEvent
        split
        · exact hn.emitLogEvent
        · exact hn.startStationCycle hs _ _ _

theorem Spares.acceptLocked (h : Spares κ a m) (locked : LockedProduct) :
    Spares κ a (m.acceptLocked stopped locked) := by
  simp only [Master.acceptLocked]
  split
  · exact h.faultStop hs _
  · refine Spares.foldl (fun k ready hk => ?_) _ ?_
    · refine Spares.emitLogEvent ?_
      exact hk
    · exact h

theorem Spares.handleSensor3Entry (h : Spares κ a m) (message : SensorEvent) :
    Spares κ a (m.handleSensor3Entry stopped message) := by
  simp only [Master.handleSensor3Entry]
  split
  · exact h
  · split
    · exact h.faultStop hs _
    · split <;> rename_i heq <;> have hn := spares_of_operate heq h
      · refine Spares.scheduleActuation hs (Spares.noteIf ?_ _ _) _
        refine Spares.acceptLocked hs ?_ _
        exact hn
      · exact hn.faultStop hs _
      · exact hn

theorem Spares.handleSensorEvent (h : Spares κ a m) (message : SensorEvent) :
    Spares κ a (m.handleSensorEvent stopped message) := by
  simp only [Master.handleSensorEvent]
  split
  · exact h
  · split
    · exact h
    · split
      · exact h
      · split
        · exact h
        · split
          · refine Spares.handleSensor1Entry hs ?_ _
            exact h
          · refine Spares.handleSensor2Entry hs ?_ _
            exact h
          · refine Spares.handleSensor3Entry hs ?_ _
            exact h
      · refine Spares.faultStop hs ?_ _
        exact h

/-! ### Reset -/

omit hs in
theorem Spares.getD_event {event : SystemEvent} (h : Spares κ a m) (reason : String) :
    Spares κ a ((m.applySystemEvent event reason).getD m) := by
  cases hm : m.applySystemEvent event reason with
  | none => exact h
  | some n => exact spares_of_event hm h

omit hs in
theorem Spares.reportResetSucceeded (h : Spares κ a m) (lineCleared : Bool) :
    Spares κ a (m.reportResetSucceeded lineCleared).2 := by
  simp only [Master.reportResetSucceeded]
  split
  · exact h
  · rename_i n hm
    have hn := spares_of_event hm h
    split
    · exact hn.sameBut rfl rfl (by simp)
    · exact hn.sameBut rfl rfl (by simp [setHealthState])

omit hs in
theorem Spares.recoverStation (h : Spares κ a m) (s : StationId) (cycle : StationCycle)
    (context : ProductContext) : Spares κ a (m.recoverStation s cycle context).2 := by
  simp only [Master.recoverStation]
  split
  · exact h
  · split
    · split <;> rename_i heq <;> have hn := spares_of_operate heq h <;> exact hn
    · split
      · split <;> rename_i heq <;> have hn := spares_of_operate heq h <;> exact hn
      · split <;> rename_i heq <;> have hn := spares_of_operate heq h <;> exact hn

theorem Spares.recoverStations (h : Spares κ a m) (items : List (StationId × StationCycle)) :
    Spares κ a (recoverStations stopped items m).2 := by
  induction items generalizing m with
  | nil => exact h
  | cons item rest ih =>
    obtain ⟨s, cycle⟩ := item
    simp only [Master.recoverStations]
    split
    · refine Spares.reportCriticalFault hs ?_ _ _
      exact h
    · rename_i context _
      have hrecovered : Spares κ a ((m.setStationCycle { cycle with
          deadlineNs := 0 }).recoverStation s { cycle with deadlineNs := 0 } context).2 := by
        refine Spares.recoverStation ?_ _ _ _
        exact h
      split <;> rename_i heq <;> rw [heq] at hrecovered
      · exact hrecovered.reportCriticalFault hs _ _
      · exact (ih hrecovered).noteIf _ _

theorem Spares.prepareInPlaceRecovery (h : Spares κ a m) :
    Spares κ a (m.prepareInPlaceRecovery stopped).2 := by
  have hrecovered := (h.cancelTrackedOperationGoals false).recoverStations hs
    (m.cancelTrackedOperationGoals false).line.stationCycles.items
  simp only [Master.prepareInPlaceRecovery]
  split
  · exact h.reportCriticalFault hs _ _
  · split <;> rename_i heq <;> rw [heq] at hrecovered
    · exact hrecovered
    · rename_i givenUp n
      have hcanceled := hrecovered.foldl (f := fun m scope =>
        m.emitLogEvent.cancelAfterStation stopped scope.2 scope.1 nonresidualReason)
        (fun k scope hk => hk.emitLogEvent.cancelAfterStation hs _ _ _) givenUp
      refine Spares.foldl (fun k cycle hk => ?_) _ ?_
      · split <;> exact hk
      · exact hcanceled

theorem Spares.confirmResetCompleted (h : Spares κ a m) :
    Spares κ a (m.confirmResetCompleted stopped).2 := by
  have hprepared := h.prepareInPlaceRecovery hs
  simp only [Master.confirmResetCompleted, Master.reportResetFailed]
  split
  · exact h
  · split
    · split
      · exact h.getD_event _
      · refine Spares.reportResetSucceeded (Spares.emitLogEvent ?_) _
        exact h.cancelTrackedOperationGoals true
    · split
      · exact h.getD_event _
      · split <;> rename_i heq <;> rw [heq] at hprepared
        · exact hprepared
        · refine Spares.reportResetSucceeded ?_ _
          exact hprepared

/-! ### Equipment reports, the queue and the operator -/

theorem Spares.updateEquipmentSnapshot (h : Spares κ a m) (u : EquipmentUpdate) :
    Spares κ a (m.updateEquipmentSnapshot stopped u) := by
  simp only [Master.updateEquipmentSnapshot]
  split
  · refine Spares.reportEstopAsserted hs ?_
    exact h
  · exact h

theorem Spares.confirmPendingResume (h : Spares κ a m) (conveyor : ConveyorId) :
    Spares κ a (m.confirmPendingResume stopped conveyor) := by
  refine h.foldl (fun k item hk => ?_) _
  obtain ⟨s, cycle⟩ := item
  simp only
  split
  · exact hk.confirmConveyorResumed hs _ _
  · exact hk

omit hs in
theorem Spares.handleEquipmentState (hs : Sparing .workers stopped) (h : Spares .workers a m)
    (message : EquipmentState) : Spares .workers a (m.handleEquipmentState stopped message) := by
  have hresumed : ∀ (k : Master) (started : Bool) (conveyor : ConveyorId), Spares .workers a k →
      Spares .workers a (if started then k.confirmPendingResume stopped conveyor else k) := by
    intro k started conveyor hk
    split
    · exact hk.confirmPendingResume hs conveyor
    · exact hk
  have hrunning : ∀ k : Master, Spares .workers a k →
      Spares .workers a (if k.pendingRunConfirmation && k.equipment.allConveyorsRunning then
        (k.confirmAllConveyorsRunning stopped).2 else k) := by
    intro k hk
    split
    · exact hk.confirmAllConveyorsRunning hs
    · exact hk
  have hstopped : ∀ k : Master, Spares .workers a k →
      Spares .workers a (if k.equipment.allConveyorsStopped then
        k.confirmAllConveyorsStopped stopped else k) := by
    intro k hk
    split
    · exact hk.confirmAllConveyorsStopped hs fun hother => by cases hother
    · exact hk
  have hreset : ∀ k : Master, Spares .workers a k →
      Spares .workers a (if k.systemState = .resetting ∧ k.resetGuardsSatisfied then
        (k.confirmResetCompleted stopped).2 else k) := by
    intro k hk
    split
    · exact hk.confirmResetCompleted hs
    · exact hk
  simp only [Master.handleEquipmentState]
  split
  · exact h
  · exact hreset _ (hstopped _ (hrunning _ (hresumed _ _ _ (hresumed _ _ _
      (h.updateEquipmentSnapshot hs message.update)))))

omit hs in
theorem Spares.handleQueueState (hs : Sparing .workers stopped) (h : Spares .workers a m)
    (sessionId : String) (state : ℕ) (blockedFrameBatchId : String) :
    Spares .workers a (m.handleQueueState stopped sessionId state blockedFrameBatchId) := by
  simp only [Master.handleQueueState]
  split
  · exact h
  · split
    · exact h
    · split
      · split
        · exact h
        · refine Spares.pause hs ?_ _ trivial
          exact h.noteIf (m.systemState = .paused && m.pendingRunConfirmation) .blockedResume
      · split
        · have hrestarted : Spares .workers a { m with
              queueRecoveredPending := true }.restartCaptureDeadlines := by
            refine Spares.foldl (fun k item hk => ?_) _ ?_
            · obtain ⟨_, cycle⟩ := item
              simp only
              split <;> exact hk
            · exact h
          split
          · exact hrestarted.resumeAfterQueueRecovery hs fun hother => by cases hother
          · exact hrestarted
        · exact h

/-! ### Shutdown, deadlines and replay -/

theorem Spares.requestShutdown (h : Spares κ a m) : Spares κ a (m.requestShutdown stopped) := by
  have hpaused : Spares κ a ({ m with shutdownRequested := true }.awaitShutdownStop.requestPause
      stopped "shutdown safe stop").2 := by
    refine Spares.requestPause hs ?_ _
    exact h
  simp only [Master.requestShutdown, Master.beginShutdownSequence]
  split
  · exact h
  · split
    · exact h
    · split
      · split <;> rename_i heq <;> rw [heq] at hpaused <;> exact hpaused
      · split
        · refine Spares.requestAllConveyorsStop hs ?_ (fun _ => .inr (.inl rfl)) _
          exact h
        · split
          · refine Spares.requestAllConveyorsStop hs ?_ (fun _ => .inr (.inl rfl)) _
            exact h
          · refine Spares.finalizeShutdownSequence hs ?_
            exact h

theorem Spares.expireStationCycle (h : Spares κ a m) (s : StationId) :
    Spares κ a (m.expireStationCycle stopped s) := by
  simp only [Master.expireStationCycle]
  split
  · exact h
  · rename_i cycle _
    split
    · exact h
    · have hnoted : Spares κ a ((m.noteIf (m.systemState = .faultStop)
          .expiredCycle).setStationCycle { cycle with deadlineNs := 0 }) :=
        h.noteIf (m.systemState = .faultStop) .expiredCycle
      split
      · split
        · exact hnoted
        · exact (hnoted.elimCancelGoal _).finishCaptureFailure hs _ _ _
      · split
        · exact hnoted
        · exact (hnoted.elimCancelGoal _).finishCaptureFailure hs _ _ _
      · split
        · exact hnoted.pauseStationForRecovery hs _ _
        · exact hnoted.faultStop hs _
      · refine Spares.requestRecoverableDevicePause hs ?_ _ (permits_manual (by decide))
        exact hnoted

theorem Spares.expireActuationCycle (h : Spares κ a m) (actuatorJobId : String) :
    Spares κ a (m.expireActuationCycle stopped actuatorJobId) := by
  simp only [Master.expireActuationCycle]
  split
  · exact h
  · rename_i cycle _
    split
    · exact h
    · have hnoted : Spares κ a ((m.noteIf (m.systemState = .faultStop)
          .expiredCycle).setActuationCycle { cycle with deadlineNs := 0 }) :=
        h.noteIf (m.systemState = .faultStop) .expiredCycle
      split
      · exact hnoted.faultStop hs _
      · exact hnoted.requestRecoverableDevicePause hs _ (permits_manual (by decide))
      · exact hnoted

theorem Spares.checkOperationDeadlines (h : Spares κ a m) :
    Spares κ a (m.checkOperationDeadlines stopped) := by
  have hpruned : Spares κ a m.pruneContexts := by
    unfold Master.pruneContexts
    split <;> exact h
  have hpause : Spares κ a (m.pruneContexts.checkPauseDeadline stopped) := by
    unfold Master.checkPauseDeadline
    split
    · refine Spares.reportPauseFailed hs ?_ _ _
      exact hpruned
    · exact hpruned
  have hrun : Spares κ a (m.pruneContexts.checkPauseDeadline stopped).checkRunDeadline := by
    unfold Master.checkRunDeadline
    split
    · refine Spares.reportRunFailed ?_ _
      exact hpause
    · exact hpause
  have hshutdown : Spares κ a
      ((m.pruneContexts.checkPauseDeadline stopped).checkRunDeadline.checkShutdownDeadline
        stopped) := by
    unfold Master.checkShutdownDeadline
    split
    · refine Spares.reportCriticalFault hs ?_ _ _
      exact hrun
    · exact hrun
  simp only [Master.checkOperationDeadlines]
  split
  · exact hshutdown
  · refine Spares.foldl (fun k job hk => hk.expireActuationCycle hs job) _ ?_
    exact hshutdown.foldl (fun k s hk => hk.expireStationCycle hs s) _

omit hs in
theorem Spares.requestStationResultReplay (h : Spares κ a m) :
    Spares κ a m.requestStationResultReplay := by
  simp only [Master.requestStationResultReplay]
  split
  · exact h
  · split <;> exact h

theorem Spares.handleStationResultReplay (h : Spares κ a m) (generation : ℕ)
    (response : Except String ReplayResponse) :
    Spares κ a (m.handleStationResultReplay stopped generation response) := by
  simp only [Master.handleStationResultReplay]
  split
  · exact h
  · split
    · exact h
    · rename_i reply
      split
      · exact h
      · have hresults := Spares.foldl (f := fun m (message : StationResultMessage) =>
            m.handleStationResult stopped message.sessionId message.facts)
          (fun k message hk => hk.handleStationResult hs _ _) reply.results
          (m := { m with stationReplayInflight := false }) h
        have hfailures := hresults.foldl (f := fun m (message : StationFailureMessage) =>
            m.handleStationFailure stopped message.sessionId message.facts message.errorCode
              message.reason)
          (fun k message hk => hk.handleStationFailure hs _ _ _ _) reply.failures
        split
        · exact hfailures
        · exact Spares.emitLogEvent hfailures

end Confirmed

end Master

end InspectionLine
