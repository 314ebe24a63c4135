import InspectionLine.MasterRefinement

/-! # Stops and pauses leave the line as it is

This holds when no queue pause waits for its end: the confirmation of a stop resumes nothing. -/
namespace InspectionLine

open Supervision

namespace Master

/-- The line and the queue pause are as before, and a fault is not over. -/
structure Undisturbed (m n : Master) : Prop where
  line : n.line = m.line
  pausedByQueue : n.pausedByQueue = m.pausedByQueue
  around : n.around = m.around
  faulted : m.systemState = .faultStop → n.systemState = .faultStop

variable {m n k : Master} {stopped : Master → Master}

theorem Undisturbed.refl (m : Master) : Undisturbed m m := ⟨rfl, rfl, rfl, id⟩

theorem Undisturbed.trans (h : Undisturbed m n) (g : Undisturbed n k) : Undisturbed m k :=
  ⟨g.line.trans h.line, g.pausedByQueue.trans h.pausedByQueue, g.around.trans h.around,
    fun hf => g.faulted (h.faulted hf)⟩

/-- An update that the comparison does not see comes first. -/
theorem Undisturbed.behind (h : Undisturbed n k) (hl : n.line = m.line)
    (hq : n.pausedByQueue = m.pausedByQueue) (ha : n.around = m.around)
    (hs : n.systemState = m.systemState) : Undisturbed m k :=
  Undisturbed.trans ⟨hl, hq, ha, fun hf => hs.trans hf⟩ h

@[simp] theorem around_emitLogEvent (m : Master) : m.emitLogEvent.around = m.around := by
  unfold emitLogEvent
  split <;> rfl

theorem undisturbed_emitLogEvent (m : Master) : Undisturbed m m.emitLogEvent := by
  unfold emitLogEvent
  split <;> exact ⟨rfl, rfl, rfl, id⟩

theorem undisturbed_event {event : SystemEvent} {reason : String}
    (h : m.applySystemEvent event reason = some n) (hevent : event ≠ .resetRequest) :
    Undisturbed m n := by
  obtain ⟨t, hte, ⟨_, hafter⟩, hn⟩ := apply_system_event_spec h
  obtain ⟨t', _, hentered⟩ := Option.map_eq_some_iff.mp h
  refine ⟨?_, ?_, ?_, fun hfault => ?_⟩
  · rw [hn]
    rfl
  · rw [hn]
    rfl
  · rw [← hentered]
    simp only [onSystemStateEntered, around_emitLogEvent]
    split <;> rfl
  · rw [hn]
    change t.current = .faultStop
    rw [show m.systemState = .faultStop from hfault, hte] at hafter
    cases event <;> simp_all [SystemState.after, faultRule, transitionRule]

theorem faulted_event {reason : String}
    (h : m.applySystemEvent .criticalFault reason = some n) : n.systemState = .faultStop := by
  obtain ⟨t, hte, ⟨_, hafter⟩, hn⟩ := apply_system_event_spec h
  rw [hn]
  rw [hte] at hafter
  exact (Option.some.inj hafter).symm

/-- With no queue pause, the treatment of a confirmed stop does not touch the line. -/
structure Calm (stopped : Master → Master) : Prop where
  quiet : ∀ {m : Master}, m.pausedByQueue = false → Undisturbed m (stopped m)

theorem Calm.requestAllConveyorsStop (hs : Calm stopped) (hq : m.pausedByQueue = false)
    (reason : String) : Undisturbed m (m.requestAllConveyorsStop stopped reason) := by
  simp only [Master.requestAllConveyorsStop]
  split <;> split
  · exact Undisturbed.behind (hs.quiet hq) rfl rfl rfl rfl
  · exact ⟨rfl, rfl, rfl, id⟩
  · exact Undisturbed.behind (hs.quiet hq) rfl rfl rfl rfl
  · exact ⟨rfl, rfl, rfl, id⟩

theorem undisturbed_noteIf (m : Master) (lapsed : Bool) (lapse : Lapse) :
    Undisturbed m (m.noteIf lapsed lapse) := by
  unfold noteIf
  split <;> exact ⟨rfl, rfl, rfl, id⟩

/-- A critical fault stops the line as it is. -/
theorem Calm.reportCriticalFault (hs : Calm stopped) (hq : m.pausedByQueue = false)
    (reason : String) (policy : RecoveryPolicy) :
    Undisturbed m (m.reportCriticalFault stopped reason policy).2 ∧
      (m.reportCriticalFault stopped reason policy).2.systemState = .faultStop := by
  simp only [Master.reportCriticalFault]
  have hnoted := undisturbed_noteIf m
    (policy ≠ .lineClearRequired && lineClearLatched m.transitions) .weakenedLatch
  generalize m.noteIf (policy ≠ .lineClearRequired && lineClearLatched m.transitions)
    .weakenedLatch = j at hnoted
  split
  · rename_i hnone
    simp [applySystemEvent, decideSystemTransition, faultRule] at hnone
  · rename_i n hn
    have hentered : Undisturbed m n :=
      hnoted.trans (Undisturbed.behind (undisturbed_event hn (by simp)) rfl rfl rfl rfl)
    have hstopped := hs.requestAllConveyorsStop (hentered.pausedByQueue.trans hq) reason
    have hfault := hstopped.faulted (faulted_event hn)
    split
    · refine ⟨(hentered.trans hstopped).trans
        (Undisturbed.behind (undisturbed_emitLogEvent _) rfl rfl rfl rfl), ?_⟩
      exact (undisturbed_emitLogEvent _).faulted hfault
    · exact ⟨hentered.trans hstopped, hfault⟩

theorem Calm.faultStop (hs : Calm stopped) (hq : m.pausedByQueue = false) (reason : String) :
    Undisturbed m (m.faultStop stopped reason) ∧
      (m.faultStop stopped reason).systemState = .faultStop :=
  hs.reportCriticalFault hq reason _

theorem Calm.requestRecoverableDevicePause (hs : Calm stopped) (hq : m.pausedByQueue = false)
    (reason : String) (pauseReason : PauseReason) :
    Undisturbed m (m.requestRecoverableDevicePause stopped reason pauseReason).2 := by
  simp only [Master.requestRecoverableDevicePause]
  split
  · exact .refl m
  · rename_i n hn
    have hentered : Undisturbed m n := undisturbed_event hn (by simp)
    refine hentered.trans (Undisturbed.behind (hs.requestAllConveyorsStop ?_ reason)
      rfl rfl rfl rfl)
    exact hentered.pausedByQueue.trans hq

theorem Calm.readLogSpool (hs : Calm stopped) (hq : m.pausedByQueue = false) :
    Undisturbed m (m.readLogSpool stopped) := by
  simp only [Master.readLogSpool, checkLogSpoolCapacity]
  split
  · exact ⟨rfl, rfl, rfl, id⟩
  · split
    · exact .refl m
    · split <;> split
      · refine Undisturbed.behind (hs.requestRecoverableDevicePause ?_ _ _) rfl rfl rfl rfl
        exact hq
      · exact ⟨rfl, rfl, rfl, id⟩
      · exact hs.requestRecoverableDevicePause hq _ _
      · exact .refl m

theorem undisturbed_spoolRecovered (m : Master) : Undisturbed m m.spoolRecovered := by
  simp only [spoolRecovered]
  split
  · exact ⟨rfl, rfl, rfl, id⟩
  · split
    · simp only [maybeCompleteInitialization]
      split
      · exact .refl m
      · simp only [reportInitializationDone]
        split
        · rename_i n heq
          split at heq
          · cases heq
          · split at heq
            · cases heq
            · split at heq
              · cases heq
              · rename_i n' hn
                cases heq
                exact Undisturbed.behind (undisturbed_event hn (by simp)) rfl rfl rfl rfl
        · rename_i n heq
          split at heq
          · cases heq
            exact ⟨rfl, rfl, rfl, id⟩
          · split at heq
            · cases heq
              exact ⟨rfl, rfl, rfl, id⟩
            · split at heq
              · cases heq
                exact ⟨rfl, rfl, rfl, id⟩
              · cases heq
    · exact .refl m

theorem Calm.flushLogSpool (hs : Calm stopped) (hq : m.pausedByQueue = false) :
    Undisturbed m (m.flushLogSpool stopped) := by
  simp only [Master.flushLogSpool]
  split
  · exact hs.readLogSpool hq
  · split
    · exact .refl m
    · have hrecovered : Undisturbed m ({ m with logSpoolOpen := true } : Master).spoolRecovered :=
        Undisturbed.behind (undisturbed_spoolRecovered _) rfl rfl rfl rfl
      exact hrecovered.trans (hs.readLogSpool (hrecovered.pausedByQueue.trans hq))

theorem undisturbed_cancelTrackedOperationGoals (m : Master) (includeActuation : Bool) :
    Undisturbed m (m.cancelTrackedOperationGoals includeActuation) := by
  have hloop : ∀ (handles : List GoalHandle) (k : Master), Undisturbed m k →
      Undisturbed m (handles.foldl cancelGoal k) := by
    intro handles
    induction handles with
    | nil => exact fun k hk => hk
    | cons handle rest ih => exact fun k hk => ih _ (hk.trans ⟨rfl, rfl, rfl, id⟩)
  exact hloop _ m (.refl m)

theorem Calm.finalizeShutdownSequence (hs : Calm stopped) (hq : m.pausedByQueue = false) :
    Undisturbed m (m.finalizeShutdownSequence stopped) := by
  simp only [Master.finalizeShutdownSequence]
  split
  · exact .refl m
  · have hcanceled : Undisturbed m (({ m with
        shutdownPhase := .finalizing
        shutdownDeadlineNs := 0 } : Master).cancelTrackedOperationGoals true).emitLogEvent :=
      Undisturbed.behind ((undisturbed_cancelTrackedOperationGoals _ true).trans
        (undisturbed_emitLogEvent _)) rfl rfl rfl rfl
    exact (hcanceled.trans (hs.flushLogSpool (hcanceled.pausedByQueue.trans hq))).trans
      ⟨rfl, rfl, rfl, id⟩

theorem Calm.afterConveyorsStopped (hs : Calm stopped) (hq : m.pausedByQueue = false) :
    Undisturbed m (m.afterConveyorsStopped stopped) := by
  simp only [Master.afterConveyorsStopped]
  split
  · exact hs.finalizeShutdownSequence hq
  · split
    · exact .refl m
    · rw [if_neg (by simp [hq])]
      exact .refl m

theorem Calm.confirmAllConveyorsStopped (hs : Calm stopped) :
    Calm (confirmAllConveyorsStopped stopped) := by
  refine ⟨fun {m} hq => ?_⟩
  simp only [Master.confirmAllConveyorsStopped]
  have hnoted : Undisturbed m { m with
      equipment := m.equipment.markAllStopped, pauseDeadlineNs := 0 } := ⟨rfl, rfl, rfl, id⟩
  generalize ({ m with
      equipment := m.equipment.markAllStopped, pauseDeadlineNs := 0 } : Master) = j at hnoted
  have hj := hnoted.pausedByQueue.trans hq
  split
  · exact hnoted.trans (hs.afterConveyorsStopped hj)
  · split
    · exact hnoted.trans (hs.reportCriticalFault hj _ _).1
    · split
      · exact hnoted
      · rename_i n hn
        have hentered := undisturbed_event hn (by simp)
        have hn := hentered.pausedByQueue.trans hj
        split
        · exact (hnoted.trans hentered).trans
            (Undisturbed.behind (hs.afterConveyorsStopped hn) rfl rfl rfl rfl)
        · exact (hnoted.trans hentered).trans (hs.afterConveyorsStopped hn)

theorem calm_whenStopped (depth : ℕ) : Calm (whenStopped depth) := by
  induction depth with
  | zero => exact ⟨fun {m} _ => .refl m⟩
  | succ depth ih => exact ih.confirmAllConveyorsStopped

end Master

end InspectionLine
