import InspectionLine.OverdueCaptures
import InspectionLine.ConveyorRuns
import InspectionLine.QueuePause

/-! # The queue pause in all runs of Master -/
namespace InspectionLine

open Supervision

def StationCycle.Capturing (cycle : StationCycle) : Prop :=
  cycle.phase = .captureGoal ∨ cycle.phase = .waitingCaptureResult

namespace Master

variable {m : Master}

/-- The line runs again after a pause. -/
def Resumed (m : Master) : Prop :=
  m.systemState = .runSys ∧ ∃ r ∈ m.transitions.head?, r.transition.previous = .paused

/-- The queue pause has left nothing behind: every capture has its deadline, and the timer fails
it once the deadline has passed, if it does not have to stop the line. -/
structure QueuePauseEnded (m : Master) : Prop where
  flag : m.pausedByQueue = false
  watched : ∀ s cycle, m.line.stationCycles.get? s = some cycle → cycle.Capturing →
    cycle.deadlineNs ≠ 0
  failed : ∀ s cycle around, m.line.stationCycles.get? s = some cycle → cycle.Capturing →
    deadlinePassed cycle.deadlineNs around.nowNs = true →
      (m.next ⟨.checkOperationDeadlines, around⟩).systemState = .faultStop ∨
        Failed s cycle.productId (m.next ⟨.checkOperationDeadlines, around⟩)

theorem queue_released (h : Reachable m) (hclean : ∀ r ∈ m.history.resumeRequests, r.Clean)
    (hstale : ¬Noted m.toSupervision .staleReply)
    (hblocked : ¬Noted m.toSupervision .blockedResume) : QueueReleased m.toSupervision {} := by
  have hreleased : RunLog m.toSupervision ∧
      ((∀ r ∈ m.history.resumeRequests, r.Clean) → ¬Noted m.toSupervision .staleReply →
        ¬Noted m.toSupervision .blockedResume → QueueReleased m.toSupervision {}) := by
    refine reachable_invariant (P := fun v => RunLog v ∧
        ((∀ r ∈ v.history.resumeRequests, r.Clean) → ¬Noted v .staleReply →
          ¬Noted v .blockedResume → QueueReleased v {}))
      (fun config around => ⟨⟨trivial, fun hpending => by cases hpending⟩, fun _ _ _ => ?_⟩)
      (fun v w _ hv hmoves => ⟨run_log_moves (x := (v, {})) hv.1 hmoves, fun hclean hs hb => ?_⟩)
      (fun v operatorId hv _ => ⟨?_, fun hclean hs hb => ?_⟩) h
    · exact released_idle rfl (by simp [initial])
    · refine queue_moves (x := (v, {})) hv.1 (hv.2 (fun r hr => ?_) (fun hn => ?_) fun hn => ?_)
        hmoves hclean hs hb
      · exact hclean r (resume_requests_of_moves hmoves hr)
      · exact hs (noted_of_moves hmoves hn)
      · exact hb (noted_of_moves hmoves hn)
    · exact run_log_confirmed hv.1 operatorId
    · exact (hv.2 hclean hs hb).of_same rfl rfl rfl rfl rfl (List.Subset.refl _) id
  exact hreleased.2 hclean hstale hblocked

theorem run_of_resumed (h : Resumed m) : Resuming m.toSupervision := .inr h

/-- In a run in which every granted resume finds the queue pause over or ends it itself, and all
stations at work watched, the queue pause leaves nothing behind. -/
theorem queue_pause_ends (h : Reachable m) (hresumed : Resumed m)
    (hclean : ∀ r ∈ m.history.resumeRequests, r.Clean)
    (hstale : ¬Noted m.toSupervision .staleReply)
    (hblocked : ¬Noted m.toSupervision .blockedResume) : QueuePauseEnded m := by
  have hover := queue_released h hclean hstale hblocked (run_of_resumed hresumed)
  have hflag : m.pausedByQueue = false := by
    by_contra hset
    have hblocked := hover.flag (Bool.not_eq_false _ ▸ hset)
    cases hblocked
  have hidle : m.pendingRunConfirmation = false :=
    (run_log_of_reachable h).quiet (by simp [hresumed.1]) (by simp [hresumed.1])
  refine ⟨hflag, fun s cycle hcycle hcapturing => ?_,
    fun s cycle around hcycle hcapturing hdue => ?_⟩
  · have hphase : cycle.phase ≠ .resumePending := by
      rcases hcapturing with hp | hp <;> simp [hp]
    exact (hover.deadlines s cycle hcycle hphase).resolve_right List.not_mem_nil
  · have hline : m.line.Occupied := reachable_occupied h
    exact overdue_capture_fails (m := { m with around := around }) (calm_whenStopped stopDepth)
      hline hresumed.1 hidle hflag hcycle hcapturing hdue

def queueReported (state : ℕ) : MasterEvent :=
  called (.queueState (numberedUuid 0) state "batch") 1000

example : (runLine .sim false [commanded 2 2, queueReported 2]).systemState ≠ .runSys := by
  decide +kernel

/-- The operator resumes while Vision's recovery waits for the belts to stop. -/
def leakedRun : List MasterEvent :=
  [commanded 2 2, commanded 3 3, queueReported 2, queueReported 1, commanded 4 4]

theorem queue_pause_leaks : ¬∀ m, Reachable m → Resumed m → QueuePauseEnded m := by
  intro h
  have hrun : (runLine .sim false leakedRun).systemState = .runSys := by decide +kernel
  have hprevious : ((runLine .sim false leakedRun).transitions.head?.map
      (·.transition.previous)) = some .paused := by decide +kernel
  have hflag : (runLine .sim false leakedRun).pausedByQueue = true := by decide +kernel
  obtain ⟨r, hr, hpaused⟩ := Option.map_eq_some_iff.mp hprevious
  have hended := h _ (reachable_runLine .sim false leakedRun) ⟨hrun, r, hr, hpaused⟩
  rw [hended.flag] at hflag
  cases hflag

/-- Vision's queue is full while a capture is under way, for longer than the capture may take.
Then the queue recovers, and the line goes on by itself. -/
def recoveredRun : List MasterEvent :=
  [commanded 2 2, sensed "sensor1" 1, called (.positionSettled (numberedUuid 0) 1) 1000,
    called (.captureGoalResponse .a (numberedUuid 9) (.ok ⟨true, "goal"⟩)) 1000, queueReported 2,
    called .checkOperationDeadlines 40000000000, queueReported 1]

example : ((runLine .sim false (recoveredRun.take 6)).line.stationCycles.get? .a).map
    (·.deadlineNs) = some 0 := by decide +kernel

theorem recovered_run_ends_pause : QueuePauseEnded (runLine .sim false recoveredRun) := by
  have hrun : (runLine .sim false recoveredRun).systemState = .runSys := by decide +kernel
  have hprevious : ((runLine .sim false recoveredRun).transitions.head?.map
      (·.transition.previous)) = some .paused := by decide +kernel
  have hnone : (runLine .sim false recoveredRun).history.lapses = [] := by decide +kernel
  have hautomatic : ∀ r ∈ (runLine .sim false recoveredRun).history.resumeRequests,
      r.automatic = true := by decide +kernel
  have hwatched : ∀ r ∈ (runLine .sim false recoveredRun).history.resumeRequests,
      ∀ s, (r.line.stationCycles.get? s).all fun cycle => cycle.deadlineNs ≠ 0 := by
    decide +kernel
  obtain ⟨r, hr, hpaused⟩ := Option.map_eq_some_iff.mp hprevious
  refine queue_pause_ends (reachable_runLine .sim false recoveredRun) ⟨hrun, r, hr, hpaused⟩
    (fun r hr => ⟨.inl (hautomatic r hr), fun s cycle hcycle _ => ?_⟩) ?_ ?_
  · have hdeadline := hwatched r hr s
    rw [hcycle] at hdeadline
    simpa using hdeadline
  all_goals
    rw [Noted, hnone]
    exact List.not_mem_nil

end Master

end InspectionLine
