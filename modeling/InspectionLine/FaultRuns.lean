import InspectionLine.LineClearLatch
import InspectionLine.FaultFreeze
import InspectionLine.MasterRefinement

/-! # FAULT_STOP in all runs of Master -/
namespace InspectionLine

open Supervision

namespace Master

variable {m : Master}

/-! ### The line-clear latch -/

theorem latch_at_start (config : MasterConfig) (around : Surroundings) :
    LatchHolds (initial config around).toSupervision where
  log := trivial
  policy h := by cases h
  state h := by cases h

theorem reachable_latch (h : Reachable m) :
    ¬Noted m.toSupervision .weakenedLatch → LatchHolds m.toSupervision := by
  refine reachable_invariant (P := fun v => ¬Noted v .weakenedLatch → LatchHolds v)
    (fun config around _ => latch_at_start config around) (fun v w _ hv hmoves hw => ?_)
    (fun v operatorId hv _ hw => ?_) h
  · exact latch_moves (x := (v, {})) (hv fun hn => hw (noted_of_moves hmoves hn)) hmoves hw
  · exact (hv hw).of_same rfl rfl rfl

/-- In a run in which no weaker fault is reported under a latched line clear, the latch holds:
Master leaves FAULT_STOP and RESETTING only by the line clear. -/
theorem line_clear_latch_holds (h : Reachable m)
    (hkept : ¬Noted m.toSupervision .weakenedLatch) : LatchHolds m.toSupervision :=
  reachable_latch h hkept

/-- An invalid position report latches the line clear, an E-stop comes and goes, and a reset is
asked for. -/
def weakenedRun : List MasterEvent :=
  [commanded 2 2, called (.positionSettled (numberedUuid 0) 9) 1000,
    called (.equipmentUpdate { estopAsserted := some true }) 1000,
    called (.equipmentUpdate { estopAsserted := some false }) 1000, commanded 3 5]

example : lineClearLatched (runLine .sim false weakenedRun).transitions = true := by
  decide +kernel

theorem line_clear_latch_downgraded : ¬∀ m, Reachable m → LatchHolds m.toSupervision := by
  intro h
  have hholds := h _ (reachable_runLine .sim false weakenedRun)
  have hlatched : lineClearLatched (runLine .sim false weakenedRun).transitions = true := by
    decide +kernel
  have hpaused : (runLine .sim false weakenedRun).systemState = .paused := by decide +kernel
  rcases hholds.state hlatched with hstate | hstate <;> rw [hpaused] at hstate <;> cases hstate

/-- The latch holds when no weaker fault comes after the invalid report. -/
theorem line_clear_latch_of_one_fault :
    LatchHolds (runLine .sim false (weakenedRun.take 2)).toSupervision := by
  refine line_clear_latch_holds (reachable_runLine .sim false (weakenedRun.take 2)) ?_
  have hnone : (runLine .sim false (weakenedRun.take 2)).history.lapses = [] := by decide +kernel
  rw [Noted, hnone]
  exact List.not_mem_nil

/-! ### The frozen line -/

theorem frozen_at_start (config : MasterConfig) (around : Surroundings) :
    Frozen (initial config around).toSupervision where
  log := trivial
  state h := by cases h
  goals _ h := by cases h

/-- In a run in which no handler goes on with the line after a fault that it has raised itself,
FAULT_STOP freezes the line and no goal is sent in it. -/
theorem fault_stop_freezes (h : Reachable m) (hlate : ∀ l ∈ m.history.lapses, l.late = false) :
    Frozen m.toSupervision := by
  refine reachable_invariant
    (P := fun v => (∀ l ∈ v.history.lapses, l.late = false) → Frozen v)
    (fun config around _ => frozen_at_start config around) (fun v w _ hv hmoves hw => ?_)
    (fun v operatorId hv _ hw => ?_) h hlate
  · exact frozen_moves (x := (v, {})) (hv fun l hl => hw l (noted_of_moves hmoves hl)) hmoves hw
  · exact (hv hw).of_same rfl rfl rfl rfl

def failedCapture (s : StationId) (productId captureId : String) : MasterEvent :=
  called (.captureResult s captureId (.ok {
    success := false, productId, stationId := s.raw, captureId, frameBatchId := ""
    attemptCount := 1, images := [], inferenceJobId := "", reason := "camera failed" })) 1000

/-- One product waits at each station, and both positions are overdue on conveyors that have
left RUNNING. -/
def overdueRun : List MasterEvent :=
  [commanded 2 2, sensed "sensor1" 1, called (.positionSettled (numberedUuid 0) 1) 1000,
    failedCapture .a "P-11111111-000001" (numberedUuid 9), sensed "sensor2" 1,
    sensed "sensor1" 2,
    called (.equipmentUpdate { conveyorRunning := fun _ => some false }) 1000,
    called .checkOperationDeadlines 20000000000]

theorem fault_stop_thawed : ¬∀ m, Reachable m → Frozen m.toSupervision := by
  intro h
  have hfrozen := h _ (reachable_runLine .sim false overdueRun)
  have hstate : (runLine .sim false overdueRun).systemState = .faultStop := by decide +kernel
  have hbefore : (lineAtStop (runLine .sim false overdueRun).transitions).map (fun line =>
      (line.stationCycles.get? .a).map (·.deadlineNs)) = some (some 10000001000) := by
    decide +kernel
  have hafter : ((runLine .sim false overdueRun).line.stationCycles.get? .a).map
      (·.deadlineNs) = some 0 := by decide +kernel
  obtain ⟨atStop, hstop, huntouched⟩ := hfrozen.state hstate
  rw [hstop, Option.map_some, ← huntouched.stationCycles, hafter] at hbefore
  cases hbefore

/-- An E-stop comes while a capture is under way. The capture fails afterwards and is overdue,
and another product arrives. -/
def faultUnderCapture : List MasterEvent :=
  [commanded 2 2, sensed "sensor1" 1, called (.positionSettled (numberedUuid 0) 1) 1000,
    called (.equipmentUpdate { estopAsserted := some true }) 1000,
    failedCapture .a "P-11111111-000001" (numberedUuid 9), sensed "sensor1" 2,
    called .checkOperationDeadlines 40000000000]

example : ((runLine .sim false faultUnderCapture).line.stationCycles.get? .a).isSome = true := by
  decide +kernel

/-- The capture stays as it was when the E-stop came. -/
theorem fault_stop_freezes_capture :
    Frozen (runLine .sim false faultUnderCapture).toSupervision := by
  refine fault_stop_freezes (reachable_runLine .sim false faultUnderCapture) fun l hl => ?_
  have hnone : (runLine .sim false faultUnderCapture).history.lapses = [] := by decide +kernel
  rw [hnone] at hl
  cases hl

end Master

end InspectionLine
