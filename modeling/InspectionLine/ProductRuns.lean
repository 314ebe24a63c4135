import InspectionLine.SkipPolicy
import InspectionLine.LineClearLatch
import InspectionLine.FaultRuns

/-! # The products of the line in all runs of Master -/
namespace InspectionLine

open Supervision PhysicalLine
open ProductContext (stationWait stationDone)
open ProductPhysicalState (wait_ne_done)

/-! ### The skip of Station B -/

/-- Every product on the line that is bad at Station A and not locked is to skip Station B. -/
def PhysicalLine.BadSkipStationB (L : PhysicalLine) : Prop :=
  ∀ p ∈ L.ledger.active, ∀ c, L.product? p = some c → c.locked = none → c.stationABad = true →
    c.stationBSkipRequested = true

/-! ### Nothing is forgotten -/

namespace Master

variable {m : Master}

/-- In a run in which no skip that is due is left out, the policy skips Station B for all
products that Station A has found bad. -/
theorem bad_products_skip_station_b (h : Reachable m)
    (hkept : ¬Noted m.toSupervision .unskipped)
    (hpolicy : m.config.skipStationBAfterStationANg = true) : m.line.BadSkipStationB := by
  have hskips : SkipsOwed m.config m.line [] := by
    refine reachable_invariant (P := fun v => ¬Noted v .unskipped → SkipsOwed v.config v.line [])
      (fun config around _ _ p c hc => ?_) (fun v w _ hv hmoves hw => ?_)
      (fun v operatorId hv _ hw => hv hw) h hkept
    · cases hc
    · exact skips_moves (x := (v, {})) (hv fun hn => hw (noted_of_moves hmoves hn)) hmoves hw
  intro p hp c hc hlocked hbad
  obtain ⟨e, he, hlive⟩ := m.line.ledger.active_live p hp
  cases he.symm.trans hc
  by_contra hskip
  have hcondemned : c.condemned = true := by
    rw [ProductContext.condemned, hlocked, hbad, (Bool.not_eq_true _).mp hskip]
    rfl
  cases hskips hpolicy p c hc hlive hcondemned

/-- Vision's judgement of the first product at Station A. -/
def judgedAtA (verdict revision : ℕ) : MasterEvent :=
  called (.stationResult {
    sessionId := numberedUuid 0
    facts := {
      productId := "P-11111111-000001", fifoSequence := 1, stationIdRaw := 1
      captureId := numberedUuid 9, frameBatchId := "batch", inferenceJobId := "job"
      resultRevision := revision, verdictRaw := some verdict, score := some 0 } }) 1000

def settledAtA : List MasterEvent :=
  [commanded 2 2, sensed "sensor1" 1, called (.positionSettled (numberedUuid 0) 1) 1000]

example : ((runLine .sim false settledAtA).line.stationCycles.get? .a).isSome = true := by
  decide +kernel

/-- Station A first passes the product and then, in the same revision, does not. -/
def conflictAtA : List MasterEvent := settledAtA ++ [judgedAtA 1 1, judgedAtA 2 1]

theorem conflict_does_not_skip :
    ¬∀ m, Reachable m → m.systemState ≠ .faultStop →
      m.config.skipStationBAfterStationANg = true → m.line.BadSkipStationB := by
  intro h
  have hrunning : (runLine .sim true conflictAtA).systemState = .runSys := by decide +kernel
  have hskips := h _ (reachable_runLine .sim true conflictAtA) (by rw [hrunning]; decide)
    (by decide +kernel)
  have hactive : "P-11111111-000001" ∈ (runLine .sim true conflictAtA).line.ledger.active := by
    decide +kernel
  have hproduct : ((runLine .sim true conflictAtA).line.product? "P-11111111-000001").map
      (fun c => (c.locked, c.stationABad, c.stationBSkipRequested)) =
      some (none, true, false) := by decide +kernel
  obtain ⟨c, hc, hfacts⟩ := Option.map_eq_some_iff.mp hproduct
  have hskip := hskips _ hactive c hc (congrArg Prod.fst hfacts) (congrArg (·.2.1) hfacts)
  rw [show c.stationBSkipRequested = false from congrArg (·.2.2) hfacts] at hskip
  cases hskip

/-- A plain NG at Station A brings the skip. -/
theorem ng_skips_station_b :
    (runLine .sim true (settledAtA ++ [judgedAtA 2 1])).line.BadSkipStationB := by
  refine bad_products_skip_station_b (reachable_runLine .sim true _) ?_ (by decide +kernel)
  have hnone : (runLine .sim true (settledAtA ++ [judgedAtA 2 1])).history.lapses = [] := by
    decide +kernel
  rw [Noted, hnone]
  exact List.not_mem_nil

end Master

end InspectionLine
