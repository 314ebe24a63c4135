import InspectionLine.LineFlow
import InspectionLine.PassSafety

/-! # The failure latch of a product

A failed or conflicted station stays so under every operation but one: the reset of a cycle does
not look at the conflict. -/
namespace InspectionLine

open InputRuns
open Line (Flagged)

namespace ProductContext

def next (c : ProductContext) (op : ContextOp) : ProductContext := (op.apply c).2

/-- A station that was failed or conflicted still is. -/
def Latches (c : ProductContext) (op : ContextOp) : Prop :=
  ∀ s, Flagged (c.station s) → Flagged ((c.next op).station s)

/-- The operation resets a station in which nothing but a conflict is recorded. -/
def ErasesConflict (c : ProductContext) (op : ContextOp) : Prop :=
  ∃ s, op = .resetUnfinishedStationCycle s ∧ (c.station s).conflicted = true ∧
    (c.station s).failed = false ∧ (c.station s).decision = none ∧
      (c.station s).captureSucceeded = false

instance (c : ProductContext) (op : ContextOp) : Decidable (c.ErasesConflict op) := by
  apply op.casesOn (motive := fun o => Decidable (c.ErasesConflict o))
  case resetUnfinishedStationCycle =>
    intro s
    refine decidable_of_iff ((c.station s).conflicted = true ∧ (c.station s).failed = false ∧
      (c.station s).decision = none ∧ (c.station s).captureSucceeded = false) ?_
    constructor
    · exact fun h => ⟨s, rfl, h⟩
    · rintro ⟨t, heq, h⟩
      cases heq
      exact h
  all_goals
    intros
    refine isFalse ?_
    rintro ⟨s, heq, -⟩
    cases heq

theorem next_reset {c : ProductContext} {s : StationId}
    (hcapture : (c.station s).captureSucceeded = false) (hfailed : (c.station s).failed = false)
    (hdecision : (c.station s).decision = none) :
    (c.next (.resetUnfinishedStationCycle s)).station s = { stationId := s } := by
  simp only [next, ContextOp.apply, ContextOp.reply, resetUnfinishedStationCycle, hcapture,
    hfailed, hdecision, Option.isSome_none, Bool.or_self, Bool.false_eq_true, if_false]
  exact station_setStation_self c s _

theorem next_reset_refused {c : ProductContext} {s : StationId}
    (h : (c.station s).captureSucceeded = true ∨ (c.station s).failed = true ∨
      (c.station s).decision ≠ none) : c.next (.resetUnfinishedStationCycle s) = c := by
  have hrefused : ((c.station s).captureSucceeded || (c.station s).failed ||
      (c.station s).decision.isSome) = true := by
    rw [Bool.or_eq_true, Bool.or_eq_true, or_assoc, Option.isSome_iff_ne_none]
    exact h
  simp only [next, ContextOp.apply, ContextOp.reply, resetUnfinishedStationCycle, hrefused, if_true]

theorem latches_iff (c : ProductContext) (op : ContextOp) :
    c.Latches op ↔ ¬ c.ErasesConflict op := by
  constructor
  · rintro hlatch ⟨s, rfl, hconflicted, hfailed, hdecision, hcapture⟩
    have hflagged := hlatch s (.inr hconflicted)
    rw [next_reset hcapture hfailed hdecision] at hflagged
    rcases hflagged with h | h <;> cases h
  · intro hkeeps s hflagged
    by_cases hreset : op = .resetUnfinishedStationCycle s
    · subst hreset
      by_cases hrefused : (c.station s).captureSucceeded = true ∨ (c.station s).failed = true ∨
          (c.station s).decision ≠ none
      · rw [next_reset_refused hrefused]
        exact hflagged
      · simp only [not_or, Bool.not_eq_true, not_not] at hrefused
        obtain ⟨hcapture, hfailed, hdecision⟩ := hrefused
        rcases hflagged with h | h
        · rw [hfailed] at h
          cases h
        · exact absurd ⟨s, rfl, h, hfailed, hdecision, hcapture⟩ hkeeps
    · exact Line.flagged_after (fun h => absurd h hreset) (.inl hflagged)

abbrev LatchedRun : ProductContext → ProductContext → Prop :=
  Execution next fun c op => ¬ c.ErasesConflict op

theorem candidate_verdict_of_flagged {c : ProductContext} {s : StationId}
    (h : Flagged (c.station s)) : c.candidateVerdict.1 ≠ some .pass := by
  unfold candidateVerdict
  cases s with
  | a =>
    have hflag : ((c.station .a).failed || (c.station .a).conflicted) = true :=
      Bool.or_eq_true _ _ ▸ h
    simp [hflag]
  | b =>
    have hflag : ((c.station .b).failed || (c.station .b).conflicted) = true :=
      Bool.or_eq_true _ _ ▸ h
    simp only [hflag, if_true]
    split
    · simp
    · split <;> simp

theorem final_not_passed {c : ProductContext} (h : c.candidateVerdict.1 ≠ some .pass) :
    c.candidateVerdict.1.getD .forcedNg ≠ .pass := by
  cases hcandidate : c.candidateVerdict.1 with
  | none => simp
  | some verdict =>
    rw [hcandidate] at h
    exact fun hpass => h (congrArg some hpass)

/-- What a product with a failed or conflicted station keeps: it is not locked with PASS. -/
structure Condemned (c : ProductContext) : Prop where
  flagged : ∃ s, Flagged (c.station s)
  locked : ∀ product ∈ c.locked, product.verdict ≠ .pass

theorem next_condemned {c : ProductContext} (h : c.Condemned) {op : ContextOp}
    (hkeeps : ¬ c.ErasesConflict op) : (c.next op).Condemned := by
  obtain ⟨s, hs⟩ := h.flagged
  refine ⟨⟨s, (latches_iff c op).mpr hkeeps s hs⟩, ?_⟩
  rcases ContextOp.locked_effect op c with hsame | ⟨e, step, -, -, -, hlocked, -⟩
  · simp only [next, hsame]
    exact h.locked
  · intro product hproduct
    simp only [next, hlocked, Option.mem_some_iff] at hproduct
    rw [← hproduct, lockedProduct]
    exact final_not_passed (candidate_verdict_of_flagged hs)

/-- Failed and conflicted stations are latched but for the erasing resets, and without these no
run locks their product with PASS. -/
theorem failure_latch (c : ProductContext) :
    (∀ op, c.Latches op ↔ ¬ c.ErasesConflict op) ∧
      ∀ d, LatchedRun c d → c.locked = none → (∃ s, Flagged (c.station s)) →
        ∀ product, d.locked = some product → product.verdict ≠ .pass := by
  refine ⟨latches_iff c, fun d hrun hopen hflagged product hproduct => ?_⟩
  have hcondemned : d.Condemned := hrun.invariant (P := Condemned)
    (fun _ op h he => next_condemned h he) ⟨hflagged, by simp [hopen]⟩
  exact hcondemned.locked product hproduct

def condemnedProduct : ProductContext := { productId := "product-1", fifoSequence := 1 }

def condemningOps : List ContextOp := [
  .beginStationCycle .a "position-1" "capture-1",
  .recordStationContractFailure .a "station result payload is invalid or incomplete"]

/-- The product passes both stations after its condemned cycle has been reset. -/
def passingOps : List ContextOp := [
  .resetUnfinishedStationCycle .a, .beginStationCycle .a "position-2" "capture-2",
  .applyStationResult ⟨.a, .pass, 1, "capture-2", "job-2", "batch-2"⟩,
  .promoteCaptureCompletionFromVision .a, .markConveyorResumedAfterCapture .a,
  .acceptSensor2 "sensor2-1" 10, .beginStationCycle .b "position-3" "capture-3",
  .applyStationResult ⟨.b, .pass, 1, "capture-3", "job-3", "batch-3"⟩,
  .promoteCaptureCompletionFromVision .b, .markConveyorResumedAfterCapture .b,
  .lockAtSensor3 "sensor3-1" 20]

instance (i : StationInspection) : Decidable (Flagged i) := by
  unfold Flagged
  infer_instance

/-- A station fails for good, and the product comes to the lock without a reset of it. -/
theorem condemned_product_rejected :
    let d := runTrace next (runTrace next condemnedProduct condemningOps) passingOps.tail
    d.locked.map (·.verdict) = some .forcedNg ∧
      ∀ product, d.locked = some product → product.verdict ≠ .pass :=
  ⟨by decide +kernel, fun product h => (failure_latch _).2 _
    (valid_trace_execution (by decide +kernel)) rfl ⟨.a, .inr rfl⟩ product h⟩

/-- The conflict of a station is reset away, and the product is locked with PASS. -/
theorem conflict_erased_by_reset : (¬ ∀ (c : ProductContext) op, c.Latches op) ∧
    ¬ ∀ (c d : ProductContext), Execution next (fun _ _ => True) c d → c.locked = none →
      (∃ s, Flagged (c.station s)) → ∀ product, d.locked = some product →
        product.verdict ≠ .pass := by
  constructor
  · intro h
    have hflagged := h (runTrace next condemnedProduct condemningOps)
      (.resetUnfinishedStationCycle .a) .a (.inr rfl)
    exact absurd hflagged (by decide +kernel)
  · intro h
    refine h (runTrace next condemnedProduct condemningOps) _
      (valid_trace_execution (valid_trace_of_total _ passingOps)) rfl ⟨.a, .inr rfl⟩
      { productId := "product-1", fifoSequence := 1, verdict := .pass, stationACompleted := true
        stationBCompleted := true, reason := "both station results completed"
        sensor3EventId := "sensor3-1" } ?_ rfl
    decide +kernel

end ProductContext

end InspectionLine
