import InspectionLine.ProductLedger
import Mathlib.Data.Rat.Defs

/-! # Judging station results and failures against the ledger

The judgement reads the ledger and never writes it. The handler applies what it decided. -/
namespace InspectionLine

inductive StationMessageOutcome where
  | invalidStationId | expiredProduct | captureOwnerConflict | unknownProduct
  | unregisteredCapture | removedProduct | supersededCapture | lateAfterLock
  | contractIncomplete | accepted
  deriving DecidableEq, Repr

inductive StationContractDefect where
  | none | scoreNotFinite | payloadIncomplete
  deriving DecidableEq, Repr

/-- A score that is not finite is already `none` when it gets here. -/
structure StationMessageFacts where
  productId : String
  fifoSequence : ℕ
  stationIdRaw : ℕ
  captureId : String
  frameBatchId : String
  inferenceJobId : String
  resultRevision : ℕ
  verdictRaw : Option ℕ := none
  score : Option ℚ := none
  deriving DecidableEq

structure StationMessageDecision where
  outcome : StationMessageOutcome
  stationId : Option StationId := none
  context : Option ProductContext := none
  verdict : Option Verdict := none
  activeCaptureId : String := ""
  defect : StationContractDefect := .none

def contractDefect (facts : StationMessageFacts) (expectsVerdict : Bool)
    (verdict : Option Verdict) : StationContractDefect :=
  if expectsVerdict ∧ facts.score = none then .scoreNotFinite
  else if (expectsVerdict ∧ verdict = none) ∨ facts.resultRevision < 1 ∨
      facts.frameBatchId = "" ∨ facts.inferenceJobId = "" then .payloadIncomplete
  else .none

def classifyStationMessage (ledger : ProductLedger) (facts : StationMessageFacts)
    (expectsVerdict : Bool) : StationMessageDecision :=
  match StationId.ofRaw? facts.stationIdRaw with
  | none => { outcome := .invalidStationId }
  | some stationId =>
    let verdict : Option Verdict :=
      if expectsVerdict then facts.verdictRaw.bind Verdict.ofRaw? else none
    match ledger.get facts.productId facts.fifoSequence with
    | none =>
      if ledger.isRetiredProduct facts.productId facts.fifoSequence ||
          ledger.isRetiredCapture facts.captureId then
        { outcome := .expiredProduct, stationId := stationId }
      else if (ledger.captureOwner facts.captureId).isSome then
        { outcome := .captureOwnerConflict, stationId := stationId }
      else { outcome := .unknownProduct, stationId := stationId }
    | some context =>
      let activeCaptureId := (context.station stationId).captureId
      if ledger.captureOwner facts.captureId ≠ some (context.productId, stationId) then
        { outcome := .unregisteredCapture, stationId := stationId, context := context }
      else if context.removed then
        { outcome := .removedProduct, stationId := stationId, context := context }
      else if activeCaptureId ≠ facts.captureId then
        { outcome := .supersededCapture, stationId := stationId, context := context,
          activeCaptureId := activeCaptureId }
      else if context.locked.isSome then
        { outcome := .lateAfterLock, stationId := stationId, context := context }
      else
        let defect := contractDefect facts expectsVerdict verdict
        if defect ≠ .none then
          { outcome := .contractIncomplete, stationId := stationId, context := context,
            defect := defect }
        else
          { outcome := .accepted, stationId := stationId, context := context, verdict := verdict }

def StationMessageFacts.decision (facts : StationMessageFacts) (stationId : StationId)
    (verdict : Verdict) : StationDecision where
  stationId := stationId
  verdict := verdict
  revision := facts.resultRevision
  captureId := facts.captureId
  inferenceJobId := facts.inferenceJobId
  frameBatchId := facts.frameBatchId

/-- The operation the result handler runs on the product, if any. -/
def stationResultOp (ledger : ProductLedger) (facts : StationMessageFacts) : Option ContextOp :=
  let judged := classifyStationMessage ledger facts true
  match judged.outcome, judged.stationId, judged.verdict with
  | .contractIncomplete, some stationId, _ =>
    some (.recordStationContractFailure stationId
      (if judged.defect = .scoreNotFinite then "station result score must be finite"
        else "station result payload is invalid or incomplete"))
  | .accepted, some stationId, some verdict =>
    some (.applyStationResult (facts.decision stationId verdict))
  | _, _, _ => none

/-- The operation the failure handler runs on the product, if any. -/
def stationFailureOp (ledger : ProductLedger) (facts : StationMessageFacts) (reason : String) :
    Option ContextOp :=
  let judged := classifyStationMessage ledger facts false
  match judged.outcome, judged.stationId with
  | .contractIncomplete, some stationId =>
    some (.recordStationContractFailure stationId "station failure payload is incomplete")
  | .accepted, some stationId =>
    some (.recordStationFailure stationId facts.captureId facts.frameBatchId facts.inferenceJobId
      facts.resultRevision reason)
  | _, _ => none

/-- The outcomes on which the receiving handlers stop the line. -/
def StationMessageOutcome.Fatal : StationMessageOutcome → Prop
  | .unknownProduct | .captureOwnerConflict | .unregisteredCapture => True
  | _ => False

instance : DecidablePred StationMessageOutcome.Fatal := fun o => by
  cases o <;> simp only [StationMessageOutcome.Fatal] <;> infer_instance

theorem get_eq_some {L : ProductLedger} {p : String} {f : ℕ} {c : ProductContext} :
    L.get p f = some c ↔ L.byId.get? p = some c ∧ c.fifoSequence = f := by
  simp [ProductLedger.get, Option.filter_eq_some_iff]

/-- A message that is accepted, or rejected only for its payload, is about the running
capture of a product that is not locked. -/
theorem classify_live {L : ProductLedger} {facts : StationMessageFacts} {expectsVerdict : Bool}
    (h : (classifyStationMessage L facts expectsVerdict).outcome = .accepted ∨
      (classifyStationMessage L facts expectsVerdict).outcome = .contractIncomplete) :
    ∃ s c, StationId.ofRaw? facts.stationIdRaw = some s ∧
      (classifyStationMessage L facts expectsVerdict).stationId = some s ∧
      (classifyStationMessage L facts expectsVerdict).context = some c ∧
      L.byId.get? facts.productId = some c ∧ c.fifoSequence = facts.fifoSequence ∧
      L.captureOwner facts.captureId = some (facts.productId, s) ∧ c.removed = false ∧
      (c.station s).captureId = facts.captureId ∧ c.locked = none := by
  unfold classifyStationMessage at h ⊢
  cases hs : StationId.ofRaw? facts.stationIdRaw with
  | none => simp [hs] at h
  | some s =>
    simp only [hs] at h ⊢
    cases hc : L.get facts.productId facts.fifoSequence with
    | none =>
      simp only [hc] at h
      split at h
      · simp at h
      · split at h <;> simp at h
    | some c =>
      simp only [hc] at h ⊢
      obtain ⟨hget, hfifo⟩ := get_eq_some.mp hc
      have hid := (L.identified _ c hget).1
      split_ifs at h ⊢ with howner hremoved hactive hlocked
      all_goals simp at h
      all_goals
        simp only [ne_eq, not_not, Bool.not_eq_true, Option.isSome_eq_false_iff,
          Option.isNone_iff_eq_none] at howner hremoved hactive hlocked
        exact ⟨s, c, rfl, rfl, rfl, hget, hfifo, hid ▸ howner, hremoved, hactive, hlocked⟩

theorem station_result_op_live {L : ProductLedger} {facts : StationMessageFacts} {op : ContextOp}
    (h : stationResultOp L facts = some op) :
    (∃ s reason, op = .recordStationContractFailure s reason) ∨
      ∃ s c v, op = .applyStationResult (facts.decision s v) ∧
        L.byId.get? facts.productId = some c ∧
        L.captureOwner facts.captureId = some (facts.productId, s) ∧
        (c.station s).captureId = facts.captureId := by
  simp only [stationResultOp] at h
  split at h
  · exact .inl ⟨_, _, (Option.some.inj h).symm⟩
  · rename_i houtcome hstation hverdict
    obtain ⟨s, c, _, hs, _, hc, _, howner, _, hactive, _⟩ := classify_live (.inl houtcome)
    rw [hs] at hstation
    cases hstation
    exact .inr ⟨_, c, _, (Option.some.inj h).symm, hc, howner, hactive⟩
  · cases h

theorem station_failure_op_cases {L : ProductLedger} {facts : StationMessageFacts}
    {reason : String} {op : ContextOp} (h : stationFailureOp L facts reason = some op) :
    (∃ s text, op = .recordStationContractFailure s text) ∨
      ∃ s, op = .recordStationFailure s facts.captureId facts.frameBatchId facts.inferenceJobId
        facts.resultRevision reason := by
  simp only [stationFailureOp] at h
  split at h
  · exact .inl ⟨_, _, (Option.some.inj h).symm⟩
  · exact .inr ⟨_, (Option.some.inj h).symm⟩
  · cases h

end InspectionLine
