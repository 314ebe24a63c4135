import InspectionLine.FailureLatch

/-! # Results and failures of one capture in any order

The messages of a capture carry the ids of the capture, so the checks of the ids let them pass and
only the revisions and verdicts decide what becomes of a station. -/
namespace InspectionLine

open InputRuns
open Line (Flagged)

structure CaptureIds where
  captureId : String
  frameBatchId : String
  inferenceJobId : String
  deriving DecidableEq, Repr

namespace StationInspection

structure Matches (i : StationInspection) (ids : CaptureIds) : Prop where
  captureId : i.captureId = "" ∨ i.captureId = ids.captureId
  frameBatchId : i.frameBatchId = "" ∨ i.frameBatchId = ids.frameBatchId
  inferenceJobId : i.inferenceJobId = "" ∨ i.inferenceJobId = ids.inferenceJobId

/-- Nothing that still comes in can make the product pass. -/
def Rejected (i : StationInspection) : Prop :=
  Flagged i ∨ ∃ d, i.decision = some d ∧ d.verdict = .ng

end StationInspection

def StationDecision.ids (d : StationDecision) : CaptureIds where
  captureId := d.captureId
  frameBatchId := d.frameBatchId
  inferenceJobId := d.inferenceJobId

/-- Within one capture a result is told by its revision and verdict. -/
theorem StationDecision.eq_of_ids {d e : StationDecision} (hstation : d.stationId = e.stationId)
    (hids : d.ids = e.ids) (hrevision : d.revision = e.revision)
    (hverdict : d.verdict = e.verdict) : d = e := by
  obtain ⟨hcapture, hbatch, hjob⟩ := CaptureIds.mk.inj hids
  cases d
  cases e
  simp_all

def ContextOp.station? : ContextOp → Option StationId
  | .beginStationCycle s .. | .markPositionSettled s _ | .markCaptureRequested s ..
  | .resetUnfinishedStationCycle s | .markCaptureSucceeded s .. | .markCaptureFailed s ..
  | .promoteCaptureCompletionFromVision s | .recordStationFailure s ..
  | .recordStationContractFailure s _ => some s
  | .applyStationResult d => some d.stationId
  | .acceptSensor2 .. | .markStationBSkipped _ | .bypassStationB _ => some .b
  | .recordSensor .. | .markConveyorResumedAfterCapture _ | .requestStationBSkip _
  | .lockAtSensor3 .. | .beginActuation .. | .markActuationAccepted _
  | .markActuationCompleted .. => none

namespace ProductContext

variable {c : ProductContext} {s : StationId}

theorem station_touch (c : ProductContext) (s : StationId) : c.touch.station s = c.station s := rfl

theorem next_other_station (c : ProductContext) {op : ContextOp} (h : op.station? ≠ some s) :
    (c.next op).station s = c.station s := by
  have hset : ∀ t i, t ≠ s → (c.setStation t i).station s = c.station s := fun t i hne =>
    station_setStation_of_ne c i hne.symm
  have hne : ∀ t, op.station? = some t → t ≠ s := fun t ht heq => h (heq ▸ ht)
  cases op with
  | recordSensor k e step =>
    obtain ⟨ids, steps, rev, hrec⟩ := c.record_sensor_frame k e step
    simp only [next, ContextOp.apply, ContextOp.reply, hrec]
    rfl
  | acceptSensor2 e step =>
    obtain ⟨ids, steps, rev, hrec⟩ := c.record_sensor_frame 2 e step
    simp only [next, ContextOp.apply, ContextOp.reply, acceptSensor2]
    split
    · rfl
    · refine Outcome.and_then_frame (R := fun d => d.station s = c.station s) (by rw [hrec]; rfl)
        fun d hd => ?_
      simp only [enterStationB]
      split
      · exact (station_setStation_of_ne d _ (hne .b rfl).symm).trans hd
      · exact hd
  | lockAtSensor3 e step =>
    obtain ⟨ids, steps, rev, hrec⟩ := c.record_sensor_frame 3 e step
    simp only [next, ContextOp.apply, ContextOp.reply, lockAtSensor3]
    repeat' split
    case h_2.isFalse =>
      exact Outcome.and_then_frame (R := fun d => d.station s = c.station s) (by rw [hrec]; rfl)
        fun d hd => hd
    all_goals rfl
  | requestStationBSkip reason =>
    obtain ⟨q, w, rev, hskip⟩ := c.request_skip_frame reason
    simp only [next, ContextOp.apply, ContextOp.reply, hskip]
    rfl
  | markStationBSkipped reason =>
    obtain ⟨q, w, rev, hskip⟩ := c.request_skip_frame reason
    simp only [next, ContextOp.apply, ContextOp.reply, markStationBSkipped, hskip]
    repeat' split
    all_goals first | rfl | exact hset .b _ (hne .b rfl)
  | bypassStationB reason =>
    obtain ⟨q, w, rev, hskip⟩ := c.request_skip_frame reason
    simp only [next, ContextOp.apply, ContextOp.reply, bypassStationB, hskip]
    repeat' split
    all_goals first | rfl | exact hset .b _ (hne .b rfl)
  | applyStationResult d =>
    simp only [next, ContextOp.apply, ContextOp.reply, applyStationResult, storeDecision,
      raiseResultConflict]
    repeat' split
    all_goals first | rfl | exact hset d.stationId _ (hne _ rfl)
  | beginActuation _ _ | markActuationAccepted _ | markActuationCompleted _ _
  | markConveyorResumedAfterCapture _ =>
    simp only [next, ContextOp.apply, ContextOp.reply, beginActuation, markActuationAccepted,
      markActuationCompleted, markConveyorResumedAfterCapture]
    repeat' split
    all_goals rfl
  | beginStationCycle t _ _ | markPositionSettled t _ | markCaptureRequested t _ _
  | resetUnfinishedStationCycle t | markCaptureSucceeded t _ _ _ | markCaptureFailed t _ _
  | promoteCaptureCompletionFromVision t | recordStationFailure t _ _ _ _ _
  | recordStationContractFailure t _ =>
    simp only [next, ContextOp.apply, ContextOp.reply, beginStationCycle, markPositionSettled,
      markCaptureRequested, resetUnfinishedStationCycle, markCaptureSucceeded, markCaptureFailed,
      promoteCaptureCompletionFromVision, recordStationFailure, recordStationContractFailure]
    repeat' split
    all_goals first | rfl | exact hset t _ (hne _ rfl)

theorem next_unlocked {op : ContextOp} (hopen : c.locked = none) (h : op.locks = false) :
    (c.next op).locked = none := by
  rcases ContextOp.locked_effect op c with hsame | ⟨e, step, rfl, -⟩
  · exact hsame.trans hopen
  · cases h

/-- The rules on revisions and verdicts, behind the checks of the ids. -/
theorem matching_result {d : StationDecision} (hmatches : (c.station d.stationId).Matches d.ids)
    (hopen : c.locked = none) : c.applyStationResult d =
      match (c.station d.stationId).decision with
      | none => c.storeDecision d
      | some previous =>
        if d.stationId = .a ∧ previous.verdict = .ng then
          if d.verdict ≠ .ng ∨ d.captureId ≠ previous.captureId ∨
              d.inferenceJobId ≠ previous.inferenceJobId then
            c.raiseResultConflict d.stationId "Station A terminal NG cannot be revised or replaced"
          else (.ok false, c)
        else if d.revision < previous.revision then (.ok false, c)
        else if d.revision = previous.revision then
          if d ≠ previous then
            c.raiseResultConflict d.stationId "same revision has conflicting station results"
          else (.ok false, c)
        else c.storeDecision d := by
  obtain ⟨hcapture, hbatch, hjob⟩ := hmatches
  have hnocapture : ¬ ((c.station d.stationId).captureId ≠ "" ∧
      (c.station d.stationId).captureId ≠ d.captureId) := fun h =>
    hcapture.elim h.1 h.2
  have hnobatch : ¬ ((c.station d.stationId).frameBatchId ≠ "" ∧ d.frameBatchId ≠ "" ∧
      (c.station d.stationId).frameBatchId ≠ d.frameBatchId) := fun h =>
    hbatch.elim h.1 h.2.2
  have hnojob : ¬ ((c.station d.stationId).inferenceJobId ≠ "" ∧
      (c.station d.stationId).inferenceJobId ≠ d.inferenceJobId) := fun h =>
    hjob.elim h.1 h.2
  have hunlocked : ¬ c.locked.isSome = true := by simp [hopen]
  unfold applyStationResult
  rw [if_neg hnocapture, if_neg hnobatch, if_neg hnojob]
  refine (if_neg hunlocked).trans ?_
  cases (c.station d.stationId).decision <;> rfl

theorem stored_decision (c : ProductContext) (d : StationDecision) :
    (c.storeDecision d).2.station d.stationId = { c.station d.stationId with
      decision := some d
      frameBatchId :=
        if d.frameBatchId ≠ "" then d.frameBatchId else (c.station d.stationId).frameBatchId
      inferenceJobId := d.inferenceJobId } := by
  rw [storeDecision, station_touch, station_setStation_self]

theorem stored_matches {d : StationDecision} (h : (c.station d.stationId).Matches d.ids) :
    ((c.storeDecision d).2.station d.stationId).Matches d.ids := by
  rw [stored_decision]
  refine ⟨h.captureId, ?_, .inr rfl⟩
  by_cases hbatch : d.frameBatchId = ""
  · simpa [hbatch] using h.frameBatchId
  · simp [hbatch, StationDecision.ids]

theorem conflict_flags (c : ProductContext) (s : StationId) (message : String) :
    Flagged ((c.raiseResultConflict s message).2.station s) := by
  rw [raiseResultConflict, station_touch, station_setStation_self]
  exact .inr rfl

inductive ResultEffect (c : ProductContext) (d : StationDecision) : ProductContext → Prop where
  | ignored (p : StationDecision) (hprevious : (c.station d.stationId).decision = some p)
      (h : d.stationId = .a ∧ p.verdict = .ng ∨ d.revision < p.revision ∨ d = p) :
      ResultEffect c d c
  | stored (h : ∀ p, (c.station d.stationId).decision = some p →
      p.revision < d.revision ∧ ¬ (d.stationId = .a ∧ p.verdict = .ng)) :
      ResultEffect c d (c.storeDecision d).2
  | conflict (p : StationDecision) (hprevious : (c.station d.stationId).decision = some p)
      (h : d.stationId = .a ∧ p.verdict = .ng ∧ (d.verdict ≠ .ng ∨ d.captureId ≠ p.captureId ∨
        d.inferenceJobId ≠ p.inferenceJobId) ∨ d.revision = p.revision ∧ d ≠ p)
      (message : String) : ResultEffect c d (c.raiseResultConflict d.stationId message).2

theorem result_effect {d : StationDecision} (hmatches : (c.station d.stationId).Matches d.ids)
    (hopen : c.locked = none) : ResultEffect c d (c.next (.applyStationResult d)) := by
  have hnext : c.next (.applyStationResult d) = (c.applyStationResult d).2 := rfl
  rw [hnext, matching_result hmatches hopen]
  cases hprevious : (c.station d.stationId).decision with
  | none => exact .stored (by simp [hprevious])
  | some p =>
    by_cases hterminal : d.stationId = .a ∧ p.verdict = .ng
    · simp only [if_pos hterminal]
      split
      · rename_i hreplaced
        exact .conflict p hprevious (.inl ⟨hterminal.1, hterminal.2, hreplaced⟩) _
      · exact .ignored p hprevious (.inl hterminal)
    · simp only [if_neg hterminal]
      split
      · rename_i hold
        exact .ignored p hprevious (.inr (.inl hold))
      split
      · rename_i hrevision
        split
        · rename_i hdiffers
          exact .conflict p hprevious (.inr ⟨hrevision, hdiffers⟩) _
        · rename_i hsame
          exact .ignored p hprevious (.inr (.inr (not_not.mp hsame)))
      · rename_i hnotold hnotsame
        refine .stored fun q hq => ?_
        obtain rfl := Option.some.inj (hprevious.symm.trans hq)
        exact ⟨by omega, hterminal⟩

end ProductContext

end InspectionLine
