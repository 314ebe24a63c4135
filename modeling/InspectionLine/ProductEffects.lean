import InspectionLine.ProductFlow

/-! # What one product operation can change

The inversion results read off every branch once; invariants of runs use these instead of
the method bodies. -/
namespace InspectionLine

namespace ProductContext

theorem Outcome.and_then_frame {α β : Type} {R : ProductContext → Prop} {r : Outcome α}
    {k : ProductContext → Outcome β} (hr : R r.2) (hk : ∀ d, R d → R (k d).2) :
    R (r.andThen k).2 := by
  rcases r with ⟨_ | _, d⟩
  · exact hr
  · exact hk d hr

/-- A sensor record writes the sensor tables and the revision only. -/
theorem record_sensor_frame (c : ProductContext) (sensorIndex : ℕ) (eventId : String) (step : ℤ) :
    ∃ ids steps revision, (c.recordSensor sensorIndex eventId step).2 =
      { c with sensorEventIds := ids, sensorSteps := steps, revision := revision } := by
  unfold recordSensor
  split
  · split <;> exact ⟨_, _, _, rfl⟩
  · exact ⟨_, _, _, rfl⟩

theorem request_skip_frame (c : ProductContext) (reason : String) :
    ∃ requested skipReason revision, (c.requestStationBSkip reason).2 =
      { c with stationBSkipRequested := requested, stationBSkipReason := skipReason,
               revision := revision } := by
  unfold requestStationBSkip
  split <;> exact ⟨_, _, _, rfl⟩

end ProductContext

namespace ContextOp

open ProductContext (Outcome.and_then_frame setStation station_setStation_self
  station_setStation_of_ne)

theorem SameIdentity.refl (c : ProductContext) : SameIdentity c c := ⟨rfl, rfl, rfl, rfl⟩

theorem apply_same_identity (op : ContextOp) (c : ProductContext) :
    SameIdentity c (op.apply c).2 := by
  cases op with
  | recordSensor k e step =>
    obtain ⟨ids, steps, rev, h⟩ := c.record_sensor_frame k e step
    simp only [apply, reply, h]
    exact ⟨rfl, rfl, rfl, rfl⟩
  | acceptSensor2 e step =>
    obtain ⟨ids, steps, rev, h⟩ := c.record_sensor_frame 2 e step
    simp only [apply, reply, ProductContext.acceptSensor2]
    split
    · exact SameIdentity.refl c
    · refine Outcome.and_then_frame (by rw [h]; exact ⟨rfl, rfl, rfl, rfl⟩) fun d hd => ?_
      simp only [ProductContext.enterStationB]
      split <;> exact ⟨hd.1, hd.2, hd.3, hd.4⟩
  | lockAtSensor3 e step =>
    obtain ⟨ids, steps, rev, h⟩ := c.record_sensor_frame 3 e step
    simp only [apply, reply, ProductContext.lockAtSensor3]
    repeat' split
    case h_2.isFalse =>
      exact Outcome.and_then_frame (by rw [h]; exact ⟨rfl, rfl, rfl, rfl⟩) fun d hd =>
        ⟨hd.1, hd.2, hd.3, hd.4⟩
    all_goals exact SameIdentity.refl c
  | requestStationBSkip reason =>
    obtain ⟨q, w, rev, h⟩ := c.request_skip_frame reason
    simp only [apply, reply, h]
    exact ⟨rfl, rfl, rfl, rfl⟩
  | markStationBSkipped reason =>
    obtain ⟨q, w, rev, h⟩ := c.request_skip_frame reason
    simp only [apply, reply, ProductContext.markStationBSkipped, h]
    (repeat' split) <;> exact ⟨rfl, rfl, rfl, rfl⟩
  | bypassStationB reason =>
    obtain ⟨q, w, rev, h⟩ := c.request_skip_frame reason
    simp only [apply, reply, ProductContext.bypassStationB, h]
    (repeat' split) <;> exact ⟨rfl, rfl, rfl, rfl⟩
  | _ =>
    simp only [apply, reply, ProductContext.beginStationCycle, ProductContext.markPositionSettled,
      ProductContext.markCaptureRequested, ProductContext.resetUnfinishedStationCycle,
      ProductContext.markCaptureSucceeded, ProductContext.markCaptureFailed,
      ProductContext.promoteCaptureCompletionFromVision,
      ProductContext.markConveyorResumedAfterCapture, ProductContext.applyStationResult,
      ProductContext.storeDecision, ProductContext.raiseResultConflict,
      ProductContext.recordStationFailure, ProductContext.recordStationContractFailure,
      ProductContext.beginActuation, ProductContext.markActuationAccepted,
      ProductContext.markActuationCompleted]
    (repeat' split) <;> exact ⟨rfl, rfl, rfl, rfl⟩

/-- The fields the lock and the message checks read stay as they are. -/
structure StationKept (i j : StationInspection) : Prop where
  captureId : j.captureId = i.captureId
  decision : j.decision = i.decision
  failed : j.failed = i.failed
  conflicted : j.conflicted = i.conflicted
  pending : j.processState = .pending → i.processState = .pending

theorem StationKept.refl (i : StationInspection) : StationKept i i := ⟨rfl, rfl, rfl, rfl, id⟩

theorem StationKept.trans {i j k : StationInspection} (h : StationKept i j)
    (g : StationKept j k) : StationKept i k where
  captureId := g.captureId.trans h.captureId
  decision := g.decision.trans h.decision
  failed := g.failed.trans h.failed
  conflicted := g.conflicted.trans h.conflicted
  pending hp := h.pending (g.pending hp)

inductive FailureKind where
  | failure | contractFailure | conflict | captureFailure
  deriving DecidableEq, Repr

def recordedFailure : ContextOp → Except FlowError Reply → Option (StationId × FailureKind)
  | .recordStationFailure s .., .ok (.flag true) => some (s, .failure)
  | .recordStationContractFailure s _, .ok (.flag true) => some (s, .contractFailure)
  | .applyStationResult d, .error (.stationResultConflict _) => some (d.stationId, .conflict)
  | .markCaptureFailed s _ _, .ok _ => some (s, .captureFailure)
  | _, _ => none

inductive StationEffect (op : ContextOp) (r : Except FlowError Reply) (s : StationId)
    (i j : StationInspection) : Prop where
  | kept (h : StationKept i j) (quiet : ∀ k, recordedFailure op r ≠ some (s, k))
  | begun (positionCommandId captureId : String)
      (hop : op = .beginStationCycle s positionCommandId captureId) (ok : r = .ok .none)
      (pending : i.processState = .pending)
      (hj : j = { i with processState := .positioning, positionCommandId, captureId })
  | reset (hop : op = .resetUnfinishedStationCycle s) (undecided : i.decision = none)
      (sound : i.failed = false) (hj : j = { stationId := s })
  | decided (d : StationDecision) (hop : op = .applyStationResult d) (hs : d.stationId = s)
      (ok : r = .ok (.flag true)) (decision : j.decision = some d)
      (captureId : j.captureId = i.captureId) (failed : j.failed = i.failed)
      (conflicted : j.conflicted = i.conflicted) (process : j.processState = i.processState)
  | flagged (k : FailureKind) (hrec : recordedFailure op r = some (s, k))
      (captureId : j.captureId = i.captureId) (decision : j.decision = i.decision)
      (bad : j.failed = true ∨ j.conflicted = true)
      (pending : j.processState = .pending → i.processState = .pending)

/-- An operation that writes one station kept leaves every station kept. -/
theorem kept_of_set_station {c : ProductContext} {s t : StationId} {j : StationInspection}
    (h : StationKept (c.station s) j) :
    StationKept (c.station t) ((c.setStation s j).station t) := by
  by_cases ht : t = s
  · subst ht
    rw [station_setStation_self]
    exact h
  · rw [station_setStation_of_ne c j ht]
    exact .refl _

theorem kept_of_set_other {c : ProductContext} {s t : StationId} {j : StationInspection}
    (h : t ≠ s) : StationKept (c.station t) ((c.setStation s j).station t) := by
  rw [station_setStation_of_ne c j h]
  exact .refl _

theorem store_decision_effect (c : ProductContext) (d : StationDecision) :
    StationEffect (.applyStationResult d) (reply .flag (c.storeDecision d)).1 d.stationId
      (c.station d.stationId) ((reply .flag (c.storeDecision d)).2.station d.stationId) := by
  refine .decided d rfl rfl rfl ?_ ?_ ?_ ?_ ?_
  all_goals simp [reply, ProductContext.storeDecision, ProductContext.touch,
    ProductContext.setStation, ProductContext.station]

theorem result_conflict_effect (c : ProductContext) (d : StationDecision) (message : String) :
    StationEffect (.applyStationResult d)
      (reply .flag (c.raiseResultConflict d.stationId message)).1 d.stationId
      (c.station d.stationId)
      ((reply .flag (c.raiseResultConflict d.stationId message)).2.station d.stationId) := by
  refine .flagged .conflict rfl ?_ ?_ (.inr ?_) ?_
  all_goals simp [reply, ProductContext.raiseResultConflict, ProductContext.touch,
    ProductContext.setStation, ProductContext.station]

theorem apply_station_result_effect (c : ProductContext) (d : StationDecision) :
    StationEffect (.applyStationResult d) ((applyStationResult d).apply c).1 d.stationId
      (c.station d.stationId) (((applyStationResult d).apply c).2.station d.stationId) := by
  simp only [apply, ProductContext.applyStationResult]
  repeat' split
  all_goals first
    | exact store_decision_effect c d
    | exact result_conflict_effect c d _
    | exact .kept (.refl _) (by simp [reply, recordedFailure, Except.map])

theorem station_effect (op : ContextOp) (c : ProductContext) (t : StationId) :
    StationEffect op (op.apply c).1 t (c.station t) ((op.apply c).2.station t) := by
  cases op with
  | recordSensor k e step =>
    obtain ⟨ids, steps, rev, h⟩ := c.record_sensor_frame k e step
    refine .kept ?_ (by simp [recordedFailure])
    simp only [apply, reply, h]
    exact .refl _
  | beginStationCycle s pos cap =>
    simp only [apply, reply, ProductContext.beginStationCycle]
    split
    · exact .kept (.refl _) (by simp [recordedFailure])
    · split
      · exact .kept (.refl _) (by simp [recordedFailure])
      · rename_i hp
        by_cases ht : t = s
        · subst ht
          refine .begun pos cap rfl rfl (not_not.mp hp) ?_
          exact station_setStation_self _ _ _
        · refine .kept ?_ (by simp [recordedFailure])
          exact (station_setStation_of_ne c _ ht) ▸ StationKept.refl _
  | markPositionSettled s pos =>
    refine .kept ?_ (by simp [recordedFailure])
    simp only [apply, reply, ProductContext.markPositionSettled]
    repeat' split
    case isFalse.isFalse.isFalse => exact kept_of_set_station ⟨rfl, rfl, rfl, rfl, by simp⟩
    all_goals exact .refl _
  | markCaptureRequested s cap cmd =>
    refine .kept ?_ (by simp [recordedFailure])
    simp only [apply, reply, ProductContext.markCaptureRequested]
    repeat' split
    all_goals first | exact .refl _ | exact kept_of_set_station ⟨rfl, rfl, rfl, rfl, by simp⟩
  | resetUnfinishedStationCycle s =>
    simp only [apply, reply, ProductContext.resetUnfinishedStationCycle]
    split
    · exact .kept (.refl _) (by simp [recordedFailure])
    · rename_i hg
      by_cases ht : t = s
      · subst ht
        simp only [Bool.or_eq_true, not_or, Bool.not_eq_true, Option.isSome_eq_false_iff,
          Option.isNone_iff_eq_none] at hg
        exact .reset rfl hg.2 hg.1.2 (station_setStation_self _ _ _)
      · refine .kept ?_ (by simp [recordedFailure])
        exact (station_setStation_of_ne c _ ht) ▸ StationKept.refl _
  | markCaptureSucceeded s cap batch job =>
    refine .kept ?_ (by simp [recordedFailure])
    simp only [apply, reply, ProductContext.markCaptureSucceeded]
    repeat' split
    all_goals first | exact .refl _ | exact kept_of_set_station ⟨rfl, rfl, rfl, rfl, by simp⟩
  | markCaptureFailed s cap reason =>
    simp only [apply, reply, ProductContext.markCaptureFailed]
    split
    · exact .kept (.refl _) (by simp [recordedFailure, Except.map])
    · by_cases ht : t = s
      · subst ht
        refine .flagged .captureFailure rfl ?_ ?_ (.inl ?_) ?_
        all_goals simp [ProductContext.touch, ProductContext.setStation, ProductContext.station]
      · refine .kept ?_ (by simp [recordedFailure, Except.map, Ne.symm ht])
        exact kept_of_set_other ht
  | promoteCaptureCompletionFromVision s =>
    refine .kept ?_ (by simp [recordedFailure])
    simp only [apply, reply, ProductContext.promoteCaptureCompletionFromVision]
    split
    · exact .refl _
    · exact kept_of_set_station ⟨rfl, rfl, rfl, rfl, by simp⟩
  | markConveyorResumedAfterCapture s =>
    refine .kept ?_ (by simp [recordedFailure])
    simp only [apply, reply, ProductContext.markConveyorResumedAfterCapture]
    repeat' split
    all_goals exact .refl _
  | acceptSensor2 e step =>
    refine .kept ?_ (by simp [recordedFailure])
    obtain ⟨ids, steps, rev, h⟩ := c.record_sensor_frame 2 e step
    simp only [apply, reply, ProductContext.acceptSensor2]
    split
    · exact .refl _
    · refine Outcome.and_then_frame (R := fun d => StationKept (c.station t) (d.station t))
        (by rw [h]; exact .refl _) fun d hd => hd.trans ?_
      simp only [ProductContext.enterStationB]
      split
      · exact kept_of_set_station ⟨rfl, rfl, rfl, rfl, by simp⟩
      · exact .refl _
  | requestStationBSkip reason =>
    refine .kept ?_ (by simp [recordedFailure])
    obtain ⟨q, w, rev, h⟩ := c.request_skip_frame reason
    simp only [apply, reply, h]
    exact .refl _
  | markStationBSkipped reason =>
    refine .kept ?_ (by simp [recordedFailure])
    obtain ⟨q, w, rev, h⟩ := c.request_skip_frame reason
    simp only [apply, reply, ProductContext.markStationBSkipped, h]
    repeat' split
    all_goals first | exact .refl _ | exact kept_of_set_station ⟨rfl, rfl, rfl, rfl, by simp⟩
  | bypassStationB reason =>
    refine .kept ?_ (by simp [recordedFailure])
    obtain ⟨q, w, rev, h⟩ := c.request_skip_frame reason
    simp only [apply, reply, ProductContext.bypassStationB, h]
    repeat' split
    all_goals first | exact .refl _ | exact kept_of_set_station ⟨rfl, rfl, rfl, rfl, by simp⟩
  | applyStationResult d =>
    by_cases ht : t = d.stationId
    · subst ht
      exact apply_station_result_effect c d
    · refine .kept ?_ ?_
      · simp only [apply, reply, ProductContext.applyStationResult, ProductContext.storeDecision,
          ProductContext.raiseResultConflict]
        repeat' split
        all_goals first | exact .refl _ | exact kept_of_set_other ht
      · have hne : d.stationId ≠ t := Ne.symm ht
        intro k
        simp only [recordedFailure]
        split <;> simp_all
  | recordStationFailure s cap batch job rev reason =>
    simp only [apply, reply, ProductContext.recordStationFailure]
    by_cases ht : t = s
    · subst ht
      repeat' split
      case isFalse.isFalse.isFalse.isFalse.isFalse =>
        refine .flagged .failure rfl ?_ ?_ (.inl ?_) ?_
        all_goals simp [ProductContext.touch, ProductContext.setStation, ProductContext.station]
      all_goals exact .kept (.refl _) (by simp [recordedFailure, Except.map])
    · repeat' split
      case isFalse.isFalse.isFalse.isFalse.isFalse =>
        refine .kept ?_ (by simp [recordedFailure, Except.map, Ne.symm ht])
        exact kept_of_set_other ht
      all_goals exact .kept (.refl _) (by simp [recordedFailure, Except.map])
  | recordStationContractFailure s reason =>
    simp only [apply, reply, ProductContext.recordStationContractFailure]
    split
    · exact .kept (.refl _) (by simp [recordedFailure, Except.map])
    · by_cases ht : t = s
      · subst ht
        refine .flagged .contractFailure rfl ?_ ?_ (.inr ?_) ?_
        all_goals simp [ProductContext.touch, ProductContext.setStation, ProductContext.station]
      · refine .kept ?_ (by simp [recordedFailure, Except.map, Ne.symm ht])
        exact kept_of_set_other ht
  | lockAtSensor3 e step =>
    refine .kept ?_ (by simp [recordedFailure])
    obtain ⟨ids, steps, rev, h⟩ := c.record_sensor_frame 3 e step
    simp only [apply, reply, ProductContext.lockAtSensor3]
    repeat' split
    case h_2.isFalse =>
      exact Outcome.and_then_frame (R := fun d => StationKept (c.station t) (d.station t))
        (by rw [h]; exact .refl _) fun d hd => hd.trans (.refl _)
    all_goals exact .refl _
  | beginActuation _ _ | markActuationAccepted _ | markActuationCompleted _ _ =>
    refine .kept ?_ (by simp [recordedFailure])
    simp only [apply, reply, ProductContext.beginActuation, ProductContext.markActuationAccepted,
      ProductContext.markActuationCompleted]
    repeat' split
    all_goals exact .refl _

/-- The lock is written once, by `lockAtSensor3`, from the stations it leaves unchanged. -/
theorem locked_effect (op : ContextOp) (c : ProductContext) :
    (op.apply c).2.locked = c.locked ∨
      ∃ e step, op = .lockAtSensor3 e step ∧ c.locked = none ∧ c.physicalState = .sensor3Wait ∧
        (op.apply c).2.locked = some (c.lockedProduct e) ∧
        (op.apply c).2.stations = c.stations := by
  cases op with
  | recordSensor k e step =>
    obtain ⟨ids, steps, rev, h⟩ := c.record_sensor_frame k e step
    exact .inl (by simp only [apply, reply, h])
  | acceptSensor2 e step =>
    obtain ⟨ids, steps, rev, h⟩ := c.record_sensor_frame 2 e step
    refine .inl ?_
    simp only [apply, reply, ProductContext.acceptSensor2]
    split
    · rfl
    · refine Outcome.and_then_frame (R := fun d => d.locked = c.locked) (by rw [h])
        fun d hd => ?_
      simp only [ProductContext.enterStationB]
      split <;> exact hd
  | lockAtSensor3 e step =>
    obtain ⟨ids, steps, rev, h⟩ := c.record_sensor_frame 3 e step
    simp only [apply, reply, ProductContext.lockAtSensor3]
    split
    · split <;> exact .inl rfl
    · rename_i hl
      split
      · exact .inl rfl
      · rename_i hs
        rcases hr : c.recordSensor 3 e step with ⟨_ | _, d⟩ <;> rw [hr] at h <;>
          simp only at h <;> subst h
        · exact .inl rfl
        · exact .inr ⟨e, step, rfl, hl, not_not.mp hs, rfl, rfl⟩
  | requestStationBSkip reason =>
    obtain ⟨q, w, rev, h⟩ := c.request_skip_frame reason
    exact .inl (by simp only [apply, reply, h])
  | markStationBSkipped reason =>
    obtain ⟨q, w, rev, h⟩ := c.request_skip_frame reason
    refine .inl ?_
    simp only [apply, reply, ProductContext.markStationBSkipped, h]
    (repeat' split) <;> rfl
  | bypassStationB reason =>
    obtain ⟨q, w, rev, h⟩ := c.request_skip_frame reason
    refine .inl ?_
    simp only [apply, reply, ProductContext.bypassStationB, h]
    (repeat' split) <;> rfl
  | _ =>
    refine .inl ?_
    simp only [apply, reply, ProductContext.beginStationCycle, ProductContext.markPositionSettled,
      ProductContext.markCaptureRequested, ProductContext.resetUnfinishedStationCycle,
      ProductContext.markCaptureSucceeded, ProductContext.markCaptureFailed,
      ProductContext.promoteCaptureCompletionFromVision,
      ProductContext.markConveyorResumedAfterCapture, ProductContext.applyStationResult,
      ProductContext.storeDecision, ProductContext.raiseResultConflict,
      ProductContext.recordStationFailure, ProductContext.recordStationContractFailure,
      ProductContext.beginActuation, ProductContext.markActuationAccepted,
      ProductContext.markActuationCompleted]
    (repeat' split) <;> rfl

end ContextOp

end InspectionLine
