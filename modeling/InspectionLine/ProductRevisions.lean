import InspectionLine.LedgerRuns
import InspectionLine.ProductMoves
import InspectionLine.VersionStamps

/-! # The revision of a product

A call that is refused leaves the product as it was, and a call that changes it moves its
revision on. The snapshots that are logged are therefore ordered by their revisions. -/
namespace InspectionLine

open VersionStamps

/-- The dictionary over the two stations that a snapshot shows. -/
def byStation {α : Type} (value : StationId → α) : List (String × α) :=
  [StationId.a, .b].map fun s => (s.name, value s)

/-- The stations with a text, as the snapshot lists them. -/
def givenTexts (text : StationId → String) : List (String × String) :=
  (byStation text).filter fun entry => entry.2 ≠ ""

structure ProductSnapshot where
  productId : String
  fifoSequence : ℕ
  physicalState : String
  physicalZone : String
  revision : ℕ
  sensorEventIds : OrderedDict ℕ String
  captureIds : List (String × String)
  stationProcessStates : List (String × String)
  frameBatchIds : List (String × String)
  inferenceJobIds : List (String × String)
  stationResults : List (String × Option String)
  stationFailureReasons : List (String × String)
  stationSkipReasons : List (String × String)
  stationBSkipRequested : Bool
  finalVerdict : String
  lockReason : String
  actuatorJobId : String
  actuationId : String
  completed : Bool
  removed : Bool
  removedMonotonicNs : ℤ

def ProductContext.snapshot (c : ProductContext) : ProductSnapshot where
  productId := c.productId
  fifoSequence := c.fifoSequence
  physicalState := c.physicalState.name
  physicalZone := c.physicalZone.name
  revision := c.revision
  sensorEventIds := c.sensorEventIds
  captureIds := byStation fun s => (c.stations s).captureId
  stationProcessStates := byStation fun s => (c.stations s).processState.value
  frameBatchIds := byStation fun s => (c.stations s).frameBatchId
  inferenceJobIds := byStation fun s => (c.stations s).inferenceJobId
  stationResults := byStation fun s => (c.stations s).decision.map (·.verdict.name)
  stationFailureReasons := givenTexts fun s => (c.stations s).failureReason
  stationSkipReasons := givenTexts fun s => (c.stations s).skippedReason
  stationBSkipRequested := c.stationBSkipRequested
  finalVerdict := c.locked.elim "PENDING" (·.verdict.name)
  lockReason := c.locked.elim "" (·.reason)
  actuatorJobId := c.actuatorJobId
  actuationId := c.actuationId
  completed := c.completed
  removed := c.removed
  removedMonotonicNs := c.removedMonotonicNs

namespace ProductContext

/-! ### Refused calls -/

/-- What a refused call may leave behind: nothing, or the mark of a conflict. -/
def TraceOf (op : ContextOp) (e : FlowError) (c d : ProductContext) : Prop :=
  match e with
  | .stationResultConflict message => ∃ decision, op = .applyStationResult decision ∧
      d = { c with
        stations := Function.update c.stations decision.stationId
          { c.stations decision.stationId with conflicted := true, failureReason := message }
        revision := c.revision + 1 }
  | _ => d = c

theorem trace_of_result_conflict (c : ProductContext) {decision : StationDecision}
    {message : String} {e : FlowError}
    (h : (ContextOp.reply .flag (c.raiseResultConflict decision.stationId message)).1 = .error e) :
    TraceOf (.applyStationResult decision) e c
      (ContextOp.reply .flag (c.raiseResultConflict decision.stationId message)).2 := by
  cases h
  exact ⟨decision, rfl, rfl⟩

theorem trace_of_identity_conflict {op : ContextOp} {c : ProductContext} {message : String}
    {e : FlowError} (h : Except.error (FlowError.productIdentityConflict message) =
      (Except.error e : Except FlowError Reply)) : TraceOf op e c c := by
  cases h
  rfl

theorem apply_station_result_refused {c : ProductContext} {decision : StationDecision}
    {e : FlowError} (h : ((ContextOp.applyStationResult decision).apply c).1 = .error e) :
    TraceOf (.applyStationResult decision) e c
      ((ContextOp.applyStationResult decision).apply c).2 := by
  simp only [ContextOp.apply, applyStationResult] at h ⊢
  revert h
  repeat' split
  all_goals intro h
  all_goals first
    | exact trace_of_identity_conflict h
    | exact trace_of_result_conflict c h
    | cases h

theorem record_sensor_error {c : ProductContext} {k : ℕ} {eventId : String} {step : ℤ}
    {e : FlowError} (h : (c.recordSensor k eventId step).1 = .error e) :
    ∃ message, e = .productIdentityConflict message := by
  unfold recordSensor at h
  split at h
  · split at h
    · cases h
      exact ⟨_, rfl⟩
    · cases h
  · cases h

theorem Outcome.and_then_error {α β : Type} {r : Outcome α} {k : ProductContext → Outcome β}
    {e : FlowError} (h : (r.andThen k).1 = .error e) :
    r.1 = .error e ∨ (k r.2).1 = .error e := by
  rcases r with ⟨_ | _, d⟩
  · cases h
    exact .inl rfl
  · exact .inr h

theorem reply_error {α : Type} {wrap : α → Reply} {r : Outcome α} {e : FlowError}
    (h : (ContextOp.reply wrap r).1 = .error e) : r.1 = .error e := by
  rcases r with ⟨f | v, d⟩
  · cases h
    rfl
  · cases h

theorem conflict_applies_result {op : ContextOp} {c : ProductContext} {message : String}
    (h : (op.apply c).1 = .error (.stationResultConflict message)) :
    ∃ decision, op = .applyStationResult decision := by
  have hrecord : ∀ k eventId step, (c.recordSensor k eventId step).1 ≠
      .error (.stationResultConflict message) := by
    intro k eventId step hr
    obtain ⟨_, he⟩ := record_sensor_error hr
    cases he
  cases op with
  | applyStationResult decision => exact ⟨decision, rfl⟩
  | recordSensor k eventId step => exact absurd (reply_error h) (hrecord k eventId step)
  | acceptSensor2 eventId step =>
    have hraised := reply_error h
    unfold acceptSensor2 at hraised
    split at hraised
    · cases hraised
    · rcases Outcome.and_then_error hraised with hr | hr
      · exact absurd hr (hrecord 2 eventId step)
      · cases hr
  | lockAtSensor3 eventId step =>
    have hraised := reply_error h
    unfold lockAtSensor3 at hraised
    split at hraised
    · split at hraised <;> cases hraised
    · split at hraised
      · cases hraised
      · rcases Outcome.and_then_error hraised with hr | hr
        · exact absurd hr (hrecord 3 eventId step)
        · cases hr
  | _ =>
    have hraised := reply_error h
    simp only [beginStationCycle, markPositionSettled, markCaptureRequested,
      resetUnfinishedStationCycle, markCaptureSucceeded, markCaptureFailed,
      promoteCaptureCompletionFromVision, markConveyorResumedAfterCapture, requestStationBSkip,
      markStationBSkipped, bypassStationB, recordStationFailure, recordStationContractFailure,
      beginActuation, markActuationAccepted, markActuationCompleted] at hraised
    (repeat' split at hraised) <;> cases hraised

end ProductContext

/-- Every raise of a product operation comes before its writes, but for the conflict of two
station results, which marks the station. -/
theorem refused_operation_leaves_no_trace {op : ContextOp} {c : ProductContext} {e : FlowError}
    (h : (op.apply c).1 = .error e) : ProductContext.TraceOf op e c (op.apply c).2 := by
  by_cases hop : ∃ decision, op = .applyStationResult decision
  · obtain ⟨decision, rfl⟩ := hop
    exact ProductContext.apply_station_result_refused h
  · have hsame : (op.apply c).2 = c :=
      ContextOp.raised_unchanged h fun decision he => hop ⟨decision, he⟩
    cases e with
    | stationResultConflict message => exact absurd (ProductContext.conflict_applies_result h) hop
    | _ => exact hsame

/-- A product before Sensor3 with the event of that sensor on record. -/
def reportedProduct : ProductContext where
  productId := "product-1"
  fifoSequence := 1
  physicalState := .sensor3Wait
  sensorEventIds := .insert .empty 3 "event-1"

def firstDecision : StationDecision where
  stationId := .a
  verdict := .pass
  revision := 1
  captureId := ""
  inferenceJobId := ""

/-- Another event of the sensor, and another verdict of the same revision. -/
theorem lock_and_result_refused :
    ProductContext.TraceOf (.lockAtSensor3 "event-2" 40)
      (.productIdentityConflict "Sensor3 already belongs to another event") reportedProduct
      ((ContextOp.lockAtSensor3 "event-2" 40).apply reportedProduct).2 ∧
    ProductContext.TraceOf (.applyStationResult { firstDecision with verdict := .ng })
      (.stationResultConflict "same revision has conflicting station results")
      (reportedProduct.setStation .a { stationId := .a, decision := some firstDecision })
      ((ContextOp.applyStationResult { firstDecision with verdict := .ng }).apply
        (reportedProduct.setStation .a { stationId := .a, decision := some firstDecision })).2 :=
  ⟨refused_operation_leaves_no_trace rfl, refused_operation_leaves_no_trace rfl⟩

/-! ### The revision -/

namespace ProductContext

/-- Nothing has been written, or the revision has moved on. -/
def Advanced (c d : ProductContext) : Prop := d = c ∨ c.revision < d.revision

theorem Advanced.le {c d : ProductContext} (h : Advanced c d) : c.revision ≤ d.revision := by
  rcases h with rfl | h
  · exact le_refl _
  · exact h.le

theorem advanced_touch {c d : ProductContext} (h : c.revision ≤ d.revision) :
    Advanced c d.touch := .inr (Nat.lt_succ_of_le h)

theorem Advanced.stamped {c d : ProductContext} (h : Advanced c d) :
    Stamped revision snapshot c d := by
  rcases h with rfl | h
  · exact .refl _
  · exact .of_lt h

theorem record_sensor_advanced (c : ProductContext) (k : ℕ) (eventId : String) (step : ℤ) :
    Advanced c (c.recordSensor k eventId step).2 := by
  unfold recordSensor
  split
  · split <;> exact .inl rfl
  · exact advanced_touch (le_refl c.revision)

theorem request_skip_advanced (c : ProductContext) (reason : String) :
    Advanced c (c.requestStationBSkip reason).2 := by
  unfold requestStationBSkip
  split
  · exact .inl rfl
  · exact advanced_touch (le_refl c.revision)

theorem enter_station_b_advanced {c d : ProductContext} (h : Advanced c d) :
    Advanced c d.enterStationB := by
  unfold enterStationB
  split <;> exact advanced_touch h.le

/-- Every writer of the context moves its revision on, and the calls that write nothing leave
the whole context alone. -/
theorem apply_advanced (c : ProductContext) (op : ContextOp) : Advanced c (op.apply c).2 := by
  cases op with
  | recordSensor k eventId step => exact c.record_sensor_advanced k eventId step
  | acceptSensor2 eventId step =>
    simp only [ContextOp.apply, ContextOp.reply, acceptSensor2]
    split
    · exact .inl rfl
    · exact Outcome.and_then_frame (c.record_sensor_advanced 2 eventId step)
        fun d hd => enter_station_b_advanced hd
  | lockAtSensor3 eventId step =>
    simp only [ContextOp.apply, ContextOp.reply, lockAtSensor3]
    split
    · split <;> exact .inl rfl
    · split
      · exact .inl rfl
      · exact Outcome.and_then_frame (c.record_sensor_advanced 3 eventId step)
          fun d hd => advanced_touch hd.le
  | requestStationBSkip reason => exact c.request_skip_advanced reason
  | markStationBSkipped reason =>
    simp only [ContextOp.apply, ContextOp.reply, markStationBSkipped]
    split
    · exact .inl rfl
    · split
      · exact .inl rfl
      · exact advanced_touch (c.request_skip_advanced reason).le
  | bypassStationB reason =>
    simp only [ContextOp.apply, ContextOp.reply, bypassStationB]
    split
    · exact .inl rfl
    · split
      · exact .inl rfl
      · exact advanced_touch (c.request_skip_advanced reason).le
  | _ =>
    simp only [ContextOp.apply, ContextOp.reply, beginStationCycle, markPositionSettled,
      markCaptureRequested, resetUnfinishedStationCycle, markCaptureSucceeded, markCaptureFailed,
      promoteCaptureCompletionFromVision, markConveyorResumedAfterCapture, applyStationResult,
      storeDecision, raiseResultConflict, recordStationFailure, recordStationContractFailure,
      beginActuation, markActuationAccepted, markActuationCompleted]
    (repeat' split) <;> first | exact .inl rfl | exact advanced_touch (le_refl c.revision)

/-- The writers of one product: its methods, and the removal from the FIFO. -/
inductive Change where
  | operate (op : ContextOp)
  | remove (nowNs : ℤ)

def changed (c : ProductContext) : Change → ProductContext
  | .operate op => (op.apply c).2
  | .remove nowNs => ProductLedger.markRemoved nowNs c

theorem changed_advanced (c : ProductContext) (change : Change) :
    Advanced c (c.changed change) := by
  cases change with
  | operate op => exact c.apply_advanced op
  | remove nowNs => exact advanced_touch (le_refl c.revision)

def after (c : ProductContext) (changes : List Change) : ProductContext :=
  InputRuns.runTrace changed c changes

theorem changes_stamped (c : ProductContext) (changes : List Change) :
    Stamped revision snapshot c (c.after changes) :=
  stamped_of_execution (fun d change _ => (d.changed_advanced change).stamped)
    (InputRuns.valid_trace_execution (InputRuns.valid_trace_of_total c changes))

end ProductContext

namespace LedgerHistory

open ProductLedger ProductContext

variable {h : LedgerHistory} {p : String} {f : ℕ} {c d : ProductContext}

theorem get_eq_some {L : ProductLedger} :
    L.get p f = some c ↔ L.byId.get? p = some c ∧ c.fifoSequence = f := by
  unfold ProductLedger.get
  rw [Option.filter_eq_some_iff, decide_eq_true_eq]

theorem last_sequence_next (h : LedgerHistory) (call : LedgerCall) :
    h.ledger.lastSequence ≤ (h.next call).ledger.lastSequence := by
  cases call with
  | register q g =>
    rcases h.ledger.register_cases q g with hL | ⟨_, hfifo, hL⟩ <;> simp only [next, hL]
    · exact le_refl _
    · exact hfifo.le
  | registerCapture captureId q s =>
    simp only [next, registerCapture]
    (repeat' split) <;> exact le_refl _
  | operate q op => exact (lastSequence_operate h.ledger q op).ge
  | removeCompletedPrefix nowNs => exact le_refl _
  | clearActive nowNs => exact le_refl _
  | pruneRemoved cutoffNs => exact (lastSequence_prune h.ledger cutoffNs).ge

theorem advanced_deactivate {L : ProductLedger} {nowNs : ℤ} {gone keep : List String}
    (hsplit : gone ++ keep = L.active)
    (hd : (L.deactivate nowNs gone keep hsplit).get p f = some d) :
    ∃ c, L.get p f = some c ∧ Advanced c d := by
  obtain ⟨hget, hnum⟩ := get_eq_some.mp hd
  rw [get?_deactivate] at hget
  split at hget
  · obtain ⟨c, hc, rfl⟩ := Option.map_eq_some_iff.mp hget
    exact ⟨c, get_eq_some.mpr ⟨hc, hnum⟩, advanced_touch (le_refl c.revision)⟩
  · exact ⟨d, get_eq_some.mpr ⟨hget, hnum⟩, .inl rfl⟩

/-- A call finds the product it leaves, and has moved its revision on if it wrote to it. A
number is not given a second time, so the product is the same one. -/
theorem advanced_next {call : LedgerCall} (hf : f ≤ h.ledger.lastSequence)
    (hd : (h.next call).ledger.get p f = some d) :
    ∃ c, h.ledger.get p f = some c ∧ Advanced c d := by
  cases call with
  | register q g =>
    simp only [next] at hd
    rcases h.ledger.register_cases q g with hL | ⟨_, hfifo, hL⟩ <;> rw [hL] at hd
    · exact ⟨d, hd, .inl rfl⟩
    · obtain ⟨hget, hnum⟩ := get_eq_some.mp hd
      change (h.ledger.byId.insert q { productId := q, fifoSequence := g }).get? p = some d at hget
      rw [OrderedDict.get?_insert] at hget
      split at hget
      · cases hget
        exact absurd (hf.trans_lt hfifo) (hnum ▸ lt_irrefl _)
      · exact ⟨d, get_eq_some.mpr ⟨hget, hnum⟩, .inl rfl⟩
  | registerCapture captureId q s =>
    refine ⟨d, ?_, .inl rfl⟩
    simp only [next, registerCapture] at hd
    revert hd
    (repeat' split) <;> exact id
  | operate q op =>
    obtain ⟨hget, hnum⟩ := get_eq_some.mp hd
    simp only [next, get?_operate] at hget
    split at hget
    · obtain ⟨c, hc, rfl⟩ := Option.map_eq_some_iff.mp hget
      have hsame := (op.apply_same_identity c).fifoSequence
      exact ⟨c, get_eq_some.mpr ⟨hc, hsame ▸ hnum⟩, c.apply_advanced op⟩
    · exact ⟨d, get_eq_some.mpr ⟨hget, hnum⟩, .inl rfl⟩
  | removeCompletedPrefix nowNs => exact advanced_deactivate List.takeWhile_append_dropWhile hd
  | clearActive nowNs => exact advanced_deactivate (List.append_nil _) hd
  | pruneRemoved cutoffNs =>
    obtain ⟨hget, hnum⟩ := get_eq_some.mp hd
    exact ⟨d, get_eq_some.mpr ⟨(prune_removed_retains h.ledger cutoffNs).context p d hget, hnum⟩,
      .inl rfl⟩

/-- From a product on, whatever is retained under its id and number is stamped against it. -/
theorem stamped_run {g : LedgerHistory} (hc : h.ledger.get p f = some c)
    (hrun : InputRuns.Execution next (fun _ _ => True) h g)
    (hd : g.ledger.get p f = some d) : Stamped revision snapshot c d := by
  have hnumber : f ≤ h.ledger.lastSequence := by
    obtain ⟨hget, hnum⟩ := get_eq_some.mp hc
    exact hnum ▸ (h.ledger.identified p c hget).2.2.1
  have hinv := hrun.invariant
    (P := fun s => f ≤ s.ledger.lastSequence ∧
      ∀ e, s.ledger.get p f = some e → Stamped revision snapshot c e)
    (fun s call hs _ => ⟨hs.1.trans (last_sequence_next s call), fun e he => by
      obtain ⟨b, hb, hadv⟩ := advanced_next hs.1 he
      exact (hs.2 b hb).trans hadv.stamped⟩)
    ⟨hnumber, fun e he => by
      cases hc.symm.trans he
      exact .refl c⟩
  exact hinv.2 d hd

end LedgerHistory

/-- The revision orders the snapshots of a product. -/
structure SnapshotOrder (c d : ProductContext) : Prop where
  revision_le : c.revision ≤ d.revision
  revision_lt : c.snapshot ≠ d.snapshot → c.revision < d.revision
  same_snapshot : c.revision = d.revision → c.snapshot = d.snapshot

theorem snapshot_order_of_stamped {c d : ProductContext}
    (h : Stamped ProductContext.revision ProductContext.snapshot c d) : SnapshotOrder c d :=
  ⟨h.stamp_le, h.stamp_lt, h.same_view⟩

/-- Along every run of the ledger, and for as long as the object is used after it has been
pruned. -/
theorem revision_stamps_snapshot (before after : List LedgerCall)
    (changes later : List ProductContext.Change) {p : String} {f : ℕ} {c d : ProductContext}
    (hc : (LedgerHistory.run before).ledger.get p f = some c)
    (hd : (LedgerHistory.run (before ++ after)).ledger.get p f = some d) :
    SnapshotOrder c d ∧ SnapshotOrder c (d.after changes) ∧
      SnapshotOrder (d.after changes) (d.after (changes ++ later)) := by
  have hrun : InputRuns.Execution LedgerHistory.next (fun _ _ => True) (LedgerHistory.run before)
      (LedgerHistory.run (before ++ after)) := by
    unfold LedgerHistory.run
    rw [InputRuns.run_trace_append]
    exact InputRuns.valid_trace_execution (InputRuns.valid_trace_of_total _ after)
  have hstamped := LedgerHistory.stamped_run hc hrun hd
  refine ⟨snapshot_order_of_stamped hstamped,
    snapshot_order_of_stamped (hstamped.trans (d.changes_stamped changes)), ?_⟩
  have hlater := (d.after changes).changes_stamped later
  unfold ProductContext.after at hlater ⊢
  rw [InputRuns.run_trace_append]
  exact snapshot_order_of_stamped hlater

/-- A product whose second Sensor1 record is refused, and which is cleared from the line. -/
theorem revision_stamps_cleared_product :
    ∃ c d : ProductContext,
      (LedgerHistory.run [.register "product-1" 1]).ledger.get "product-1" 1 = some c ∧
      (LedgerHistory.run ([.register "product-1" 1] ++
        [.operate "product-1" (.recordSensor 1 "event-1" 10),
         .operate "product-1" (.recordSensor 1 "event-2" 11),
         .clearActive 500])).ledger.get "product-1" 1 = some d ∧
      c.revision = 1 ∧ d.revision = 3 ∧ SnapshotOrder c d :=
  ⟨_, _, rfl, rfl, rfl, rfl,
    (revision_stamps_snapshot [.register "product-1" 1]
      [.operate "product-1" (.recordSensor 1 "event-1" 10),
       .operate "product-1" (.recordSensor 1 "event-2" 11), .clearActive 500] [] []
      (p := "product-1") (f := 1) rfl rfl).1⟩

end InspectionLine
