import InspectionLine.EventProjection
import InspectionLine.VisionEvents

/-! # The images that an event registers

The terminals of a job and the discarding of a batch carry the paths of their images. Log's
projection puts these into the table that retention goes by, and those of no other event. -/
namespace InspectionLine

section
variable {F : Type}

/-- Retention will come to all of these files. -/
def LogTables.Registered (t : LogTables F) (paths : List String) : Prop :=
  ∀ path ∈ paths, (t.canonicalImageArtifacts.get? path).isSome = true

theorem LogTables.registered_insert (t : LogTables F) (sessionId productId : String)
    (stationId : ℤ) {path other : String}
    (h : path = other ∨ (t.canonicalImageArtifacts.get? path).isSome = true) :
    ((t.insertArtifact sessionId productId stationId other).canonicalImageArtifacts.get?
      path).isSome = true := by
  by_cases hold : (t.canonicalImageArtifacts.get? path).isSome = true
  · obtain ⟨row, hrow⟩ := Option.isSome_iff_exists.mp hold
    exact Option.isSome_iff_exists.mpr ⟨row, OrderedDict.get?_insertOrIgnore_of_some hrow _ _⟩
  · obtain rfl := h.resolve_right hold
    have hnone := Option.not_isSome_iff_eq_none.mp hold
    exact Option.isSome_iff_exists.mpr ⟨_, OrderedDict.get?_insertOrIgnore_self hnone _⟩

theorem LogTables.registered_fold (sessionId productId : String) (stationId : ℤ)
    (paths : List String) (t : LogTables F) {path : String}
    (h : path ∈ paths ∨ (t.canonicalImageArtifacts.get? path).isSome = true) :
    ((paths.foldl (fun t path => t.insertArtifact sessionId productId stationId path)
      t).canonicalImageArtifacts.get? path).isSome = true := by
  induction paths generalizing t with
  | nil => exact h.resolve_left List.not_mem_nil
  | cons other paths ih =>
    refine ih _ ?_
    rcases h with h | h
    · rcases List.mem_cons.mp h with hsame | hrest
      · exact .inr (t.registered_insert sessionId productId stationId (.inl hsame))
      · exact .inl hrest
    · exact .inr (t.registered_insert sessionId productId stationId (.inr h))

theorem distinct_items_of_leaves {items : List (Json F)} (h : ∀ item ∈ items, item.Distinct) :
    Json.DistinctItems items := by
  induction items with
  | nil => trivial
  | cons item items ih =>
    exact ⟨h item List.mem_cons_self,
      ih fun other hother => h other (List.mem_cons_of_mem _ hother)⟩

theorem distinct_map {α : Type} {f : α → Json F} (hf : ∀ a, (f a).Distinct) (as : List α) :
    (Json.arr (as.map f)).Distinct := by
  refine distinct_items_of_leaves fun item hitem => ?_
  obtain ⟨a, _, rfl⟩ := List.mem_map.mp hitem
  exact hf a

theorem distinct_option (x : Option F) : (Json.ofOption x).Distinct := by
  cases x <;> trivial

theorem canonical_option (x : Option F) : (Json.ofOption x).canonical = .ofOption x := by
  cases x <;> rfl

theorem canonical_strings (texts : List String) :
    (Json.strings texts : Json F).canonical = .strings texts := by
  have hitems : Json.canonicalItems (texts.map (Json.str (F := F))) = texts.map Json.str := by
    induction texts with
    | nil => rfl
    | cons text texts ih => rw [List.map_cons, Json.canonicalItems, ih]; rfl
  rw [Json.strings, Json.canonical, hitems]

end

variable {F : Type} [Runtime F]

/-- An event that registers these paths, whatever the tables hold. -/
def StoredLogEvent.Registers (F : Type) [Runtime F] (event : StoredLogEvent)
    (paths : List String) : Prop :=
  ∀ t : LogTables F, ∃ t', t.projectEvent event = .ok t' ∧ t'.Registered paths

namespace LogTables

theorem insert_artifacts_registers (t : LogTables F) (event : StoredLogEvent) (sessionId : String)
    {payload : JsonFields F} {paths : List String} {stationId : ℤ}
    (hpaths : payload.field "image_paths" (.arr []) = .strings paths)
    (hstation : payload.field "station_id" (.int 0) = .int stationId)
    (hfits : bindInt stationId = .ok stationId) (hnamed : "" ∉ paths) :
    ∃ t', t.insertArtifacts event sessionId payload = .ok t' ∧ t'.Registered paths := by
  have hkept : (paths.map Json.str).filter (Json.truthy (F := F)) = paths.map Json.str := by
    refine List.filter_eq_self.mpr fun value hvalue => ?_
    obtain ⟨path, hpath, rfl⟩ := List.mem_map.mp hvalue
    simp only [Json.truthy, ne_eq, decide_not, Bool.not_eq_true', decide_eq_false_iff_not]
    rintro rfl
    exact hnamed hpath
  let productId := (payload.field "product_id" (.str event.productId)).toStr
  refine ⟨_, ?_, fun path hpath => registered_fold sessionId productId stationId paths t
    (.inl hpath)⟩
  unfold insertArtifacts
  simp only [hpaths, hstation, Json.strings, Json.elements, hkept, Json.toInt, bind, Except.bind,
    hfits, pure, Except.pure, List.foldlM_map, Json.toStr]
  clear hpaths hkept hnamed
  induction paths generalizing t with
  | nil => rfl
  | cons path paths ih => exact ih _

structure TerminalColumns (payload : JsonFields F) (r : ReplayStationTerminal F) : Prop where
  productId : ∀ text, (payload.field "product_id" (.str text)).toStr = r.productId
  captureId : (payload.field "capture_id" (.str "")).toStr = r.captureId
  frameBatchId : (payload.field "frame_batch_id" (.str "")).toStr = r.frameBatchId
  inferenceJobId : (payload.field "inference_job_id" (.str "")).toStr = r.inferenceJobId
  modelVersion : (payload.field "model_version" (.str "")).toStr = r.modelVersion
  reason : (payload.field "reason" (.str "")).toStr = r.reason
  revision : payload.field "result_revision" (.int 1) = .int r.revision
  revisionFits : bindInt r.revision = .ok r.revision
  fifoSequence : payload.field "fifo_sequence" (.int 0) = .int r.fifoSequence
  fifoSequenceFits : bindInt r.fifoSequence = .ok r.fifoSequence
  stationId : payload.field "station_id" (.int 0) = .int r.stationId
  stationIdFits : bindInt r.stationId = .ok r.stationId
  verdict : optionalInt (payload.field "verdict" .null) = .ok r.verdict
  score : optionalFloat (payload.field "score" .null) = .ok r.score
  errorCode : optionalInt (payload.field "error_code" .null) = .ok r.errorCode
  modelForwardMs : ∃ x, optionalFloat (payload.field "model_forward_ms" .null) = .ok x
  enqueueToResultMs : ∃ x, optionalFloat (payload.field "enqueue_to_result_ms" .null) = .ok x
  captureCompleted :
    ∃ n, optionalInt (payload.field "capture_completed_monotonic_ns" .null) = .ok n
  completed : ∃ n, optionalInt (payload.field "completed_monotonic_ns" .null) = .ok n

/-- A terminal gets a row, from which `r` is read again, and its images are registered. -/
theorem project_terminal_eq (t : LogTables F) (event : StoredLogEvent) (sessionId : String)
    {payload : JsonFields F} {r : ReplayStationTerminal F} (h : TerminalColumns payload r) :
    ∃ row : TerminalRow F,
      t.projectTerminal event sessionId payload r.terminalKind =
        (t.insertTerminal ⟨sessionId, r.inferenceJobId, r.revision, r.terminalKind⟩ row
          ).insertArtifacts event sessionId payload ∧
      TerminalEntry.replayed
        (⟨sessionId, r.inferenceJobId, r.revision, r.terminalKind⟩, row) = r := by
  obtain ⟨modelForwardMs, hforward⟩ := h.modelForwardMs
  obtain ⟨enqueueToResultMs, henqueue⟩ := h.enqueueToResultMs
  obtain ⟨captureCompleted, hcaptured⟩ := h.captureCompleted
  obtain ⟨completed, hcompleted⟩ := h.completed
  unfold projectTerminal
  simp only [h.revision, h.fifoSequence, h.stationId, Json.toInt, bind, Except.bind,
    h.revisionFits, h.fifoSequenceFits, h.stationIdFits, h.verdict, h.score, h.errorCode, hforward,
    henqueue, hcaptured, hcompleted, h.productId, h.captureId, h.frameBatchId, h.inferenceJobId,
    h.modelVersion, h.reason]
  exact ⟨_, rfl, rfl⟩

end LogTables

structure LogEmission.Carries (e : LogEmission F) (paths : List String) : Prop where
  distinct : (Json.obj e.payload).Distinct
  projected : ∀ (t : LogTables F) (event : StoredLogEvent) (sessionId : String),
    event.eventType = e.eventType →
      ∃ t', t.projectPayload event sessionId e.payload.received = .ok t' ∧ t'.Registered paths

theorem LogEmission.Carries.registers [LawfulRuntime F] {p : LogProducer} {e : LogEmission F}
    {paths : List String} {record : SpoolRecord} (h : e.Carries paths)
    (hrecord : p.createRecord e = .ok record) (hsession : p.sessionId ≠ "") :
    ∃ message, p.publish e record = some message ∧ message.toEvent.Registers F paths := by
  refine ⟨_, LogProducer.publish_created hrecord h.distinct, fun t => ?_⟩
  rw [t.project_created hrecord h.distinct (by rfl) hsession]
  exact h.projected t _ p.sessionId rfl

theorem LogProducer.emit_stored {p : LogProducer} {e : LogEmission F}
    (h : (p.emitDurableEvent e).1.stored = true) :
    ∃ record, p.createRecord e = .ok record ∧
      (p.emitDurableEvent e).1.published = p.publish e record := by
  unfold emitDurableEvent emitEvent at h ⊢
  cases hrecord : p.createRecord e with
  | error err => simp [hrecord] at h
  | ok record =>
    refine ⟨record, rfl, ?_⟩
    simp only [hrecord] at h ⊢
    split at h
    · cases h
    · rename_i hopen
      rw [if_neg hopen]
      split at h
      · cases h
      · rfl

/-! ### The events of a batch -/

def CallbackContext.Fits (context : CallbackContext F) : Prop :=
  bindInt (context.timing.elim context.monotonicNs (·.completedMonotonicNs)) =
    .ok (context.timing.elim context.monotonicNs (·.completedMonotonicNs))

instance (context : CallbackContext F) : Decidable context.Fits :=
  inferInstanceAs (Decidable (_ = _))

namespace InferenceJob

def Fits (job : InferenceJob) : Prop :=
  bindInt job.fifoSequence = .ok job.fifoSequence ∧
    bindInt job.captureCompletedMonotonicNs = .ok job.captureCompletedMonotonicNs

instance (job : InferenceJob) : Decidable job.Fits := inferInstanceAs (Decidable (_ ∧ _))

structure Reportable (job : InferenceJob) : Prop where
  fits : job.Fits
  stationId : bindInt job.stationId = .ok job.stationId
  named : "" ∉ job.imagePaths

@[simp] theorem stamped_image_paths (job : InferenceJob) (nowNs : ℤ) :
    (job.stamped nowNs).imagePaths = job.imagePaths := by
  unfold stamped
  split <;> rfl

theorem Reportable.stamped {job : InferenceJob} (h : job.Reportable) (nowNs : ℤ) :
    (job.stamped nowNs).Reportable := by
  unfold InferenceJob.stamped
  split
  · exact ⟨h.fits, h.stationId, h.named⟩
  · exact h

variable {job : InferenceJob} {result : StationInferenceResult F} {context : CallbackContext F}

omit [Runtime F] in
theorem result_payload_distinct : (Json.obj (job.resultPayload result context)).Distinct := by
  have hints : ∀ ns : List ℤ, (Json.arr (ns.map .int) : Json F).Distinct :=
    distinct_map fun _ => trivial
  have hfloats : ∀ xs : List F, (Json.arr (xs.map .float)).Distinct := distinct_map fun _ => trivial
  have htexts : ∀ texts : List String, (Json.strings texts : Json F).Distinct :=
    distinct_map fun _ => trivial
  refine ⟨?_, Json.distinct_fields_iff.mpr ?_⟩
  · simp only [resultPayload, identityFields, List.map_append, List.map_cons, List.map_nil]
    decide
  · simp only [resultPayload, identityFields, List.forall_mem_append, List.forall_mem_cons,
      hints, hfloats, htexts, distinct_option]
    simp [Json.Distinct]

omit [Runtime F] in
theorem failure_payload_distinct (failure : InferenceFailure) :
    (Json.obj (job.failurePayload failure : JsonFields F)).Distinct := by
  have htexts : ∀ texts : List String, (Json.strings texts : Json F).Distinct :=
    distinct_map fun _ => trivial
  refine ⟨?_, Json.distinct_fields_iff.mpr ?_⟩
  · simp only [failurePayload, identityFields, List.map_append, List.map_cons, List.map_nil]
    decide
  · simp only [failurePayload, identityFields, List.forall_mem_append, List.forall_mem_cons,
      htexts]
    simp [Json.Distinct]

theorem terminal_carries {e : LogEmission F} {r : ReplayStationTerminal F} {paths : List String}
    {stationId : ℤ} (hdistinct : (Json.obj e.payload).Distinct)
    (hkind : ∀ (t : LogTables F) event sessionId payload, event.eventType = e.eventType →
      t.projectPayload event sessionId payload =
        t.projectTerminal event sessionId payload r.terminalKind)
    (hcolumns : LogTables.TerminalColumns e.payload.received r)
    (hpaths : e.payload.field "image_paths" (.arr []) = .strings paths)
    (hstation : e.payload.field "station_id" (.int 0) = .int stationId)
    (hfits : bindInt stationId = .ok stationId) (hnamed : "" ∉ paths) : e.Carries paths where
  distinct := hdistinct
  projected t event sessionId htype := by
    obtain ⟨row, hterminal, -⟩ := t.project_terminal_eq event sessionId hcolumns
    rw [hkind t event sessionId _ htype, hterminal]
    refine LogTables.insert_artifacts_registers _ event sessionId ?_ ?_ hfits hnamed
    · rw [JsonFields.field_received hdistinct.1 hpaths rfl, canonical_strings]
    · rw [JsonFields.field_received hdistinct.1 hstation rfl]
      rfl

theorem optional_int_int {n : ℤ} (h : bindInt n = .ok n) :
    optionalInt (Json.int n : Json F) = .ok (some n) := by
  simp only [optionalInt, Json.toInt, bind, Except.bind, h, pure, Except.pure]

theorem optional_float_option (x : Option F) : ∃ y, optionalFloat (Json.ofOption x) = .ok y := by
  cases x <;> exact ⟨_, rfl⟩

def replayedResult (job : InferenceJob) (result : StationInferenceResult F) :
    ReplayStationTerminal F where
  terminalKind := .result
  productId := job.productId
  fifoSequence := job.fifoSequence
  stationId := job.stationId
  captureId := job.captureId
  frameBatchId := job.frameBatchId
  inferenceJobId := job.inferenceJobId
  revision := 1
  verdict := some result.verdict
  score := bindFloat result.score
  modelVersion := result.modelVersion
  errorCode := none
  reason := ""

theorem result_columns (hjob : job.Reportable)
    (hverdict : bindInt result.verdict = .ok result.verdict) (hcontext : context.Fits) :
    LogTables.TerminalColumns (job.resultPayload result context).received
      (job.replayedResult result) := by
  have hread := fun key default value
      (hvalue : (job.resultPayload result context).field key default = value) hdefault =>
    JsonFields.field_received result_payload_distinct.1 hvalue hdefault
  constructor
  case productId => exact fun text => congrArg Json.toStr (hread "product_id" (.str text) _ rfl rfl)
  case captureId => exact congrArg Json.toStr (hread "capture_id" _ _ rfl rfl)
  case frameBatchId => exact congrArg Json.toStr (hread "frame_batch_id" _ _ rfl rfl)
  case inferenceJobId => exact congrArg Json.toStr (hread "inference_job_id" _ _ rfl rfl)
  case modelVersion => exact congrArg Json.toStr (hread "model_version" _ _ rfl rfl)
  case reason => exact congrArg Json.toStr (hread "reason" _ _ rfl rfl)
  case revision => exact hread "result_revision" _ _ rfl rfl
  case revisionFits => rfl
  case fifoSequence => exact hread "fifo_sequence" _ _ rfl rfl
  case fifoSequenceFits => exact hjob.fits.1
  case stationId => exact hread "station_id" _ _ rfl rfl
  case stationIdFits => exact hjob.stationId
  case verdict =>
    rw [hread "verdict" .null _ rfl rfl]
    exact optional_int_int hverdict
  case score =>
    rw [hread "score" .null _ rfl rfl]
    rfl
  case errorCode =>
    rw [hread "error_code" .null _ rfl rfl]
    rfl
  case modelForwardMs =>
    rw [hread "model_forward_ms" .null (.ofOption _) rfl rfl, canonical_option]
    exact optional_float_option _
  case enqueueToResultMs =>
    rw [hread "enqueue_to_result_ms" .null (.ofOption _) rfl rfl, canonical_option]
    exact optional_float_option _
  case captureCompleted =>
    rw [hread "capture_completed_monotonic_ns" .null _ rfl rfl]
    exact ⟨_, optional_int_int hjob.fits.2⟩
  case completed =>
    rw [hread "completed_monotonic_ns" .null _ rfl rfl]
    exact ⟨_, optional_int_int hcontext⟩

/-- A result that meets the contract has one of two verdicts. -/
theorem verdict_fits (hmeets : result.meets job = true) :
    bindInt result.verdict = .ok result.verdict := by
  unfold StationInferenceResult.meets at hmeets
  simp only [Bool.and_eq_true, decide_eq_true_eq] at hmeets
  rw [hmeets.1.1.2]
  split <;> rfl

theorem result_emission_carries (hjob : job.Reportable) (hmeets : result.meets job = true)
    (hcontext : context.Fits) :
    (job.resultEmission result context).Carries job.imagePaths := by
  refine terminal_carries result_payload_distinct ?_
    (result_columns hjob (verdict_fits hmeets) hcontext) rfl rfl hjob.stationId hjob.named
  intro t event sessionId payload htype
  unfold LogTables.projectPayload
  rw [htype]
  rfl

def replayedFailure (F : Type) (job : InferenceJob) (failure : InferenceFailure) :
    ReplayStationTerminal F where
  terminalKind := .failure
  productId := job.productId
  fifoSequence := job.fifoSequence
  stationId := job.stationId
  captureId := job.captureId
  frameBatchId := job.frameBatchId
  inferenceJobId := job.inferenceJobId
  revision := 1
  verdict := none
  score := none
  modelVersion := ""
  errorCode := some failure.kind.errorCode.value
  reason := failure.reason

theorem failure_columns (hjob : job.Reportable) (failure : InferenceFailure) :
    LogTables.TerminalColumns (job.failurePayload failure : JsonFields F).received
      (job.replayedFailure F failure) := by
  have hread := fun key default value
      (hvalue : (job.failurePayload failure : JsonFields F).field key default = value) hdefault =>
    JsonFields.field_received (failure_payload_distinct failure).1 hvalue hdefault
  have herrorCode : bindInt failure.kind.errorCode.value = .ok failure.kind.errorCode.value := by
    cases failure.kind <;> rfl
  constructor
  case productId => exact fun text => congrArg Json.toStr (hread "product_id" (.str text) _ rfl rfl)
  case captureId => exact congrArg Json.toStr (hread "capture_id" _ _ rfl rfl)
  case frameBatchId => exact congrArg Json.toStr (hread "frame_batch_id" _ _ rfl rfl)
  case inferenceJobId => exact congrArg Json.toStr (hread "inference_job_id" _ _ rfl rfl)
  case reason => exact congrArg Json.toStr (hread "reason" _ _ rfl rfl)
  case revision => exact hread "result_revision" _ _ rfl rfl
  case revisionFits => rfl
  case fifoSequence => exact hread "fifo_sequence" _ _ rfl rfl
  case fifoSequenceFits => exact hjob.fits.1
  case stationId => exact hread "station_id" _ _ rfl rfl
  case stationIdFits => exact hjob.stationId
  case errorCode =>
    rw [hread "error_code" .null _ rfl rfl]
    exact optional_int_int herrorCode
  -- the other columns are read from fields that a failure does not have
  case modelVersion => exact congrArg Json.toStr (hread "model_version" _ _ rfl rfl)
  case verdict =>
    rw [hread "verdict" .null _ rfl rfl]
    rfl
  case score =>
    rw [hread "score" .null _ rfl rfl]
    rfl
  case modelForwardMs => exact ⟨none, by rw [hread "model_forward_ms" .null _ rfl rfl]; rfl⟩
  case enqueueToResultMs =>
    exact ⟨none, by rw [hread "enqueue_to_result_ms" .null _ rfl rfl]; rfl⟩
  case captureCompleted =>
    exact ⟨none, by rw [hread "capture_completed_monotonic_ns" .null _ rfl rfl]; rfl⟩
  case completed =>
    exact ⟨none, by rw [hread "completed_monotonic_ns" .null _ rfl rfl]; rfl⟩

theorem failure_emission_carries (hjob : job.Reportable) (failure : InferenceFailure) :
    (job.failureEmission failure context).Carries job.imagePaths := by
  refine terminal_carries (failure_payload_distinct failure) ?_
    (failure_columns hjob failure) rfl rfl hjob.stationId hjob.named
  intro t event sessionId payload htype
  unfold LogTables.projectPayload
  rw [htype]
  rfl

end InferenceJob

theorem DiscardedCapture.emission_carries {discarded : DiscardedCapture}
    {context : CallbackContext F} (hfits : bindInt discarded.goal.stationId =
      .ok discarded.goal.stationId) (hnamed : "" ∉ discarded.batch.filePaths) :
    (discarded.emission context).Carries discarded.batch.filePaths := by
  have htexts : ∀ texts : List String, (Json.strings texts : Json F).Distinct :=
    distinct_map fun _ => trivial
  have hdistinct : (Json.obj (discarded.payload : JsonFields F)).Distinct := by
    refine ⟨?_, Json.distinct_fields_iff.mpr ?_⟩
    · simp only [payload, List.map_cons, List.map_nil]
      decide
    · simp only [payload, List.forall_mem_cons, htexts]
      simp [Json.Distinct]
  refine ⟨hdistinct, fun t event sessionId htype => ?_⟩
  have hkind : t.projectPayload event sessionId (discarded.payload : JsonFields F).received =
      t.insertArtifacts event sessionId (discarded.payload : JsonFields F).received := by
    unfold LogTables.projectPayload
    rw [htype]
    rfl
  refine hkind ▸ t.insert_artifacts_registers event sessionId ?_ ?_ hfits hnamed
  · exact (JsonFields.field_received hdistinct.1 rfl rfl).trans (canonical_strings _)
  · exact JsonFields.field_received hdistinct.1 rfl rfl

end InspectionLine
