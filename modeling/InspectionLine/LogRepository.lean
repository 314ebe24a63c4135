import InspectionLine.JsonText
import InspectionLine.OffsetPaging
import InspectionLine.OrderedDict
import Mathlib.Algebra.Group.Int.Defs
import Mathlib.Data.Prod.Lex

/-! # The tables of the Log node

Every table is a dictionary from its primary key to the other columns, in the order of the
row ids. What is raised inside a transaction undoes all of its writes. -/
namespace InspectionLine

structure StoredLogEvent where
  logId : String
  revision : ℤ
  severity : ℤ
  eventType : String
  sourceNode : String
  producerInstanceId : String
  productId : String
  payloadJson : String
  payloadDigest : String
  occurredAtNs : ℤ
  deriving DecidableEq, Repr

def StoredLogEvent.key (event : StoredLogEvent) : String × ℤ := (event.logId, event.revision)

structure LogEventRow where
  event : StoredLogEvent
  committedAt : String
  deriving DecidableEq, Repr

inductive TerminalKind where
  | result | failure
  deriving DecidableEq, Repr

structure TerminalKey where
  sessionId : String
  inferenceJobId : String
  revision : ℤ
  terminalKind : TerminalKind
  deriving DecidableEq, Repr

structure TerminalRow (F : Type) where
  productId : String
  fifoSequence : ℤ
  stationId : ℤ
  captureId : String
  frameBatchId : String
  verdict : Option ℤ
  score : Option F
  modelVersion : String
  modelSha256 : String
  configFingerprint : String
  errorCode : Option ℤ
  reason : String
  modelForwardMs : Option F
  enqueueToResultMs : Option F
  captureCompletedMonotonicNs : Option ℤ
  completedMonotonicNs : Option ℤ
  payloadJson : String

structure ArtifactRow where
  artifactOrder : ℕ
  sessionId : String
  productId : String
  stationId : ℤ
  deriving DecidableEq, Repr

structure ProductTerminalRow where
  fifoSequence : ℤ
  finalVerdict : String
  reason : String
  deriving DecidableEq, Repr

structure CaptureTimingRow (F : Type) where
  stationId : ℤ
  captureAndSaveMs : F
  validationMs : F
  timeoutCandidateMs : F

structure GpuMetricsRow (F : Type) where
  normalShutdown : Bool
  sampleCount : ℤ
  meanGpuUtilizationPct : F
  meanVramUsedMib : F
  peakVramUsedMib : F
  totalVramMib : F
  payloadJson : String

structure LogTables (F : Type) where
  logEvents : OrderedDict (String × ℤ) LogEventRow := .empty
  visionStationTerminals : OrderedDict TerminalKey (TerminalRow F) := .empty
  canonicalImageArtifacts : OrderedDict String ArtifactRow := .empty
  /-- The largest artifact order ever given out, also to a row that was then ignored. -/
  artifactSequence : ℕ := 0
  productTerminalResults : OrderedDict (String × String) ProductTerminalRow := .empty
  visionCaptureTimings : OrderedDict (String × String) (CaptureTimingRow F) := .empty
  visionSessionGpuMetrics : OrderedDict String (GpuMetricsRow F) := .empty

section
variable {F : Type}

structure ReplayStationTerminal (F : Type) where
  terminalKind : TerminalKind
  productId : String
  fifoSequence : ℤ
  stationId : ℤ
  captureId : String
  frameBatchId : String
  inferenceJobId : String
  revision : ℤ
  verdict : Option ℤ
  score : Option F
  modelVersion : String
  errorCode : Option ℤ
  reason : String

abbrev TerminalEntry (F : Type) := TerminalKey × TerminalRow F

def TerminalEntry.replayed (entry : TerminalEntry F) : ReplayStationTerminal F where
  terminalKind := entry.1.terminalKind
  productId := entry.2.productId
  fifoSequence := entry.2.fifoSequence
  stationId := entry.2.stationId
  captureId := entry.2.captureId
  frameBatchId := entry.2.frameBatchId
  inferenceJobId := entry.1.inferenceJobId
  revision := entry.1.revision
  verdict := entry.2.verdict
  score := entry.2.score
  modelVersion := entry.2.modelVersion
  errorCode := entry.2.errorCode
  reason := entry.2.reason

def TerminalEntry.replayOrder (entry : TerminalEntry F) : ℤ ×ₗ ℤ ×ₗ ℤ :=
  toLex (entry.2.fifoSequence, toLex (entry.2.stationId, entry.1.revision))

end

/-- The connection as a context manager: commit, or roll back and raise. -/
def transaction {σ ε : Type} (tables : σ) (body : σ → Except ε σ) : Except ε Unit × σ :=
  match body tables with
  | .ok tables => (.ok (), tables)
  | .error e => (.error e, tables)

/-- A Python int as a parameter of a statement. -/
def bindInt (n : ℤ) : Except PyError ℤ :=
  if -2 ^ 63 ≤ n ∧ n < 2 ^ 63 then .ok n
  else .error {
    kind := .overflowError, text := "Python int too large to convert to SQLite INTEGER" }

theorem bind_int_eq {n k : ℤ} (h : bindInt n = .ok k) : k = n := by
  unfold bindInt at h
  split at h
  · cases h
    rfl
  · cases h

variable {F : Type} [Runtime F]

/-- NaN becomes NULL. -/
def bindFloat (x : F) : Option F := if Runtime.isNaN x then none else some x

def bindReal (x : F) : Except PyError F :=
  match bindFloat x with
  | some x => .ok x
  | none => .error { kind := .integrityError, text := "NOT NULL constraint failed" }

def optionalInt : Json F → Except PyError (Option ℤ)
  | .null => .ok none
  | value => do return some (← bindInt (← value.toInt))

def optionalFloat : Json F → Except PyError (Option F)
  | .null => .ok none
  | value => do return bindFloat (← value.toFloat)

namespace LogTables

def insertTerminal (t : LogTables F) (key : TerminalKey) (row : TerminalRow F) : LogTables F :=
  { t with visionStationTerminals := t.visionStationTerminals.insertOrIgnore key row }

def insertArtifact (t : LogTables F) (sessionId productId : String) (stationId : ℤ)
    (filePath : String) : LogTables F :=
  let order := t.artifactSequence + 1
  { t with
    artifactSequence := order
    canonicalImageArtifacts := t.canonicalImageArtifacts.insertOrIgnore filePath
      { artifactOrder := order, sessionId, productId, stationId } }

def insertArtifacts (t : LogTables F) (event : StoredLogEvent) (sessionId : String)
    (payload : JsonFields F) : Except PyError (LogTables F) := do
  let paths ← (payload.field "image_paths" (.arr [])).elements
  (paths.filter Json.truthy).foldlM (fun t path => do
    let stationId ← bindInt (← (payload.field "station_id" (.int 0)).toInt)
    return t.insertArtifact sessionId (payload.field "product_id" (.str event.productId)).toStr
      stationId path.toStr) t

def projectTerminal (t : LogTables F) (event : StoredLogEvent) (sessionId : String)
    (payload : JsonFields F) (terminalKind : TerminalKind) : Except PyError (LogTables F) := do
  let key : TerminalKey := {
    sessionId
    inferenceJobId := (payload.field "inference_job_id" (.str "")).toStr
    revision := ← bindInt (← (payload.field "result_revision" (.int 1)).toInt)
    terminalKind }
  let row : TerminalRow F := {
    productId := (payload.field "product_id" (.str event.productId)).toStr
    fifoSequence := ← bindInt (← (payload.field "fifo_sequence" (.int 0)).toInt)
    stationId := ← bindInt (← (payload.field "station_id" (.int 0)).toInt)
    captureId := (payload.field "capture_id" (.str "")).toStr
    frameBatchId := (payload.field "frame_batch_id" (.str "")).toStr
    verdict := ← optionalInt (payload.field "verdict" .null)
    score := ← optionalFloat (payload.field "score" .null)
    modelVersion := (payload.field "model_version" (.str "")).toStr
    modelSha256 := (payload.field "model_sha256" (.str "")).toStr
    configFingerprint := (payload.field "config_fingerprint" (.str "")).toStr
    errorCode := ← optionalInt (payload.field "error_code" .null)
    reason := (payload.field "reason" (.str "")).toStr
    modelForwardMs := ← optionalFloat (payload.field "model_forward_ms" .null)
    enqueueToResultMs := ← optionalFloat (payload.field "enqueue_to_result_ms" .null)
    captureCompletedMonotonicNs :=
      ← optionalInt (payload.field "capture_completed_monotonic_ns" .null)
    completedMonotonicNs := ← optionalInt (payload.field "completed_monotonic_ns" .null)
    payloadJson := event.payloadJson }
  (t.insertTerminal key row).insertArtifacts event sessionId payload

/-- A product that is locked again is overwritten. -/
def projectLocked (t : LogTables F) (event : StoredLogEvent) (sessionId : String)
    (payload : JsonFields F) : Except PyError (LogTables F) := do
  let row : ProductTerminalRow := {
    fifoSequence := ← bindInt (← (payload.field "fifo_sequence" (.int 0)).toInt)
    finalVerdict := (payload.field "verdict" (.str "")).toStr
    reason := (payload.field "reason" (.str "")).toStr }
  return { t with
    productTerminalResults := t.productTerminalResults.insert (sessionId, event.productId) row }

/-- A capture that is timed again is replaced by a new row. -/
def projectTiming (t : LogTables F) (sessionId : String) (payload : JsonFields F) :
    Except PyError (LogTables F) := do
  let captureId := (payload.field "capture_id" (.str "")).toStr
  let row : CaptureTimingRow F := {
    stationId := ← bindInt (← (payload.field "station_id" (.int 0)).toInt)
    captureAndSaveMs := ← bindReal
      (← (payload.field "capture_and_save_ms" (.float Runtime.zero)).toFloat)
    validationMs := ← bindReal (← (payload.field "validation_ms" (.float Runtime.zero)).toFloat)
    timeoutCandidateMs :=
      ← bindReal (← (payload.field "capture_timeout_candidate_ms" (.float Runtime.zero)).toFloat) }
  return { t with visionCaptureTimings := t.visionCaptureTimings.touch (sessionId, captureId) row }

/-- Whether the metrics of a session may be overwritten: never by fewer samples, and those of
a normal shutdown only by others of a normal shutdown. -/
def metricsUpdate (stored excluded : GpuMetricsRow F) : Bool :=
  stored.sampleCount ≤ excluded.sampleCount && (!stored.normalShutdown || excluded.normalShutdown)

def upsertGpuMetrics (t : LogTables F) (sessionId : String) (row : GpuMetricsRow F) :
    LogTables F :=
  if (t.visionSessionGpuMetrics.get? sessionId).all (metricsUpdate · row) then
    { t with visionSessionGpuMetrics := t.visionSessionGpuMetrics.insert sessionId row }
  else t

def projectGpuMetrics (t : LogTables F) (event : StoredLogEvent) (sessionId : String)
    (payload : JsonFields F) : Except PyError (LogTables F) := do
  let real := fun name => do bindReal (← (payload.field name (.float Runtime.zero)).toFloat)
  let row : GpuMetricsRow F := {
    normalShutdown := (payload.field "normal_shutdown" (.bool false)).truthy
    sampleCount := ← bindInt (← (payload.field "gpu_sample_count" (.int 0)).toInt)
    meanGpuUtilizationPct := ← real "mean_gpu_utilization_pct"
    meanVramUsedMib := ← real "mean_vram_used_mib"
    peakVramUsedMib := ← real "peak_vram_used_mib"
    totalVramMib := ← real "total_vram_mib"
    payloadJson := event.payloadJson }
  return t.upsertGpuMetrics sessionId row

def projectPayload (t : LogTables F) (event : StoredLogEvent) (sessionId : String)
    (payload : JsonFields F) : Except PyError (LogTables F) :=
  match event.eventType with
  | "VISION_STATION_RESULT_DURABLE" => t.projectTerminal event sessionId payload .result
  | "VISION_STATION_FAILURE_DURABLE" => t.projectTerminal event sessionId payload .failure
  | "VISION_CAPTURE_DISCARDED" => t.insertArtifacts event sessionId payload
  | "PRODUCT_RESULT_LOCKED" => t.projectLocked event sessionId payload
  | "VISION_CAPTURE_TIMING" => t.projectTiming sessionId payload
  | "VISION_SESSION_METRICS" | "VISION_GPU_METRICS_SNAPSHOT" =>
    t.projectGpuMetrics event sessionId payload
  | _ => .ok t

/-- The projections of an event, in the transaction of the event itself. -/
def projectEvent (t : LogTables F) (event : StoredLogEvent) : Except PyError (LogTables F) := do
  let decoded ← Json.loads event.payloadJson
  match decoded.fields? with
  | none => .error { kind := .attributeError }
  | some envelope =>
    match (envelope.field "payload" (.obj [])).fields? with
    | none => .ok t
    | some payload =>
      let sessionId := (envelope.field "session_id" (.str "")).toStr
      if sessionId = "" then .ok t else t.projectPayload event sessionId payload

def logged (t : LogTables F) (committedAt : String) (event : StoredLogEvent) : LogTables F :=
  { t with logEvents := t.logEvents.insertOrIgnore event.key { event, committedAt } }

def appendBody (committedAt : String) (event : StoredLogEvent) (t : LogTables F) :
    Except PyError (LogTables F) := do
  let revision ← bindInt event.revision
  match t.logEvents.get? (event.logId, revision) with
  | some existing =>
    if existing.event.payloadDigest ≠ event.payloadDigest then
      .error { kind := .valueError, text := "same log_id/revision has a conflicting digest" }
    else return t
  | none =>
    let _ ← bindInt event.severity
    let _ ← bindInt event.occurredAtNs
    (t.logged committedAt event).projectEvent event

def appendEvent (t : LogTables F) (committedAt : String) (event : StoredLogEvent) :
    Except PyError Unit × LogTables F :=
  transaction t (appendBody committedAt event)

/-- The query does not say how rows of one key are ordered: `ties` does. -/
def replayBefore (ties : TerminalEntry F → TerminalEntry F → Bool) (a b : TerminalEntry F) :
    Bool :=
  a.replayOrder < b.replayOrder || (a.replayOrder = b.replayOrder && ties a b)

def sessionTerminals (t : LogTables F) (ties : TerminalEntry F → TerminalEntry F → Bool)
    (sessionId : String) : List (TerminalEntry F) :=
  OffsetPaging.orderBy (replayBefore ties)
    (t.visionStationTerminals.entries.filter fun entry => entry.1.sessionId = sessionId)

def replayStationTerminals (t : LogTables F) (ties : TerminalEntry F → TerminalEntry F → Bool)
    (sessionId : String) (limit offset : ℕ) : List (ReplayStationTerminal F) × Bool :=
  let rows := ((t.sessionTerminals ties sessionId).drop offset).take (limit + 1)
  ((rows.take limit).map TerminalEntry.replayed, limit < rows.length)

def retentionCandidates (t : LogTables F) (keepLatest : ℕ) : List String :=
  let newestFirst := t.canonicalImageArtifacts.entries.insertionSort fun a b =>
    b.2.artifactOrder ≤ a.2.artifactOrder
  (newestFirst.drop keepLatest).map (·.1)

def removeImageRecords (t : LogTables F) (paths : List String) : LogTables F :=
  { t with
    canonicalImageArtifacts := paths.foldl OrderedDict.erase t.canonicalImageArtifacts }

end LogTables

end InspectionLine
