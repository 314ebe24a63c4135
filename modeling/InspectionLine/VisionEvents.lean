import InspectionLine.CaptureGoals
import InspectionLine.LogNode
import InspectionLine.WorkerPool

/-! # What the Vision node reports about a batch of images

The callbacks of the workers and of the cancellations, as far as they emit durable events and
publish station messages. -/
namespace InspectionLine

structure StationInferenceResult (F : Type) where
  verdict : ℤ
  score : F
  modelVersion : String
  modelSha256 : String
  viewVerdicts : List ℤ
  viewScores : List F
  viewRawScores : List F := []
  viewNames : List String := []
  diagnosticPaths : List String := []

structure InferenceTiming (F : Type) where
  modelForwardMs : F
  enqueueToTerminalMs : F
  completedMonotonicNs : ℤ

/-- What a callback reads besides its job: a new log id, the clocks, the timing of the job, and
whether the database raises. -/
structure CallbackContext (F : Type) where
  logId : String
  createdAt : String
  occurredAtNs : ℤ
  enqueueRaises : Bool := false
  configFingerprint : String := ""
  timing : Option (InferenceTiming F) := none
  monotonicNs : ℤ := 0

def logWarning : ℤ := 30

def logError : ℤ := 40

def InferenceFailureKind.value : InferenceFailureKind → String
  | .timeout => "TIMEOUT"
  | .fileRead => "FILE_READ"
  | .preprocessing => "PREPROCESSING"
  | .model => "MODEL"
  | .cudaOom => "CUDA_OOM"

def InferenceFailureKind.errorCode : InferenceFailureKind → ErrorCode
  | .timeout => .inferenceTimeout
  | .fileRead => .inferenceFileReadFailed
  | .preprocessing => .inferenceFailed
  | .model => .inferenceFailed
  | .cudaOom => .gpuOutOfMemory

/-- A message as the Master node gets it from the Vision node. -/
inductive LiveTerminal (F : Type) where
  | result (message : StationResult F)
  | failure (message : StationInferenceFailed)

section
variable {F : Type}

def Json.strings (texts : List String) : Json F := .arr (texts.map .str)

def Json.ofOption (x : Option F) : Json F := x.elim .null .float

def CallbackContext.emission (context : CallbackContext F) (eventType productId : String)
    (severity : ℤ) (payload : JsonFields F) : LogEmission F where
  logId := context.logId
  severity := severity
  eventType := eventType
  productId := productId
  payload := payload
  createdAt := context.createdAt
  occurredAtNs := context.occurredAtNs
  enqueueRaises := context.enqueueRaises

namespace InferenceJob

def identityFields (job : InferenceJob) : JsonFields F := [
  ("product_id", .str job.productId),
  ("fifo_sequence", .int job.fifoSequence),
  ("station_id", .int job.stationId),
  ("capture_id", .str job.captureId),
  ("frame_batch_id", .str job.frameBatchId),
  ("inference_job_id", .str job.inferenceJobId)]

def resultPayload (job : InferenceJob) (result : StationInferenceResult F)
    (context : CallbackContext F) : JsonFields F :=
  job.identityFields ++ [
    ("result_revision", .int 1),
    ("verdict", .int result.verdict),
    ("score", .float result.score),
    ("model_version", .str result.modelVersion),
    ("model_sha256", .str result.modelSha256),
    ("config_fingerprint", .str context.configFingerprint),
    ("view_verdicts", .arr (result.viewVerdicts.map .int)),
    ("view_scores", .arr (result.viewScores.map .float)),
    ("view_raw_scores", .arr (result.viewRawScores.map .float)),
    ("view_names", .strings result.viewNames),
    ("diagnostic_paths", .strings result.diagnosticPaths),
    ("camera_ids", .strings job.cameraIds),
    ("image_paths", .strings job.imagePaths),
    ("capture_completed_monotonic_ns", .int job.captureCompletedMonotonicNs),
    ("completed_monotonic_ns", .int
      (context.timing.elim context.monotonicNs (·.completedMonotonicNs))),
    ("model_forward_ms", .ofOption (context.timing.map (·.modelForwardMs))),
    ("enqueue_to_result_ms", .ofOption (context.timing.map (·.enqueueToTerminalMs)))]

def failurePayload (job : InferenceJob) (failure : InferenceFailure) : JsonFields F :=
  job.identityFields ++ [
    ("result_revision", .int 1),
    ("error_code", .int failure.kind.errorCode.value),
    ("failure_kind", .str failure.kind.value),
    ("reason", .str failure.reason),
    ("camera_ids", .strings job.cameraIds),
    ("image_paths", .strings job.imagePaths)]

def canceledPayload (job : InferenceJob) (stage : String) : JsonFields F :=
  job.identityFields ++ [("stage", .str stage), ("image_paths", .strings job.imagePaths)]

def resultEmission (job : InferenceJob) (result : StationInferenceResult F)
    (context : CallbackContext F) : LogEmission F :=
  context.emission "VISION_STATION_RESULT_DURABLE" job.productId logInfo
    (job.resultPayload result context)

def failureEmission (job : InferenceJob) (failure : InferenceFailure)
    (context : CallbackContext F) : LogEmission F :=
  context.emission "VISION_STATION_FAILURE_DURABLE" job.productId logError
    (job.failurePayload failure)

def canceledEmission (job : InferenceJob) (stage : String) (context : CallbackContext F) :
    LogEmission F :=
  context.emission "VISION_INFERENCE_CANCELED" job.productId logInfo (job.canceledPayload stage)

def resultMessage (job : InferenceJob) (sessionId : String) (result : StationInferenceResult F) :
    StationResult F where
  sessionId := sessionId
  correlationId := job.captureId
  productId := job.productId
  fifoSequence := job.fifoSequence
  stationId := job.stationId
  captureId := job.captureId
  frameBatchId := job.frameBatchId
  inferenceJobId := job.inferenceJobId
  resultRevision := 1
  verdict := result.verdict.toNat
  score := result.score
  modelVersion := result.modelVersion

def failureMessage (job : InferenceJob) (sessionId : String) (failure : InferenceFailure) :
    StationInferenceFailed where
  sessionId := sessionId
  correlationId := job.captureId
  productId := job.productId
  fifoSequence := job.fifoSequence
  stationId := job.stationId
  captureId := job.captureId
  frameBatchId := job.frameBatchId
  inferenceJobId := job.inferenceJobId
  resultRevision := 1
  errorCode := failure.kind.errorCode.value
  reason := failure.reason

end InferenceJob

def DiscardedCapture.payload (discarded : DiscardedCapture) : JsonFields F := [
  ("product_id", .str discarded.goal.productId),
  ("fifo_sequence", .int discarded.goal.fifoSequence),
  ("station_id", .int discarded.goal.stationId),
  ("capture_id", .str discarded.goal.captureId),
  ("frame_batch_id", .str discarded.batch.frameBatchId),
  ("image_paths", .strings discarded.batch.filePaths),
  ("reason", .str discarded.reason),
  ("deletion_owner", .str "LOG_NODE")]

def DiscardedCapture.emission (discarded : DiscardedCapture) (context : CallbackContext F) :
    LogEmission F :=
  context.emission "VISION_CAPTURE_DISCARDED" discarded.goal.productId logWarning discarded.payload

structure InferenceCancellationMessage where
  cancellationId : String
  productId : String
  fifoSequence : ℕ
  stationId : ℕ
  reasonCode : ℕ
  reason : String
  deriving DecidableEq, Repr

/-- The station that a cancellation is about; 0 stands for both. -/
def InferenceCancellationMessage.scope (message : InferenceCancellationMessage) : Option ℕ :=
  if message.stationId = 0 then none else some message.stationId

def InferenceCancellationMessage.emission (message : InferenceCancellationMessage)
    (removed : List InferenceJob) (active : Bool) (context : CallbackContext F) : LogEmission F :=
  context.emission "VISION_INFERENCE_CANCELLATION_APPLIED" message.productId logInfo [
    ("cancellation_id", .str message.cancellationId),
    ("product_id", .str message.productId),
    ("fifo_sequence", .int message.fifoSequence),
    ("station_id", .int message.stationId),
    ("reason_code", .int message.reasonCode),
    ("reason", .str message.reason),
    ("removed_inference_job_ids", .strings (removed.map (·.inferenceJobId))),
    ("active_job_found", .bool active),
    ("active_result_will_be_discarded", .bool active)]

def lockedCancellationEmission (productId : String) (fifoSequence removed : ℕ) (active : Bool)
    (context : CallbackContext F) : LogEmission F :=
  context.emission "VISION_PRODUCT_LOCKED_CANCELLATION" productId logInfo [
    ("product_id", .str productId),
    ("fifo_sequence", .int fifoSequence),
    ("removed_queue_jobs", .int removed),
    ("active_job_found", .bool active)]

end

variable {F : Type} [Runtime F]

def isFinite (x : F) : Bool := (Runtime.floatText x).isSome

def stationResultPass : ℤ := 1

def stationResultNg : ℤ := 2

def StationInferenceResult.meets (result : StationInferenceResult F) (job : InferenceJob) : Bool :=
  let expectedViews := if job.stationId = 1 then 3 else 1
  let derivedVerdict :=
    if stationResultNg ∈ result.viewVerdicts then stationResultNg else stationResultPass
  job.imagePaths.length = expectedViews && result.viewVerdicts.length = expectedViews &&
    result.viewScores.length = expectedViews &&
    result.viewVerdicts.all (· ∈ [stationResultPass, stationResultNg]) &&
    result.verdict = derivedVerdict && isFinite result.score && result.viewScores.all isFinite

def invalidOutput : InferenceFailure := ⟨.model, "model output contract is invalid"⟩

namespace LogProducer

/-- A message is published only after its durable event has been stored. -/
def emitTerminal (p : LogProducer) (e : LogEmission F) (message : LiveTerminal F) :
    Option (LiveTerminal F) × Emitted × LogProducer :=
  let (emitted, p) := p.emitDurableEvent e
  (if emitted.stored then some message else none, emitted, p)

def onInferenceFailure (p : LogProducer) (job : InferenceJob) (failure : InferenceFailure)
    (context : CallbackContext F) : Option (LiveTerminal F) × Emitted × LogProducer :=
  p.emitTerminal (job.failureEmission failure context)
    (.failure (job.failureMessage p.sessionId failure))

def onInferenceSuccess (p : LogProducer) (job : InferenceJob) (result : StationInferenceResult F)
    (context : CallbackContext F) : Option (LiveTerminal F) × Emitted × LogProducer :=
  if result.meets job then
    p.emitTerminal (job.resultEmission result context)
      (.result (job.resultMessage p.sessionId result))
  else p.onInferenceFailure job invalidOutput context

end LogProducer

end InspectionLine
