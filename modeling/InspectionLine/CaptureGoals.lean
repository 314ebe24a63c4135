import InspectionLine.CaptureContract
import InspectionLine.ExecutorLock
import InspectionLine.InferenceQueue
import InspectionLine.NodeBase
import Mathlib.Data.List.Sort
import Mathlib.Data.String.Basic

/-! # CaptureProduct goals of the Vision node

A goal runs from one await to the next in a step of its own. Its phase says what it waits for.
The camera locks can only make it wait longer and are left to the choice of the next step. -/
namespace InspectionLine

abbrev CaptureKey := String × ℕ × String

structure CaptureGoal where
  command : CommandHeader
  productId : String
  fifoSequence : ℕ
  stationId : ℕ
  captureId : String
  requiredCameraIds : List String
  deriving DecidableEq, Repr

/-- What the sender's payload digest is made of. -/
structure CapturePayload where
  productId : String
  fifoSequence : ℕ
  stationId : ℕ
  captureId : String
  requiredCameraIds : List String
  deriving DecidableEq, Repr

/-- The action result, with the values of an aborted goal that set none. -/
structure CaptureValues where
  success : Bool := false
  productId : String := ""
  stationId : ℕ := 0
  captureId : String := ""
  frameBatchId : String := ""
  attemptCount : ℕ := 0
  images : List ImageArtifact := []
  frameArrivalSkewUs : ℤ := 0
  inferenceJobId : String := ""
  errorCode : ErrorCode := .none
  reason : String := ""
  deriving DecidableEq, Repr

namespace CaptureGoal

def key (goal : CaptureGoal) : CaptureKey := (goal.productId, goal.stationId, goal.captureId)

def identity (goal : CaptureGoal) : String × ℕ := (goal.productId, goal.stationId)

def payload (goal : CaptureGoal) : CapturePayload where
  productId := goal.productId
  fifoSequence := goal.fifoSequence
  stationId := goal.stationId
  captureId := goal.captureId
  requiredCameraIds := goal.requiredCameraIds

def terminal (goal : CaptureGoal) (errorCode : ErrorCode) (reason : String) : CaptureValues where
  productId := goal.productId
  stationId := goal.stationId
  captureId := goal.captureId
  errorCode := errorCode
  reason := reason

end CaptureGoal

def CaptureValues.key (values : CaptureValues) : CaptureKey :=
  (values.productId, values.stationId, values.captureId)

def InferenceJob.captureKey (job : InferenceJob) : CaptureKey :=
  (job.productId, job.stationId, job.captureId)

def CaptureBatch.successValues (batch : CaptureBatch) (inferenceJobId : String) :
    CaptureValues where
  success := true
  productId := batch.productId
  stationId := batch.stationId
  captureId := batch.captureId
  frameBatchId := batch.frameBatchId
  attemptCount := batch.attempt
  images := batch.images
  frameArrivalSkewUs := batch.frameArrivalSkewUs
  inferenceJobId := inferenceJobId

structure CaptureSettings where
  /-- The cameras of a station; there are two stations. -/
  cameraIds : ℕ → List String
  maxAttempts : ℕ := 2
  skewLimitUs : ℤ := 0
  canonicalPixelFormat : String := "MONO8_PNG"
  hardware : Bool := false
  sensorWidth : ℤ := 2448
  sensorHeight : ℤ := 2048
  stationTimeoutMs : ℕ → ℤ := fun _ => 0
  queueTotalTimeoutMs : ℤ := 0

structure AttemptOutcome where
  captured : Except CaptureError CaptureBatch
  file : ImageArtifact → Except CaptureError Unit := fun _ => .ok ()

/-- A failed attempt, with the batch if there was one already. -/
structure AttemptFailure where
  batch : Option CaptureBatch
  errorCode : ErrorCode
  text : String

namespace CaptureSettings

def stations : List ℕ := [1, 2]

def configured (settings : CaptureSettings) (cameraId : String) : Bool :=
  stations.any fun stationId => cameraId ∈ settings.cameraIds stationId

def expectedSize (settings : CaptureSettings) (batch : CaptureBatch) : Bool :=
  !settings.hardware || batch.images.all fun image =>
    image.width = settings.sensorWidth && image.height = settings.sensorHeight

/-- Whether a batch is the one that was asked for. -/
def examine (settings : CaptureSettings) (goal : CaptureGoal) (attempt : ℕ)
    (file : ImageArtifact → Except CaptureError Unit) (batch : CaptureBatch) :
    Except CaptureError Unit := do
  checkCapture (batch.productId = goal.productId && batch.stationId = goal.stationId &&
      batch.captureId = goal.captureId && batch.attempt = attempt)
    "capture backend returned mismatched identity"
  batch.validate goal.requiredCameraIds settings.canonicalPixelFormat file
  checkCapture (settings.expectedSize batch) "canonical image resolution is not 2448x2048"

def skewExceeded (settings : CaptureSettings) (batch : CaptureBatch) : Bool :=
  0 < settings.skewLimitUs && settings.skewLimitUs < batch.frameArrivalSkewUs

def captureAttempt (settings : CaptureSettings) (goal : CaptureGoal) (attempt : ℕ)
    (outcome : AttemptOutcome) : Except AttemptFailure CaptureBatch :=
  match outcome.captured with
  | .error e => .error { batch := none, errorCode := e.kind.errorCode, text := e.text }
  | .ok batch =>
    match settings.examine goal attempt outcome.file batch with
    | .error e => .error { batch := some batch, errorCode := e.kind.errorCode, text := e.text }
    | .ok () =>
      if settings.skewExceeded batch then
        .error {
          batch := some batch, errorCode := .captureSkewExceeded
          text := "frame_arrival_skew_us exceeded configured limit" }
      else .ok batch

def timeoutMs (settings : CaptureSettings) (stationId : ℕ) : ℤ :=
  if settings.stationTimeoutMs stationId ≤ 0 then settings.queueTotalTimeoutMs
  else settings.stationTimeoutMs stationId

def inferenceJob (settings : CaptureSettings) (goal : CaptureGoal) (batch : CaptureBatch)
    (inferenceJobId : String) : InferenceJob where
  inferenceJobId := inferenceJobId
  productId := goal.productId
  fifoSequence := goal.fifoSequence
  stationId := goal.stationId
  captureId := goal.captureId
  frameBatchId := batch.frameBatchId
  imagePaths := batch.filePaths
  queueTotalTimeoutMs :=
    let timeoutMs := settings.timeoutMs goal.stationId
    if 0 < timeoutMs then some timeoutMs else none
  cameraIds := batch.images.map (·.cameraId)
  captureCompletedMonotonicNs := batch.arrivals.max?.getD 0

end CaptureSettings

/-- What a goal waits for: its start, the station, the cameras left to lock, the frames of an
attempt, or space in the queue. -/
inductive CapturePhase where
  | accepted
  | queued
  | entered
  | reserving (cameraIds : List String)
  | exposing (attempt : ℕ)
  | blocked (batch : CaptureBatch) (job : InferenceJob)
  deriving DecidableEq, Repr

structure RunningCapture where
  goal : CaptureGoal
  phase : CapturePhase := .accepted
  cancelRequested : Bool := false
  deriving DecidableEq, Repr

structure CaptureReply where
  goal : CaptureGoal
  values : CaptureValues
  status : GoalStatus
  deriving DecidableEq, Repr

structure DiscardedCapture where
  goal : CaptureGoal
  batch : CaptureBatch
  reason : String
  deriving DecidableEq, Repr

structure DiskCheck where
  stopReason : String := ""
  degrades : Bool := false

structure CaptureServer where
  node : Worker
  settings : CaptureSettings
  shutdownRequested : Bool := false
  captureResults : IdempotencyStore CaptureValues := .new 4096 IdempotencyStore.default_capacity_pos
  captureIdentities : OrderedDict String (String × ℕ) := .empty
  completedCaptures : OrderedDict CaptureKey CaptureValues := .empty
  canceledStationScopes : Finset (String × Option ℕ) := ∅
  stationLocks : ℕ → ExecutorLock String := fun _ => {}
  running : OrderedDict String RunningCapture := .empty
  discarded : List DiscardedCapture := []
  replies : List CaptureReply := []
  /-- The goals that were accepted, the batches that passed the validation and the jobs that the
  queue took. No step reads them. -/
  goals : List CaptureGoal := []
  validated : List CaptureBatch := []
  jobs : List InferenceJob := []

namespace CaptureServer

def isScopeCanceled (v : CaptureServer) (productId : String) (stationId : ℕ) : Bool :=
  (productId, none) ∈ v.canceledStationScopes ||
    (productId, some stationId) ∈ v.canceledStationScopes

def acceptsCaptureGoal (v : CaptureServer) (goal : CaptureGoal) : Bool :=
  !v.shutdownRequested && goal.productId ≠ "" && goal.captureId ≠ "" &&
    goal.stationId ∈ CaptureSettings.stations && goal.requiredCameraIds ≠ [] &&
    goal.requiredCameraIds.Nodup && goal.requiredCameraIds = v.settings.cameraIds goal.stationId &&
    goal.command.commandId ≠ "" && !v.isScopeCanceled goal.productId goal.stationId

def accept (v : CaptureServer) (goalId : String) (goal : CaptureGoal) : CaptureServer :=
  if v.acceptsCaptureGoal goal then
    { v with running := v.running.insert goalId { goal }, goals := v.goals ++ [goal] }
  else v

def setPhase (v : CaptureServer) (goalId : String) (r : RunningCapture) (phase : CapturePhase) :
    CaptureServer :=
  { v with running := v.running.insert goalId { r with phase } }

/-- The end of a goal that is not in a station. -/
def reply (v : CaptureServer) (goalId : String) (r : RunningCapture) (values : CaptureValues)
    (status : GoalStatus) : CaptureServer :=
  { v with
    running := v.running.erase goalId
    replies := v.replies ++ [{ goal := r.goal, values, status }] }

def leaveStation (v : CaptureServer) (stationId : ℕ) : CaptureServer :=
  let (successor, lock) := (v.stationLocks stationId).release
  let v := { v with stationLocks := Function.update v.stationLocks stationId lock }
  match successor with
  | none => v
  | some goalId =>
    { v with running := v.running.modify goalId fun r => { r with phase := .entered } }

/-- The end of a goal that is in its station. -/
def finish (v : CaptureServer) (goalId : String) (r : RunningCapture) (values : CaptureValues)
    (status : GoalStatus) : CaptureServer :=
  (v.reply goalId r values status).leaveStation r.goal.stationId

/-- Stores the values for the command; a raised ValueError aborts the goal without values. -/
def rememberAndFinish (v : CaptureServer) (goalId : String) (r : RunningCapture)
    (values : CaptureValues) : CaptureServer :=
  match v.captureResults.remember r.goal.command.commandId r.goal.command.payloadDigest values with
  | none => v.finish goalId r {} .aborted
  | some captureResults => { v with captureResults }.finish goalId r values .succeeded

def emitCaptureDiscarded (v : CaptureServer) (goal : CaptureGoal) (batch : CaptureBatch)
    (reason : String) : CaptureServer :=
  { v with discarded := v.discarded ++ [{ goal, batch, reason }] }

/-- What happens first in a station: the capture may be canceled, another product's, or done. -/
def enterStation (v : CaptureServer) (goalId : String) (r : RunningCapture) : CaptureServer :=
  if v.isScopeCanceled r.goal.productId r.goal.stationId then
    v.finish goalId r (r.goal.terminal .captureCanceled
      "capture scope was canceled before camera reservation") .canceled
  else if (v.captureIdentities.get? r.goal.captureId).any (· ≠ r.goal.identity) then
    v.finish goalId r (r.goal.terminal .commandConflict
      "capture_id already belongs to another product/station") .aborted
  else
    let v := { v with
      captureIdentities := v.captureIdentities.insert r.goal.captureId r.goal.identity }
    match v.completedCaptures.get? r.goal.key with
    | some completed => v.rememberAndFinish goalId r completed
    | none =>
      v.setPhase goalId r (.reserving (r.goal.requiredCameraIds.insertionSort (· ≤ ·)))

def allowedStates : List SystemState := [.runSys, .pausing, .paused]

/-- From the header check up to the lock of the station. -/
def execute (v : CaptureServer) (goalId : String) (disk : DiskCheck) : CaptureServer :=
  match v.running.get? goalId with
  | none => v
  | some r =>
    match v.node.validateCommandHeader r.goal.command allowedStates with
    | .error (code, reason) => v.reply goalId r (r.goal.terminal code reason) .aborted
    | .ok () =>
      let (replay, captureResults) :=
        v.captureResults.inspect r.goal.command.commandId r.goal.command.payloadDigest
      let v := { v with captureResults }
      match replay.kind, replay.result with
      | .conflict, _ =>
        v.reply goalId r (r.goal.terminal .commandConflict
          "same command_id received with another digest") .aborted
      | _, some values =>
        v.reply goalId r values (if values.success then .succeeded else .aborted)
      | _, none =>
        let v := if disk.degrades then { v with node := { v.node with healthState := .degraded } }
          else v
        if disk.stopReason ≠ "" then
          v.reply goalId r (r.goal.terminal .visionDiskStop disk.stopReason) .aborted
        else
          let (entered, lock) := (v.stationLocks r.goal.stationId).enter goalId
          let v := { v with stationLocks := Function.update v.stationLocks r.goal.stationId lock }
          if entered then v.enterStation goalId r else v.setPhase goalId r .queued

def resume (v : CaptureServer) (goalId : String) : CaptureServer :=
  match v.running.get? goalId with
  | none => v
  | some r => v.enterStation goalId r

def finishUncaptured (v : CaptureServer) (goalId : String) (r : RunningCapture)
    (errorCode : ErrorCode) (reason : String) : CaptureServer :=
  if r.cancelRequested then
    v.finish goalId r (r.goal.terminal .captureCanceled "capture canceled") .canceled
  else v.finish goalId r (r.goal.terminal errorCode reason) .aborted

def startAttempt (v : CaptureServer) (goalId : String) (r : RunningCapture) (attempt : ℕ)
    (errorCode : ErrorCode) (reason : String) : CaptureServer :=
  if v.settings.maxAttempts < attempt then v.finishUncaptured goalId r errorCode reason
  else if r.cancelRequested then
    v.finishUncaptured goalId r .captureCanceled "capture canceled"
  else v.setPhase goalId r (.exposing attempt)

def reserve (v : CaptureServer) (goalId : String) : CaptureServer :=
  match v.running.get? goalId with
  | some ⟨goal, .reserving cameraIds, cancelRequested⟩ =>
    let r : RunningCapture := ⟨goal, .reserving cameraIds, cancelRequested⟩
    match cameraIds with
    | [] => v.startAttempt goalId r 1 .captureFailed "capture did not start"
    | cameraId :: rest =>
      if v.settings.configured cameraId then v.setPhase goalId r (.reserving rest)
      else v.finish goalId r
        (goal.terminal .commandConflict ("camera is not configured: " ++ cameraId)) .aborted
  | _ => v

def complete (v : CaptureServer) (goalId : String) (r : RunningCapture) (batch : CaptureBatch)
    (job accepted : InferenceJob) : CaptureServer :=
  let values := batch.successValues job.inferenceJobId
  { v with
    jobs := v.jobs ++ [accepted]
    completedCaptures := v.completedCaptures.insert r.goal.key values }.rememberAndFinish
      goalId r values

def refuse (v : CaptureServer) (goalId : String) (r : RunningCapture) (batch : CaptureBatch)
    (job : InferenceJob) (queue : InferenceQueue) : CaptureServer :=
  if queue.closed then
    v.finish goalId r (r.goal.terminal .inferenceFailed "inference queue is closed") .aborted
  else if r.goal.productId ∈ queue.canceled.lockedProducts then
    v.finish goalId r
      (r.goal.terminal .captureCanceled "product was locked before FrameBatch enqueue") .aborted
  else if v.isScopeCanceled r.goal.productId r.goal.stationId then
    (v.emitCaptureDiscarded r.goal batch
      "inference scope canceled while waiting for queue capacity").finish goalId r
      (r.goal.terminal .captureCanceled "inference scope canceled before enqueue") .canceled
  else if r.cancelRequested then
    v.finish goalId r
      (r.goal.terminal .captureCanceled "ENQUEUE_BLOCKED capture canceled") .canceled
  else v.setPhase goalId r (.blocked batch job)

def enqueue (v : CaptureServer) (goalId : String) (r : RunningCapture) (batch : CaptureBatch)
    (job : InferenceJob) (nowNs : ℤ) (queue : InferenceQueue) : CaptureServer × InferenceQueue :=
  match queue.tryEnqueue job nowNs with
  | some (accepted, queue) => (v.complete goalId r batch job accepted, queue)
  | none => (v.refuse goalId r batch job queue, queue)

/-- A validated batch goes to the queue, unless nobody wants it any more. -/
def submit (v : CaptureServer) (goalId : String) (r : RunningCapture) (batch : CaptureBatch)
    (inferenceJobId : String) (nowNs : ℤ) (queue : InferenceQueue) :
    CaptureServer × InferenceQueue :=
  if r.cancelRequested || v.isScopeCanceled r.goal.productId r.goal.stationId then
    ((v.emitCaptureDiscarded r.goal batch
      "capture completed after cancellation; canonical files retained for LogNode").finish goalId r
      (r.goal.terminal .captureCanceled
        "capture completed after its inference scope was canceled") .canceled, queue)
  else v.enqueue goalId r batch (v.settings.inferenceJob r.goal batch inferenceJobId) nowNs queue

def attemptReason (settings : CaptureSettings) (attempt : ℕ) (text : String) : String :=
  "attempt " ++ toString attempt ++ "/" ++ toString settings.maxAttempts ++ " failed: " ++ text

/-- The frames of an attempt have come, or not. -/
def expose (v : CaptureServer) (goalId : String) (outcome : AttemptOutcome)
    (inferenceJobId : String) (nowNs : ℤ) (queue : InferenceQueue) :
    CaptureServer × InferenceQueue :=
  match v.running.get? goalId with
  | some ⟨goal, .exposing attempt, cancelRequested⟩ =>
    let r : RunningCapture := ⟨goal, .exposing attempt, cancelRequested⟩
    match v.settings.captureAttempt goal attempt outcome with
    | .ok batch =>
      { v with validated := v.validated ++ [batch] }.submit goalId r batch inferenceJobId nowNs
        queue
    | .error failure =>
      let reason := attemptReason v.settings attempt failure.text
      let v := match failure.batch with
        | some batch => v.emitCaptureDiscarded goal batch reason
        | none => v
      (v.startAttempt goalId r (attempt + 1) failure.errorCode reason, queue)
  | _ => (v, queue)

def retry (v : CaptureServer) (goalId : String) (nowNs : ℤ) (queue : InferenceQueue) :
    CaptureServer × InferenceQueue :=
  match v.running.get? goalId with
  | some ⟨goal, .blocked batch job, cancelRequested⟩ =>
    v.enqueue goalId ⟨goal, .blocked batch job, cancelRequested⟩ batch job nowNs queue
  | _ => (v, queue)

def requestCancel (v : CaptureServer) (goalId : String) : CaptureServer :=
  { v with running := v.running.modify goalId fun r => { r with cancelRequested := true } }

def cancelScope (v : CaptureServer) (productId : String) (stationId : Option ℕ) :
    CaptureServer :=
  { v with canceledStationScopes := insert (productId, stationId) v.canceledStationScopes }

end CaptureServer

end InspectionLine
