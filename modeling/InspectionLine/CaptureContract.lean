import InspectionLine.Constants
import Mathlib.Data.Finset.Dedup
import Mathlib.Data.Int.Notation

/-! # Captured image batches

What the backend hands over and what is checked of it. The content of the files is an input. -/
namespace InspectionLine

inductive CaptureErrorKind where
  | notImplemented
  | mvsSdk
  | packetLoss
  | valueError
  | other
  deriving DecidableEq, Repr

structure CaptureError where
  kind : CaptureErrorKind
  text : String
  deriving DecidableEq, Repr

def CaptureErrorKind.errorCode : CaptureErrorKind → ErrorCode
  | .notImplemented => .implementationPending
  | .packetLoss => .captureFailed
  | .valueError => .captureSaveFailed
  | .mvsSdk | .other => .captureFailed

structure ImageArtifact where
  cameraId : String
  filePath : String
  sha256 : String
  fileSizeBytes : ℤ
  width : ℤ
  height : ℤ
  pixelFormat : String
  cameraTimestampRaw : ℤ
  cameraTimestampDomain : String
  cameraTimestampNs : ℤ
  cameraTimestampSynchronized : Bool
  hostArrivalMonotonicNs : ℤ
  hostArrivalTimestampNs : ℤ
  packetLossCount : ℤ
  packetResendCount : ℤ
  deriving DecidableEq, Repr

structure CaptureBatch where
  productId : String
  stationId : ℕ
  captureId : String
  frameBatchId : String
  attempt : ℕ
  triggerRequestedMonotonicNs : ℤ
  triggerReturnedMonotonicNs : ℤ
  triggerRequestedWallTimeNs : ℤ
  triggerReturnedWallTimeNs : ℤ
  images : List ImageArtifact
  deriving DecidableEq, Repr

def supportedCanonicalPixelFormats : List String := ["MONO8_PNG", "RGB8_PNG"]

def checkCapture (holds : Bool) (text : String) : Except CaptureError Unit :=
  if holds then .ok () else .error { kind := .valueError, text }

def isAbsolutePath (path : String) : Bool := path.toList.head? = some '/'

/-- The checks of one image; `file` makes those that read the file itself. -/
def ImageArtifact.validate (image : ImageArtifact) (expectedPixelFormat : String)
    (file : ImageArtifact → Except CaptureError Unit) : Except CaptureError Unit := do
  checkCapture (image.pixelFormat ∈ supportedCanonicalPixelFormats)
    "canonical image pixel format is unsupported"
  checkCapture (image.pixelFormat = expectedPixelFormat)
    "canonical image pixel format differs from configuration"
  checkCapture (0 ≤ image.packetLossCount && 0 ≤ image.packetResendCount)
    "packet counters must not be negative"
  if image.packetLossCount ≠ 0 then
    throw { kind := .packetLoss, text := "capture contains unrecovered packet loss" }
  checkCapture (isAbsolutePath image.filePath) "image file_path must be absolute"
  checkCapture (image.sha256.length = 64 && 1 ≤ image.fileSizeBytes)
    "image digest/size metadata is incomplete"
  file image

namespace CaptureBatch

def filePaths (batch : CaptureBatch) : List String := batch.images.map (·.filePath)

def arrivals (batch : CaptureBatch) : List ℤ := batch.images.map (·.hostArrivalMonotonicNs)

def frameArrivalSkewUs (batch : CaptureBatch) : ℤ :=
  if batch.arrivals.length < 2 then 0
  else (batch.arrivals.max?.getD 0 - batch.arrivals.min?.getD 0) / 1000

/-- The thread pool of the image checks cannot be made for no image at all. -/
def validate (batch : CaptureBatch) (requiredCameraIds : List String)
    (expectedPixelFormat : String) (file : ImageArtifact → Except CaptureError Unit) :
    Except CaptureError Unit := do
  checkCapture (0 < batch.triggerRequestedMonotonicNs)
    "trigger requested monotonic timestamp is missing"
  checkCapture (batch.triggerRequestedMonotonicNs ≤ batch.triggerReturnedMonotonicNs)
    "trigger returned before it was requested"
  checkCapture (0 < batch.triggerRequestedWallTimeNs)
    "trigger requested wall timestamp is missing"
  checkCapture (batch.triggerRequestedWallTimeNs ≤ batch.triggerReturnedWallTimeNs)
    "trigger wall timestamps are not monotonic"
  let actual := batch.images.map (·.cameraId)
  checkCapture actual.Nodup "duplicate camera_id in CaptureBatch"
  checkCapture (actual.toFinset = requiredCameraIds.toFinset)
    "CaptureBatch does not contain all required cameras"
  checkCapture (expectedPixelFormat ∈ supportedCanonicalPixelFormats)
    "expected canonical pixel format is unsupported"
  checkCapture (batch.images ≠ []) "max_workers must be greater than 0"
  batch.images.forM fun image => image.validate expectedPixelFormat file

end CaptureBatch

theorem check_capture_ok {holds : Bool} {text : String} (h : checkCapture holds text = .ok ()) :
    holds = true := by
  unfold checkCapture at h
  split at h
  · assumption
  · cases h

end InspectionLine
