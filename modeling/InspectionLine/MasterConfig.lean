import InspectionLine.Constants
import Mathlib.Data.Int.Notation
import Mathlib.Data.Fin.VecNotation

/-! # The parameters of Master -/
namespace InspectionLine

inductive Profile where
  | sim | hardware
  deriving DecidableEq, Repr

/-- The parameters, as the constructor accepts them. `newUuid` and `payloadDigest` stand for
the random source and the hash. -/
structure MasterConfig where
  profile : Profile
  sessionId : String
  nodeInstanceId : String
  expectedInterfaceVersion : String
  configVersion : String
  configDigest : String
  initRetryIntervalMs : ℤ := 1000
  nodeHeartbeatTimeoutMs : ℤ := 2000
  initTimeoutMs : ℤ := 10000
  fifoSoftLimit : ℕ := 18
  fifoHardCapacity : ℕ := 20
  skipStationBAfterStationANg : Bool := false
  sensorIds : Fin 3 → String
  acceptedSensorEdge : ℕ := 1
  hardwareMappingConfirmed : Bool := false
  stationCameraIds : StationId → List String
  positionTimeoutMs : ℤ := 10000
  captureTimeoutMs : ℤ := 30000
  actuationTimeoutMs : ℤ := 10000
  conveyorResumeTimeoutMs : ℤ := 10000
  conveyorRunTimeoutMs : ℤ := 10000
  pauseStopTimeoutMs : ℤ := 10000
  shutdownStopTimeoutMs : ℤ := 10000
  logSpoolPath : String := "/tmp/inspection/spool/master.sqlite3"
  logSpoolWarningBytes : ℕ := 0
  logSpoolHardBytes : ℕ := 0
  completedContextRetentionMs : ℤ := 600000
  payloadDigest : List (String × String) → String
  newUuid : ℕ → String
  uuid_nonempty : ∀ k, newUuid k ≠ ""
  config_version : configVersion ≠ ""
  init_retry : 100 ≤ initRetryIntervalMs ∧ initRetryIntervalMs ≤ 10000
  heartbeat_timeout : 100 ≤ nodeHeartbeatTimeoutMs ∧ nodeHeartbeatTimeoutMs ≤ 60000
  init_timeout : 1000 ≤ initTimeoutMs ∧ initTimeoutMs ≤ 60000
  fifo_limits : 1 ≤ fifoSoftLimit ∧ fifoSoftLimit ≤ fifoHardCapacity
  sensor_ids : Function.Injective sensorIds ∧ ∀ i, sensorIds i ≠ ""
  accepted_edge : acceptedSensorEdge = 1 ∨ acceptedSensorEdge = 2
  camera_ids : profile = .sim ∨ stationCameraIds .a ≠ [] ∨ stationCameraIds .b ≠ [] →
    (stationCameraIds .a).length = 3 ∧ (stationCameraIds .b).length = 1 ∧
      ∀ id ∈ stationCameraIds .a, id ∉ stationCameraIds .b
  action_timeouts : ∀ t ∈ [positionTimeoutMs, captureTimeoutMs, actuationTimeoutMs,
    conveyorResumeTimeoutMs, pauseStopTimeoutMs, shutdownStopTimeoutMs], 100 ≤ t ∧ t ≤ 300000
  spool_thresholds : logSpoolHardBytes ≠ 0 → logSpoolWarningBytes ≤ logSpoolHardBytes
  retention : 60000 ≤ completedContextRetentionMs ∧ completedContextRetentionMs ≤ 86400000

def fromMs (ms : ℤ) : ℤ := ms * 1000000

end InspectionLine
