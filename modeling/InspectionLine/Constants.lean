import Mathlib.Data.Fintype.Basic

/-! # Enumerations shared by the nodes -/
namespace InspectionLine

inductive NodeHealthState where
  | starting | ready | degraded | recovering | initBlocked | fault
  deriving DecidableEq, Repr

def NodeHealthState.ofRaw? : ℕ → Option NodeHealthState
  | 0 => some .starting
  | 1 => some .ready
  | 2 => some .degraded
  | 3 => some .recovering
  | 4 => some .initBlocked
  | 5 => some .fault
  | _ => none

def NodeHealthState.name : NodeHealthState → String
  | .starting => "STARTING"
  | .ready => "READY"
  | .degraded => "DEGRADED"
  | .recovering => "RECOVERING"
  | .initBlocked => "INIT_BLOCKED"
  | .fault => "FAULT"

inductive SystemState where
  | boot | initializing | ready | runSys | pausing | paused | faultStop | resetting
  deriving DecidableEq, Repr

def SystemState.ofRaw? : ℕ → Option SystemState
  | 0 => some .boot
  | 1 => some .initializing
  | 2 => some .ready
  | 3 => some .runSys
  | 4 => some .pausing
  | 5 => some .paused
  | 6 => some .faultStop
  | 7 => some .resetting
  | _ => none

def SystemState.raw : SystemState → ℕ
  | .boot => 0
  | .initializing => 1
  | .ready => 2
  | .runSys => 3
  | .pausing => 4
  | .paused => 5
  | .faultStop => 6
  | .resetting => 7

def SystemState.name : SystemState → String
  | .boot => "BOOT"
  | .initializing => "INITIALIZING"
  | .ready => "READY"
  | .runSys => "RUN_SYS"
  | .pausing => "PAUSING"
  | .paused => "PAUSED"
  | .faultStop => "FAULT_STOP"
  | .resetting => "RESETTING"

inductive ErrorCode where
  | none | captureFailed | captureSkewExceeded | captureSaveFailed | captureCanceled
  | visionDiskStop | inferenceFailed | inferenceTimeout | inferenceFileReadFailed
  | gpuOutOfMemory | controlFailed | positionFailed | actuatorFailed | logCommitFailed
  | commandConflict | interfaceVersionMismatch | nodeInitFailed | masterHeartbeatTimeout
  | implementationPending | internalError
  deriving DecidableEq, Repr

def ErrorCode.value : ErrorCode → ℕ
  | .none => 0
  | .captureFailed => 1000
  | .captureSkewExceeded => 1001
  | .captureSaveFailed => 1002
  | .captureCanceled => 1003
  | .visionDiskStop => 1004
  | .inferenceFailed => 2000
  | .inferenceTimeout => 2001
  | .inferenceFileReadFailed => 2002
  | .gpuOutOfMemory => 2003
  | .controlFailed => 3000
  | .positionFailed => 3001
  | .actuatorFailed => 4000
  | .logCommitFailed => 5000
  | .commandConflict => 9000
  | .interfaceVersionMismatch => 9001
  | .nodeInitFailed => 9002
  | .masterHeartbeatTimeout => 9003
  | .implementationPending => 9098
  | .internalError => 9099

inductive PauseReason where
  | operator | deviceRecoveryAuto | deviceRecoveryManual | faultRecovery | storageRecovery
  deriving DecidableEq, Repr

inductive ProductPhysicalState where
  | stationAWait | stationADone | flipping | stationBWait | stationBDone | sensor3Wait
  | atSensor3 | actuating | done
  deriving DecidableEq, Repr

def ProductPhysicalState.value : ProductPhysicalState → ℕ
  | .stationAWait => 1
  | .stationADone => 2
  | .flipping => 3
  | .stationBWait => 4
  | .stationBDone => 5
  | .sensor3Wait => 6
  | .atSensor3 => 7
  | .actuating => 8
  | .done => 9

def ProductPhysicalState.name : ProductPhysicalState → String
  | .stationAWait => "STATION_A_WAIT"
  | .stationADone => "STATION_A_DONE"
  | .flipping => "FLIPPING"
  | .stationBWait => "STATION_B_WAIT"
  | .stationBDone => "STATION_B_DONE"
  | .sensor3Wait => "SENSOR3_WAIT"
  | .atSensor3 => "AT_SENSOR3"
  | .actuating => "ACTUATING"
  | .done => "DONE"

inductive PhysicalZone where
  | upperInspection | flipTransfer | lowerInspection | lowerToSensor3
  deriving DecidableEq, Repr

def PhysicalZone.name : PhysicalZone → String
  | .upperInspection => "UPPER_INSPECTION"
  | .flipTransfer => "FLIP_TRANSFER"
  | .lowerInspection => "LOWER_INSPECTION"
  | .lowerToSensor3 => "LOWER_TO_SENSOR3"

inductive StationId where
  | a | b
  deriving DecidableEq, Repr

instance : Fintype StationId := ⟨{.a, .b}, fun s => by cases s <;> decide⟩

def StationId.ofRaw? : ℕ → Option StationId
  | 1 => some .a
  | 2 => some .b
  | _ => none

def StationId.name : StationId → String
  | .a => "A"
  | .b => "B"

inductive ConveyorId where
  | upper | lower
  deriving DecidableEq, Repr

instance : Fintype ConveyorId := ⟨{.upper, .lower}, fun c => by cases c <;> decide⟩

def ConveyorId.ofRaw? : ℕ → Option ConveyorId
  | 1 => some .upper
  | 2 => some .lower
  | _ => none

inductive Verdict where
  | pass | ng | forcedNg
  deriving DecidableEq, Repr

def Verdict.ofRaw? : ℕ → Option Verdict
  | 1 => some .pass
  | 2 => some .ng
  | 3 => some .forcedNg
  | _ => none

def Verdict.name : Verdict → String
  | .pass => "PASS"
  | .ng => "NG"
  | .forcedNg => "FORCED_NG"

end InspectionLine
