import InspectionLine.ProductLedger

/-! # Running operations of Master and the equipment mirror -/
namespace InspectionLine

inductive StationCyclePhase where
  | waitingPosition | captureGoal | waitingCaptureResult | resumePending
  deriving DecidableEq, Repr

inductive ActuationPhase where
  | goalPending | waitingResult | completed
  deriving DecidableEq, Repr

inductive ShutdownPhase where
  | idle | waitingStop | finalizing | readyToExit | blocked
  deriving DecidableEq, Repr

def StationId.conveyor : StationId → ConveyorId
  | .a => .upper
  | .b => .lower

def ConveyorId.station : ConveyorId → StationId
  | .upper => .a
  | .lower => .b

def ConveyorId.raw : ConveyorId → ℕ
  | .upper => 1
  | .lower => 2

def ConveyorId.name : ConveyorId → String
  | .upper => "UPPER"
  | .lower => "LOWER"

def StationId.raw : StationId → ℕ
  | .a => 1
  | .b => 2

theorem StationId.conveyor_injective : Function.Injective StationId.conveyor := by
  intro s t h
  cases s <;> cases t <;> first | rfl | cases h

abbrev GoalHandle := String

/-- The conveyor is the one under the station. A deadline of zero is disabled. -/
structure StationCycle where
  productId : String
  fifoSequence : ℕ
  stationId : StationId
  positionCommandId : String
  captureId : String
  phase : StationCyclePhase := .waitingPosition
  deadlineNs : ℤ := 0
  captureGoalHandle : Option GoalHandle := none
  deriving DecidableEq, Repr

def StationCycle.conveyorId (cycle : StationCycle) : ConveyorId := cycle.stationId.conveyor

structure ActuationCycle where
  productId : String
  fifoSequence : ℕ
  actuatorJobId : String
  commandId : String
  phase : ActuationPhase := .goalPending
  deadlineNs : ℤ := 0
  goalHandle : Option GoalHandle := none
  deriving DecidableEq, Repr

def deadlinePassed (deadlineNs nowNs : ℤ) : Bool := deadlineNs ≠ 0 && decide (deadlineNs < nowNs)

/-- What Master last heard of the equipment; `none` is not heard of yet. -/
structure EquipmentSnapshot where
  conveyorRunning : ConveyorId → Option Bool := fun _ => none
  conveyorStopped : ConveyorId → Option Bool := fun _ => none
  sensorClear : Fin 3 → Option Bool := fun _ => none
  actuatorSafe : Option Bool := none
  lineClearConfirmed : Bool := false
  estopAsserted : Bool := false
  operatorId : String := ""

namespace EquipmentSnapshot

def markAllStopped (e : EquipmentSnapshot) : EquipmentSnapshot :=
  { e with conveyorStopped := fun _ => some true, conveyorRunning := fun _ => some false }

def markAllRunning (e : EquipmentSnapshot) : EquipmentSnapshot :=
  { e with conveyorRunning := fun _ => some true, conveyorStopped := fun _ => some false }

def simSafe : EquipmentSnapshot :=
  { ({} : EquipmentSnapshot).markAllStopped with
    sensorClear := fun _ => some true
    actuatorSafe := some true
    lineClearConfirmed := true
    operatorId := "sim" }

def allConveyorsStopped (e : EquipmentSnapshot) : Bool :=
  decide (∀ c, e.conveyorStopped c = some true)

def allConveyorsRunning (e : EquipmentSnapshot) : Bool :=
  decide (∀ c, e.conveyorRunning c = some true)

def allSensorsClear (e : EquipmentSnapshot) : Bool := decide (∀ i, e.sensorClear i = some true)

def lineClearGuardsSatisfied (e : EquipmentSnapshot) : Bool :=
  e.lineClearConfirmed && e.allConveyorsStopped && e.allSensorsClear &&
    decide (e.actuatorSafe = some true) && !e.estopAsserted

def inPlaceGuardsSatisfied (e : EquipmentSnapshot) : Bool :=
  e.allConveyorsStopped && decide (e.actuatorSafe = some true) && !e.estopAsserted

def clearOperatorConfirmation (e : EquipmentSnapshot) : EquipmentSnapshot :=
  { e with lineClearConfirmed := false, operatorId := "" }

end EquipmentSnapshot

theorem keyed_empty : ∀ (s : StationId) (cycle : StationCycle),
    OrderedDict.empty.get? s = some cycle → cycle.stationId = s := by simp

/-- The station cycles. A cycle is stored under its own station. -/
structure StationCycles where
  entries : OrderedDict StationId StationCycle := .empty
  keyed : ∀ s cycle, entries.get? s = some cycle → cycle.stationId = s := by
    exact keyed_empty

namespace StationCycles

def get? (cycles : StationCycles) (s : StationId) : Option StationCycle := cycles.entries.get? s

def items (cycles : StationCycles) : List (StationId × StationCycle) := cycles.entries.entries

def set (cycles : StationCycles) (cycle : StationCycle) : StationCycles where
  entries := cycles.entries.insert cycle.stationId cycle
  keyed s other h := by
    rw [OrderedDict.get?_insert] at h
    split at h
    · rename_i hs
      cases h
      exact hs.symm
    · exact cycles.keyed s other h

def pop (cycles : StationCycles) (s : StationId) : StationCycles where
  entries := cycles.entries.erase s
  keyed t other h := by
    rw [OrderedDict.get?_erase] at h
    split at h
    · cases h
    · exact cycles.keyed t other h

theorem get?_set (cycles : StationCycles) (cycle : StationCycle) (s : StationId) :
    (cycles.set cycle).get? s = if s = cycle.stationId then some cycle else cycles.get? s :=
  OrderedDict.get?_insert _ _ _ _

theorem get?_pop (cycles : StationCycles) (s t : StationId) :
    (cycles.pop s).get? t = if t = s then none else cycles.get? t :=
  OrderedDict.get?_erase _ _ _

theorem conveyor_of_get? {cycles : StationCycles} {s : StationId} {cycle : StationCycle}
    (h : cycles.get? s = some cycle) : cycle.conveyorId = s.conveyor := by
  rw [StationCycle.conveyorId, cycles.keyed s cycle h]

end StationCycles

end InspectionLine
