import InspectionLine.SystemFsm
import InspectionLine.LineFlow
import InspectionLine.SensorEvents
import InspectionLine.NodeBase
import Mathlib.Logic.Relation

/-! # Supervision of the line: the abstract machine behind Master

What the safety of the line depends on is the system state, the recovery policy, the line
itself, the pending run and queue pause, and what Master has sent. The moves say what
supervision may do with them; the handlers of Master are built from these moves. -/
namespace InspectionLine

def CommandType.raw : CommandType → ℕ
  | .pause => 1
  | .resume => 2
  | .reset => 3

structure GuardReport where
  start : Bool
  resume : Bool
  deriving DecidableEq, Repr

/-- One SYSTEM_STATE_CHANGED event. The line, the sensor registry, the equipment and the guards
at that moment are kept next to what the event carries. -/
structure TransitionRecord where
  transition : SystemTransition
  recoveryPolicy : RecoveryPolicy
  line : PhysicalLine
  sensorEvents : SensorEventRegistry
  equipment : EquipmentSnapshot
  guards : GuardReport

structure CommandRecord where
  command : SystemCommand
  reason : String
  line : PhysicalLine

inductive ActuatorCommand where
  | divertNg | passThrough
  deriving DecidableEq, Repr

inductive OperationGoal where
  | capture (command : CommandHeader) (productId : String) (fifoSequence : ℕ)
      (stationId : StationId) (captureId : String) (requiredCameraIds : List String)
  | actuate (command : CommandHeader) (productId : String) (fifoSequence : ℕ)
      (sensor3EventId : String) (actuatorCommand : ActuatorCommand)
  deriving DecidableEq, Repr

structure GoalRecord where
  goal : OperationGoal
  systemState : SystemState
  deriving DecidableEq, Repr

/-- The branches on which a handler leaves the rules of the line. The first four go on after
a fault that the handler has raised itself. -/
inductive Lapse where
  | expiredCycle | pendingActuation | captureResume | scheduledActuation
  | weakenedLatch | staleReply | unskipped | abandonedRun | blockedResume | reactuated
  deriving DecidableEq, Repr

def Lapse.late : Lapse → Bool
  | .expiredCycle | .pendingActuation | .captureResume | .scheduledActuation => true
  | _ => false

structure ResumeRequest where
  line : PhysicalLine
  pausedByQueue : Bool
  automatic : Bool

/-- What no function of the program reads. -/
structure SupervisionHistory where
  resumeRequests : List ResumeRequest := []
  lapses : List Lapse := []

/-- The lists hold the latest entry first. -/
structure Supervision where
  config : MasterConfig
  systemState : SystemState := .boot
  recoveryPolicy : RecoveryPolicy := .none
  line : PhysicalLine := {}
  sensorEvents : SensorEventRegistry := {}
  equipment : EquipmentSnapshot := {}
  pendingRunConfirmation : Bool := false
  pausedByQueue : Bool := false
  queueRecoveredPending : Bool := false
  uuidsIssued : ℕ := 0
  transitions : List TransitionRecord := []
  commands : List CommandRecord := []
  goals : List GoalRecord := []
  history : SupervisionHistory := {}

/-- A critical fault has asked for a line clear, and none has been applied since. -/
def lineClearLatched : List TransitionRecord → Bool
  | [] => false
  | r :: earlier =>
    if r.transition.event = .resetSucceededEmptyLine then false
    else lineClearLatched earlier ||
      (r.transition.event = .criticalFault && r.recoveryPolicy = .lineClearRequired)

/-- The line when FAULT_STOP was last entered, while it lasts. -/
def lineAtStop : List TransitionRecord → Option PhysicalLine
  | [] => none
  | r :: earlier =>
    if r.transition.current ≠ .faultStop then none
    else if r.transition.previous = .faultStop then lineAtStop earlier
    else some r.line

namespace Supervision

def Noted (v : Supervision) (x : Lapse) : Prop := x ∈ v.history.lapses

def enter (v : Supervision) (t : SystemTransition) (guards : GuardReport) : Supervision :=
  { v with
    systemState := t.current
    transitions := ⟨t, v.recoveryPolicy, v.line, v.sensorEvents, v.equipment, guards⟩ ::
      v.transitions }

def publish (v : Supervision) (command : SystemCommand) (reason : String) : Supervision :=
  { v with
    commands := ⟨command, reason, v.line⟩ :: v.commands
    uuidsIssued := v.uuidsIssued + 1 }

def Accepts (v : Supervision) (t : SystemTransition) : Prop :=
  t.previous = v.systemState ∧ v.systemState.after t.event = some t.current

/-- Work on the line belongs outside FAULT_STOP. -/
def MayWork (v : Supervision) : Prop :=
  v.systemState ≠ .faultStop ∨ ∃ x ∈ v.history.lapses, x.late = true

/-- The events that only change the state. -/
def Plain : SystemEvent → Bool
  | .appStarted | .initDone | .initFailed | .initTimeout | .allConveyorsStopped
  | .resetRequest | .resetFailed | .resetTimeout => true
  | _ => false

def StopsAll (command : SystemCommand) : Prop :=
  command.commandType = CommandType.raw .pause ∧ command.targetConveyorId = allConveyors

def RunsAll (command : SystemCommand) : Prop :=
  command.commandType = CommandType.raw .resume ∧ command.targetConveyorId = allConveyors

theorem conveyor_is_not_all (c : ConveyorId) : c.raw ≠ allConveyors := by cases c <;> decide

/-- A command that starts no conveyor, or only the one of a finished capture. -/
def Safe (v : Supervision) (command : SystemCommand) : Prop :=
  command.commandType ≠ CommandType.raw .resume ∨
    ∃ s cycle, v.line.stationCycles.get? s = some cycle ∧ cycle.phase = .resumePending ∧
      command.targetConveyorId = s.conveyor.raw

/-- The states in which no product has entered the line yet. -/
def BeforeRun (state : SystemState) : Bool :=
  state = .boot || state = .initializing || state = .ready

structure NothingEnters (before after : PhysicalLine) : Prop where
  cycles : ∀ s, before.stationCycles.get? s = none → after.stationCycles.get? s = none
  active : after.ledger.active ⊆ before.ledger.active

structure DefersOnly (before after : PhysicalLine) : Prop where
  ledger : after.ledger = before.ledger
  stationCycles : after.stationCycles = before.stationCycles
  actuationCycles : after.actuationCycles = before.actuationCycles

structure KeepsConfirmation (before after : EquipmentSnapshot) : Prop where
  lineClearConfirmed : after.lineClearConfirmed = before.lineClearConfirmed
  operatorId : after.operatorId = before.operatorId

/-- The moves of supervision, with the debt of the handler that makes them. A fault that asks
for the line to be emptied leaves nothing to be owed to the products but their skips. -/
inductive Move : Supervision × Debt → Supervision × Debt → Prop where
  | transit {v d t guards} (accepted : Accepts v t) (plain : Plain t.event = true)
      (confirmed : t.event = .resetRequest → v.recoveryPolicy = .lineClearRequired →
        v.equipment.lineClearConfirmed = true) :
      Move (v, d) (v.enter t guards, d)
  | grantRun {v d t guards command reason} (accepted : Accepts v t)
      (event : t.event = .startRequest) (granted : guards.start = true)
      (guarded : v.line.ledger.active = [] ∧ v.equipment.lineClearConfirmed = true ∧
        v.equipment.estopAsserted = false) (runs : RunsAll command) :
      Move (v, d)
        ({ v.enter t guards with pendingRunConfirmation := true }.publish command reason, d)
  | grantResume {v d t guards command reason} (automatic : Bool) (accepted : Accepts v t)
      (event : t.event = .resumeRequest ∨ t.event = .deviceRecovered)
      (granted : guards.resume = true)
      (guarded : v.recoveryPolicy ≠ .lineClearRequired ∧ v.equipment.estopAsserted = false)
      (runs : RunsAll command) :
      Move (v, d) ({ v.enter t guards with
        pendingRunConfirmation := true
        history.resumeRequests :=
          ⟨v.line, v.pausedByQueue, automatic⟩ :: v.history.resumeRequests }.publish command reason,
        { d with blocked := d.blocked || automatic })
  | abandonRun {v d t guards} (accepted : Accepts v t)
      (event : t.event = .startFailed ∨ t.event = .resumeFailed) :
      Move (v, d) ({ v.enter t guards with
        pendingRunConfirmation := false
        history.lapses := .abandonedRun :: v.history.lapses }, d)
  | run {v d t guards} (equipment : EquipmentSnapshot) (accepted : Accepts v t)
      (event : t.event = .allConveyorsRunning) (pending : v.pendingRunConfirmation = true)
      (confirmed : KeepsConfirmation v.equipment equipment ∨ equipment.lineClearConfirmed = false)
      (estop : equipment.estopAsserted = v.equipment.estopAsserted) :
      Move (v, d) ({ v.enter t guards with pendingRunConfirmation := false, equipment }, d)
  | pause {v d t guards command reason} (accepted : Accepts v t)
      (event : t.event = .pauseRequest ∨ t.event = .recoverableDeviceFault)
      (stops : StopsAll command) :
      Move (v, d)
        ({ v.enter t guards with pendingRunConfirmation := false }.publish command reason,
          { d with blocked := false })
  | lineClearFault {v d t guards command reason} (e : Debt) (accepted : Accepts v t)
      (event : t.event = .criticalFault) (stops : StopsAll command)
      (unskipped : d.unskipped ⊆ e.unskipped) :
      Move (v, d) (({ v with
        recoveryPolicy := .lineClearRequired
        pendingRunConfirmation := false }.enter t guards).publish command reason, e)
  | equipmentFault {v d t guards command reason} (equipment : EquipmentSnapshot)
      (accepted : Accepts v t) (event : t.event = .criticalFault ∨ t.event = .estopAsserted)
      (unlatched : lineClearLatched v.transitions = false ∨ Noted v .weakenedLatch)
      (confirmed : KeepsConfirmation v.equipment equipment) (stops : StopsAll command) :
      Move (v, d) (({ v with
        equipment
        recoveryPolicy := .equipmentCheckRequired
        pendingRunConfirmation := false }.enter t guards).publish command reason, d)
  | pauseFault {v d t guards command reason} (accepted : Accepts v t)
      (state : v.systemState = .pausing) (event : t.event = .pauseFailed ∨ t.event = .pauseTimeout)
      (stops : StopsAll command) :
      Move (v, d) (({ v with
        recoveryPolicy := .equipmentCheckRequired }.enter t guards).publish command reason, d)
  | lineClear {v d t guards} (nowNs : ℤ) (accepted : Accepts v t)
      (event : t.event = .resetSucceededEmptyLine)
      (policy : v.recoveryPolicy = .lineClearRequired) :
      Move (v, d) ({ { v with
        line := { ledger := (v.line.ledger.clearActive nowNs).2 }
        sensorEvents := v.sensorEvents.reset
        pausedByQueue := false
        queueRecoveredPending := false }.enter t guards with recoveryPolicy := .none }, d)
  | resetInPlace {v d t guards} (accepted : Accepts v t)
      (event : t.event = .resetSucceededInPlace)
      (policy : v.recoveryPolicy ≠ .lineClearRequired) :
      Move (v, d) ({ v.enter t guards with recoveryPolicy := .none }, d)
  | work {v d d'} {line : PhysicalLine} {uuidsIssued : ℕ}
      (working : MayWork v ∨ DefersOnly v.line line)
      (started : BeforeRun v.systemState = false ∨ NothingEnters v.line line)
      (step : LineStep v.config (Noted v .staleReply) (Noted v .unskipped)
        (Noted v .reactuated) ⟨v.line, v.uuidsIssued, d⟩ ⟨line, uuidsIssued, d'⟩) :
      Move (v, d) ({ v with line, uuidsIssued }, d')
  | discharge {v d d'} (paid : Discharge v.config (Noted v .unskipped) v.line d d') :
      Move (v, d) (v, d')
  | unexpire {v d} {s : StationId} (rest : List StationId) (owed : d.expiring = s :: rest)
      (spared : ∀ cycle, v.line.stationCycles.get? s = some cycle →
        cycle.phase ≠ .resumePending ∧
          (v.systemState = .faultStop ∨ v.pausedByQueue = true ∧ d.blocked = false)) :
      Move (v, d) (v, { d with expiring := rest })
  | unblock {v d} (stopped : v.systemState ≠ .runSys)
      (idle : v.systemState = .paused → v.pendingRunConfirmation = false ∨
        Noted v .blockedResume) :
      Move (v, d) (v, { d with blocked := false })
  | owe {v d e} (more : d.Within e) : Move (v, d) (v, e)
  | prune {v d} (cutoffNs : ℤ) :
      Move (v, d) ({ v with line.ledger := (v.line.ledger.pruneRemoved cutoffNs).2 }, d)
  | lapse {v d} (x : Lapse) :
      Move (v, d) ({ v with history.lapses := x :: v.history.lapses }, d)
  | sense {v d} (sensorEvents : SensorEventRegistry) : Move (v, d) ({ v with sensorEvents }, d)
  | report {v d} (equipment : EquipmentSnapshot)
      (confirmed : KeepsConfirmation v.equipment equipment)
      (estop : equipment.estopAsserted = true → v.equipment.estopAsserted = true) :
      Move (v, d) ({ v with equipment }, d)
  | clearConfirmation {v d} (idle : v.pendingRunConfirmation = false) :
      Move (v, d) ({ v with equipment := v.equipment.clearOperatorConfirmation }, d)
  | blockQueue {v d} :
      Move (v, d) ({ v with pausedByQueue := true, queueRecoveredPending := false },
        { d with blocked := true })
  | recoverQueue {v d} : Move (v, d) ({ v with queueRecoveredPending := true }, d)
  | clearQueue {v d} :
      Move (v, d) ({ v with pausedByQueue := false, queueRecoveredPending := false },
        { d with blocked := false })
  | publish {v d command} (reason : String) (safe : Safe v command) :
      Move (v, d) (v.publish command reason, d)
  | send {v d} (goal : OperationGoal) (working : MayWork v) :
      Move (v, d) ({ v with goals := ⟨goal, v.systemState⟩ :: v.goals }, d)
  | draw {v d} : Move (v, d) ({ v with uuidsIssued := v.uuidsIssued + 1 }, d)

abbrev Moves : Supervision × Debt → Supervision × Debt → Prop := Relation.ReflTransGen Move

theorem noted_of_move {x y : Supervision × Debt} (h : Move x y) {l : Lapse}
    (hl : Noted x.1 l) : Noted y.1 l := by
  cases h with
  | abandonRun | lapse => exact List.mem_cons_of_mem _ hl
  | _ => exact hl

theorem noted_of_moves {x y : Supervision × Debt} (h : Moves x y) {l : Lapse}
    (hl : Noted x.1 l) : Noted y.1 l := by
  induction h with
  | refl => exact hl
  | tail _ hmove ih => exact noted_of_move hmove ih

theorem config_of_move {x y : Supervision × Debt} (h : Move x y) :
    y.1.config = x.1.config := by cases h <;> rfl

theorem config_of_moves {x y : Supervision × Debt} (h : Moves x y) :
    y.1.config = x.1.config := by
  induction h with
  | refl => rfl
  | tail _ hmove ih => exact (config_of_move hmove).trans ih

end Supervision

end InspectionLine
