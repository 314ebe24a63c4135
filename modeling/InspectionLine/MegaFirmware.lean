import InspectionLine.MegaSerial
import InspectionLine.InputRuns
import Mathlib.Data.Rat.Defs
import Mathlib.Data.Fin.VecNotation
import Mathlib.Logic.Function.Basic

/-! # The Mega firmware

Each function of the main loop is a step of its own, and the serial port gives one byte a
step, so that every interleaving of commands and ticks is a run. Sent frames are kept with
the servo state at their sending. -/
namespace InspectionLine

open InputRuns MegaSerial

inductive ConveyorState where
  | running
  | positioning
  | waitCamera
  | stopped
  deriving DecidableEq, Repr

def ConveyorState.code : ConveyorState → ℕ
  | .running => 0
  | .positioning => 1
  | .waitCamera => 2
  | .stopped => 3

inductive MotorCommand where
  | idle
  | setSpeed (speed : ℤ)
  | move (relative maxSpeed : ℤ)
  deriving DecidableEq, Repr

structure ConveyorController where
  motor : MotorCommand := .idle
  state : ConveyorState := .stopped
  positionSensorSequence : ℤ := 0
  positionTargetSteps : ℤ := 0
  cameraOffsetSteps : ℤ := 0
  deriving DecidableEq, Repr

structure UltrasonicSensor where
  detectionArmed : Bool := true
  detectionSequence : UInt32 := 0
  lastDistanceCm : ℚ := -1
  deriving DecidableEq, Repr

inductive SonicState where
  | idle
  | waitEchoHigh
  | waitEchoLow
  deriving DecidableEq, Repr

inductive ServoState where
  | ready
  | movingToWork
  | waiting
  | movingHome
  deriving DecidableEq, Repr

/-- What E|STATE tells, as the report compares it with the last one sent. -/
structure EquipmentReport where
  upperState : ConveyorState
  lowerState : ConveyorState
  sensor1Clear : Bool
  sensor2Clear : Bool
  sensor3Clear : Bool
  servoReady : Bool
  deriving DecidableEq, Repr

inductive MegaFrame where
  | acknowledge (sequence : ℤ) (status : String)
  | sensorEvent (sensorId : ℕ) (sensorSequence : UInt32)
  | positionSettled (conveyorId : ℕ) (movedSteps sensorSequence : ℤ)
  | actuationEvent (status : String) (sequence : ℤ)
  | equipmentState (report : EquipmentReport)
  deriving DecidableEq, Repr

def flag (b : Bool) : String := if b then "1" else "0"

def MegaFrame.body : MegaFrame → String
  | .acknowledge sequence status => s!"A|{sequence}|{status}"
  | .sensorEvent sensorId sensorSequence => s!"E|SENSOR|SENSOR_{sensorId}|1|{sensorSequence}|0"
  | .positionSettled conveyorId movedSteps sensorSequence =>
    s!"E|POSITION|{conveyorId}|{movedSteps}|{sensorSequence}"
  | .actuationEvent status sequence => s!"E|ACTUATION|{status}|{sequence}"
  | .equipmentState r =>
    s!"E|STATE|{r.upperState.code}|{r.lowerState.code}|{flag r.sensor1Clear}" ++
      s!"|{flag r.sensor2Clear}|{flag r.sensor3Clear}|{flag r.servoReady}"

/-- Where a frame is sent from: the handling of ACTUATE with its argument, the end of the
servo cycle, or anything else. -/
inductive Origin where
  | actuate (actuatorCommand : ℤ)
  | servoCycle
  | other
  deriving DecidableEq, Repr

structure Emission where
  frame : MegaFrame
  origin : Origin
  servoState : ServoState
  deriving DecidableEq, Repr

structure Mega where
  conveyors : Fin 2 → ConveyorController := fun _ => {}
  sensors : Fin 3 → UltrasonicSensor := fun _ => {}
  sonicState : SonicState := .idle
  activeSensorIndex : Fin 3 := 0
  nextSensorIndex : Fin 3 := 0
  lastGlobalPingUs : UInt32 := 0
  pingStartUs : UInt32 := 0
  echoStartUs : UInt32 := 0
  servoState : ServoState := .ready
  servoStateStartMs : UInt32 := 0
  lastReported : Option EquipmentReport := none
  pendingActuationSequence : ℤ := 0
  rxBuffer : List UInt8 := []
  log : List Emission := []

namespace Mega

def convSpeed : Fin 2 → ℤ := ![3000, -3000]

def detectDistanceCm : ℚ := 10

def releaseDistanceCm : ℚ := 12

def minValidDistanceCm : ℚ := 3 / 2

def maxValidDistanceCm : ℚ := 80

def globalPingIntervalUs : UInt32 := 20000

def echoTimeoutUs : UInt32 := 5000

def servoMoveDelayMs : UInt32 := 500

def servoWaitTimeMs : UInt32 := 3000

def protocolVersion : ℤ := 2

def rxCapacity : ℕ := 160

/-! ### Frames to the host -/

def send (m : Mega) (frame : MegaFrame) (origin : Origin := .other) : Mega :=
  { m with log := m.log ++ [⟨frame, origin, m.servoState⟩] }

def acknowledge (m : Mega) (sequence : ℤ) (status : String) (origin : Origin := .other) : Mega :=
  m.send (.acknowledge sequence status) origin

def sendActuationEvent (m : Mega) (status : String) (sequence : ℤ) (origin : Origin) : Mega :=
  m.send (.actuationEvent status sequence) origin

def equipmentReport (m : Mega) : EquipmentReport where
  upperState := (m.conveyors 0).state
  lowerState := (m.conveyors 1).state
  sensor1Clear := releaseDistanceCm ≤ (m.sensors 0).lastDistanceCm
  sensor2Clear := releaseDistanceCm ≤ (m.sensors 1).lastDistanceCm
  sensor3Clear := releaseDistanceCm ≤ (m.sensors 2).lastDistanceCm
  servoReady := m.servoState = .ready

def updateEquipmentStateReport (m : Mega) : Mega :=
  if m.lastReported = some m.equipmentReport then m
  else { m.send (.equipmentState m.equipmentReport) with lastReported := some m.equipmentReport }

/-! ### Conveyors -/

def setConveyor (m : Mega) (index : Fin 2) (conveyor : ConveyorController) : Mega :=
  { m with conveyors := Function.update m.conveyors index conveyor }

def startContinuousRun (m : Mega) (index : Fin 2) : Mega :=
  m.setConveyor index { m.conveyors index with
    motor := .setSpeed (convSpeed index), state := .running }

def stopConveyor (m : Mega) (index : Fin 2) : Mega :=
  m.setConveyor index { m.conveyors index with state := .stopped }

/-- Whether positioning started; only a running conveyor can begin it. -/
def startAutomaticPosition (m : Mega) (index : Fin 2) (targetSteps sensorSequence : ℤ) :
    Bool × Mega :=
  let conveyor := m.conveyors index
  if conveyor.state ≠ .running then (false, m)
  else
    let offset : ℤ := targetSteps.natAbs
    let signedOffset := if convSpeed index < 0 then -offset else offset
    (true, m.setConveyor index { conveyor with
      motor := .move signedOffset (convSpeed index).natAbs
      positionSensorSequence := sensorSequence
      positionTargetSteps := targetSteps
      state := .positioning })

/-- One motor step; `arrived` is the stepper's `distanceToGo() == 0` after it. -/
def updateConveyor (m : Mega) (index : Fin 2) (arrived : Bool) : Mega :=
  let conveyor := m.conveyors index
  match conveyor.state with
  | .positioning =>
    if arrived then
      (m.setConveyor index { conveyor with state := .waitCamera }).send
        (.positionSettled (index + 1) conveyor.positionTargetSteps
          conveyor.positionSensorSequence)
    else m
  | .running | .waitCamera | .stopped => m

/-! ### Product detection -/

def setSensor (m : Mega) (index : Fin 3) (sensor : UltrasonicSensor) : Mega :=
  { m with sensors := Function.update m.sensors index sensor }

/-- The conveyor that a sensor positions; sensor 3 only reports arrival. -/
def detectionConveyor : Fin 3 → Option (Fin 2) := ![some 0, some 1, none]

def reportDetection (m : Mega) (index : Fin 3) : Mega :=
  let sensor := m.sensors index
  let sequence := sensor.detectionSequence + 1
  (m.setSensor index { sensor with
    detectionArmed := false, detectionSequence := sequence }).send
      (.sensorEvent (index + 1) sequence)

def handleDetection (m : Mega) (index : Fin 3) (distanceCm : ℚ) : Mega :=
  let sensor := m.sensors index
  if releaseDistanceCm ≤ distanceCm then
    m.setSensor index { sensor with detectionArmed := true }
  else if detectDistanceCm < distanceCm ∨ sensor.detectionArmed = false then m
  else
    match detectionConveyor index with
    | none => m.reportDetection index
    | some conveyor =>
      if (m.conveyors conveyor).state ≠ .running then m
      else if 0 < (m.conveyors conveyor).cameraOffsetSteps then
        ((m.reportDetection index).startAutomaticPosition conveyor
          (m.conveyors conveyor).cameraOffsetSteps
          (toLong (sensor.detectionSequence + 1).toNat)).2
      else m.reportDetection index

/-! ### Ultrasonic scheduler -/

/-- One scheduler call: its clock at the start, the echo pin, and the later clock reads. -/
structure SonicSample where
  now : UInt32
  echoHigh : Bool
  echoUs : UInt32
  doneUs : UInt32
  deriving DecidableEq, Repr

/-- The exact distance: no threshold lies within single-precision rounding of the
distance of a whole number of microseconds. -/
def echoDistanceCm (durationUs : UInt32) : ℚ := durationUs.toNat * 343 / 20000

def endPing (m : Mega) (doneUs : UInt32) : Mega :=
  { m with
    lastGlobalPingUs := doneUs
    nextSensorIndex := m.activeSensorIndex + 1
    sonicState := .idle }

def startPing (m : Mega) (index : Fin 3) (nowUs : UInt32) : Mega :=
  { m with activeSensorIndex := index, pingStartUs := nowUs, sonicState := .waitEchoHigh }

def finishPing (m : Mega) (distanceCm : ℚ) (doneUs : UInt32) : Mega :=
  let index := m.activeSensorIndex
  let m := m.setSensor index { m.sensors index with lastDistanceCm := distanceCm }
  let m := if minValidDistanceCm ≤ distanceCm ∧ distanceCm ≤ maxValidDistanceCm then
      m.handleDetection index distanceCm else m
  m.endPing doneUs

def abortPing (m : Mega) (doneUs : UInt32) : Mega :=
  let index := m.activeSensorIndex
  (m.setSensor index { m.sensors index with
    detectionArmed := true, lastDistanceCm := -1 }).endPing doneUs

def updateUltrasonicSensors (m : Mega) (s : SonicSample) : Mega :=
  match m.sonicState with
  | .idle =>
    if s.now - m.lastGlobalPingUs ≥ globalPingIntervalUs then
      m.startPing m.nextSensorIndex s.echoUs else m
  | .waitEchoHigh =>
    if s.echoHigh then { m with echoStartUs := s.echoUs, sonicState := .waitEchoLow }
    else if s.now - m.pingStartUs > echoTimeoutUs then m.abortPing s.doneUs else m
  | .waitEchoLow =>
    if !s.echoHigh then m.finishPing (echoDistanceCm (s.echoUs - m.echoStartUs)) s.doneUs
    else if s.now - m.echoStartUs > echoTimeoutUs then m.abortPing s.doneUs else m

/-! ### Reject cycle -/

def startRejectCycle (m : Mega) (sequence : ℤ) (millis : UInt32) : Bool × Mega :=
  if m.servoState ≠ .ready then (false, m)
  else (true, { m with
    servoState := .movingToWork
    servoStateStartMs := millis
    pendingActuationSequence := sequence })

def updateServo (m : Mega) (now : UInt32) : Mega :=
  match m.servoState with
  | .ready => m
  | .movingToWork =>
    if now - m.servoStateStartMs ≥ servoMoveDelayMs then
      { m with servoState := .waiting, servoStateStartMs := now } else m
  | .waiting =>
    if now - m.servoStateStartMs ≥ servoWaitTimeMs then
      { m with servoState := .movingHome, servoStateStartMs := now } else m
  | .movingHome =>
    if now - m.servoStateStartMs ≥ servoMoveDelayMs then
      { ({ m with servoState := .ready }.sendActuationEvent "OK" m.pendingActuationSequence
        .servoCycle) with pendingActuationSequence := 0 }
    else m

/-! ### Commands of the host -/

def conveyorIndex? (conveyorId : ℤ) : Option (Fin 2) :=
  if conveyorId = 1 then some 0 else if conveyorId = 2 then some 1 else none

def handleHello (m : Mega) (sequence : ℤ) : List (List UInt8) → Mega
  | versionText :: _ =>
    m.acknowledge sequence (if atoi versionText = protocolVersion then "OK" else "ERR_VERSION")
  | [] => m.acknowledge sequence "ERR_VERSION"

def handleSetOffset (m : Mega) (sequence : ℤ) : List (List UInt8) → Mega
  | conveyorText :: stepsText :: _ =>
    match conveyorIndex? (atoi conveyorText) with
    | some index =>
      if 0 < atol stepsText then
        (m.setConveyor index { m.conveyors index with
          cameraOffsetSteps := atol stepsText }).acknowledge sequence "OK"
      else m.acknowledge sequence "ERR"
    | none => m.acknowledge sequence "ERR"
  | _ => m.acknowledge sequence "ERR"

/-- RUN and STOP differ in what they do to the conveyor. -/
def handleConveyorCommand (m : Mega) (sequence : ℤ) (act : Mega → Fin 2 → Mega) :
    List (List UInt8) → Mega
  | conveyorText :: _ =>
    match conveyorIndex? (atoi conveyorText) with
    | some index => (act m index).acknowledge sequence "OK"
    | none => m.acknowledge sequence "ERR"
  | [] => m.acknowledge sequence "ERR"

def handleActuate (m : Mega) (sequence : ℤ) (millis : UInt32) : List (List UInt8) → Mega
  | commandText :: _ =>
    let command := atoi commandText
    if command = 1 then
      let (started, m) := m.startRejectCycle sequence millis
      m.acknowledge sequence (if started then "OK" else "BUSY") (.actuate command)
    else if command = 2 then
      (m.acknowledge sequence "OK" (.actuate command)).sendActuationEvent "OK" sequence
        (.actuate command)
    else m.acknowledge sequence "ERR" (.actuate command)
  | [] => m.acknowledge sequence "ERR"

def handlePosition (m : Mega) (sequence : ℤ) : List (List UInt8) → Mega
  | conveyorText :: stepsText :: _ =>
    match conveyorIndex? (atoi conveyorText) with
    | some index =>
      if 0 < atol stepsText then
        let (started, m) := m.startAutomaticPosition index (atol stepsText) sequence
        m.acknowledge sequence (if started then "OK" else "BUSY")
      else m.acknowledge sequence "ERR"
    | none => m.acknowledge sequence "ERR"
  | _ => m.acknowledge sequence "ERR"

/-- The commands of the host; the arguments are the tokens behind the operation. -/
def dispatch (m : Mega) (sequence : ℤ) (operation : List UInt8) (arguments : List (List UInt8))
    (millis : UInt32) : Mega :=
  if operation = ascii "HELLO" then m.handleHello sequence arguments
  else if operation = ascii "SET_OFFSET" then m.handleSetOffset sequence arguments
  else if operation = ascii "RUN" then
    m.handleConveyorCommand sequence startContinuousRun arguments
  else if operation = ascii "STOP" then m.handleConveyorCommand sequence stopConveyor arguments
  else if operation = ascii "ACTUATE" then m.handleActuate sequence millis arguments
  else if operation = ascii "POSITION" then m.handlePosition sequence arguments
  else m.acknowledge sequence "ERR_COMMAND"

/-- Lines with a wrong checksum, or that are no command, are dropped without an answer. -/
def handleCommand (m : Mega) (line : List UInt8) (millis : UInt32) : Mega :=
  match verifyAndStripCrc line with
  | none => m
  | some body =>
    match strtok body with
    | type :: sequenceText :: operation :: arguments =>
      if type = ascii "C" then m.dispatch (atol sequenceText) operation arguments millis else m
    | _ => m

/-- One received byte. The buffer is read as a C string: up to its first NUL. -/
def receive (m : Mega) (byte : UInt8) (millis : UInt32) : Mega :=
  if byte = carriageReturn then m
  else if byte = newline then
    if m.rxBuffer = [] then m
    else { m.handleCommand (m.rxBuffer.takeWhile (· ≠ 0)) millis with rxBuffer := [] }
  else if m.rxBuffer.length < rxCapacity - 1 then { m with rxBuffer := m.rxBuffer ++ [byte] }
  else { m with rxBuffer := [] }

/-! ### The main loop -/

inductive Tick where
  | serialByte (byte : UInt8) (millis : UInt32)
  | conveyor (index : Fin 2) (arrived : Bool)
  | ultrasonic (sample : SonicSample)
  | servo (millis : UInt32)
  | stateReport
  deriving DecidableEq, Repr

def next (m : Mega) : Tick → Mega
  | .serialByte byte millis => m.receive byte millis
  | .conveyor index arrived => m.updateConveyor index arrived
  | .ultrasonic sample => m.updateUltrasonicSensors sample
  | .servo millis => m.updateServo millis
  | .stateReport => m.updateEquipmentStateReport

/-- What one pass of the loop reads from the board. -/
structure LoopPass where
  received : List (UInt8 × UInt32)
  arrived : Fin 2 → Bool
  sample : SonicSample
  millis : UInt32

def loop (m : Mega) (p : LoopPass) : Mega :=
  let m := p.received.foldl (fun m r => m.receive r.1 r.2) m
  let m := m.updateConveyor 0 (p.arrived 0)
  let m := m.updateConveyor 1 (p.arrived 1)
  let m := m.updateUltrasonicSensors p.sample
  let m := m.updateServo p.millis
  m.updateEquipmentStateReport

def setup : Mega := {}

abbrev Run : Mega → Mega → Prop := Execution next fun _ _ => True

/-- A pass of the loop is a run of its ticks. -/
theorem loop_run (m : Mega) (p : LoopPass) : Run m (m.loop p) := by
  have hreceived : ∀ (received : List (UInt8 × UInt32)) (m : Mega),
      Run m (received.foldl (fun m r => m.receive r.1 r.2) m) := by
    intro received
    induction received with
    | nil => exact fun m => .refl m
    | cons r rest ih =>
      intro m
      exact (Execution.single (e := Tick.serialByte r.1 r.2) trivial).trans (ih _)
  exact (((((hreceived p.received m).tail (.conveyor 0 (p.arrived 0)) trivial).tail
    (.conveyor 1 (p.arrived 1)) trivial).tail (.ultrasonic p.sample) trivial).tail
    (.servo p.millis) trivial).tail .stateReport trivial

end Mega

end InspectionLine
