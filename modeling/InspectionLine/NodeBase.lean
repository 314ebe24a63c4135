import InspectionLine.Constants
import InspectionLine.Idempotency
import Mathlib.Data.String.Defs

/-! # The common part of a worker node

Heartbeat liveness, system commands and the initialize action of a worker. What a subclass
or the middleware decides during an initialization is an input of the step. -/
namespace InspectionLine

def isLowerHex (c : Char) : Bool := ('0' ≤ c && c ≤ '9') || ('a' ≤ c && c ≤ 'f')

def isHexDigit (c : Char) : Bool := isLowerHex c || ('A' ≤ c && c ≤ 'F')

/-- The canonical hyphenated form, version 4 and the RFC variant, in either letter case. -/
def isUuid4 (value : String) : Bool :=
  value.toList.length = 36 && value.toList.zipIdx.all fun (c, i) =>
    if i = 8 ∨ i = 13 ∨ i = 18 ∨ i = 23 then c = '-'
    else if i = 14 then c = '4'
    else if i = 19 then c ∈ ['8', '9', 'a', 'b', 'A', 'B']
    else isHexDigit c

def isSha256Hex (value : String) : Bool :=
  value.toList.length = 64 && value.toList.all isLowerHex

structure MasterHeartbeat where
  sessionId : String
  masterInstanceId : String
  interfaceVersion : String
  commandEpoch : ℕ
  systemState : ℕ
  deriving DecidableEq, Repr

inductive CommandType where
  | pause | resume | reset
  deriving DecidableEq, Repr

def CommandType.ofRaw? : ℕ → Option CommandType
  | 1 => some .pause
  | 2 => some .resume
  | 3 => some .reset
  | _ => none

structure CommandHeader where
  sessionId : String
  commandId : String
  commandEpoch : ℕ
  payloadDigest : String
  deriving DecidableEq, Repr

structure SystemCommand where
  command : CommandHeader
  commandType : ℕ
  targetConveyorId : ℕ
  deriving DecidableEq, Repr

def allConveyors : ℕ := 0

structure InitializeRequest where
  requestId : String
  retryOfRequestId : String := ""
  sessionId : String
  configVersion : String
  configDigest : String
  expectedInterfaceVersion : String
  deriving DecidableEq, Repr

/-- The fields a repeated request_id must match. -/
structure InitializeSignature where
  retryOfRequestId : String
  sessionId : String
  configVersion : String
  configDigest : String
  expectedInterfaceVersion : String
  deriving DecidableEq, Repr

def InitializeRequest.signature (r : InitializeRequest) : InitializeSignature where
  retryOfRequestId := r.retryOfRequestId
  sessionId := r.sessionId
  configVersion := r.configVersion
  configDigest := r.configDigest
  expectedInterfaceVersion := r.expectedInterfaceVersion

structure InitializeValues where
  success : Bool
  errorCode : ErrorCode
  reason : String
  retryable : Bool
  deriving DecidableEq, Repr

structure NodeInitializationOutcome where
  success : Bool
  reason : String
  retryable : Bool := false
  errorCode : ErrorCode := .none
  deriving DecidableEq, Repr

/-- What happens around one run of the action: a cancel request, the hardware keys missing
from the profile, and the outcome of the two extension points (an error is the type name of
the exception they raised). -/
structure InitializeSurroundings where
  cancelRequested : Bool := false
  missingKeys : List String := []
  resources : Except String NodeInitializationOutcome
  sessionCleanup : Except String Unit := .ok ()

def InitializeSurroundings.resourceOutcome (around : InitializeSurroundings) :
    NodeInitializationOutcome :=
  match around.resources with
  | .ok outcome => outcome
  | .error exc => {
      success := false, errorCode := .nodeInitFailed
      reason := "resource initialization raised " ++ exc, retryable := true }

inductive GoalStatus where
  | succeeded | aborted | canceled
  deriving DecidableEq, Repr

structure InitializeResult where
  values : InitializeValues
  requestId : String
  interfaceVersion : String
  activeSessionId : String
  status : GoalStatus
  deriving DecidableEq, Repr

structure Worker where
  interfaceVersion : String
  masterHeartbeatTimeoutMs : ℕ
  healthState : NodeHealthState := .starting
  sessionId : String := ""
  configVersion : String := ""
  configDigest : String := ""
  commandEpoch : ℕ := 0
  systemState : SystemState := .boot
  lastMasterHeartbeatNs : Option ℤ := none
  lastMasterInstanceId : String := ""
  initializeRequests : OrderedDict String (InitializeSignature × InitializeValues) := .empty
  initializeInProgress : Bool := false
  seenSystemCommands : IdempotencyStore Bool := .new 4096 IdempotencyStore.default_capacity_pos

namespace Worker

def handleMasterHeartbeat (w : Worker) (m : MasterHeartbeat) (nowNs : ℤ) : Worker :=
  if m.interfaceVersion ≠ w.interfaceVersion then w
  else if w.sessionId ≠ "" ∧ m.sessionId ≠ w.sessionId then w
  else if m.commandEpoch < w.commandEpoch then w
  else
    let w := { w with commandEpoch := m.commandEpoch, lastMasterInstanceId := m.masterInstanceId }
    match SystemState.ofRaw? m.systemState with
    | none => { w with healthState := .fault }
    | some state => { w with systemState := state, lastMasterHeartbeatNs := some nowNs }

/-- A command that is new and not from an older epoch. -/
def applySystemCommand (w : Worker) (m : SystemCommand) : Worker :=
  let w := { w with
    seenSystemCommands :=
      (w.seenSystemCommands.remember m.command.commandId m.command.payloadDigest true).getD
        w.seenSystemCommands
    commandEpoch := m.command.commandEpoch }
  if m.targetConveyorId ≠ allConveyors then w
  else match CommandType.ofRaw? m.commandType with
    | some .pause => { w with systemState := .pausing }
    | some .resume => { w with systemState := .runSys }
    | some .reset => { w with systemState := .resetting, healthState := .recovering }
    | none => w

def handleSystemCommand (w : Worker) (m : SystemCommand) : Worker :=
  if m.command.sessionId ≠ w.sessionId ∨ w.sessionId = "" then w
  else if !isUuid4 m.command.commandId || !isSha256Hex m.command.payloadDigest then w
  else
    let (replay, store) :=
      w.seenSystemCommands.inspect m.command.commandId m.command.payloadDigest
    let w := { w with seenSystemCommands := store }
    match replay.kind with
    | .conflict => { w with healthState := .fault }
    | .replay => w
    | .new => if m.command.commandEpoch < w.commandEpoch then w else w.applySystemCommand m

def masterHeartbeatAlive (w : Worker) (nowNs : ℤ) : Bool :=
  match w.lastMasterHeartbeatNs with
  | none => false
  | some last => decide (nowNs - last ≤ (w.masterHeartbeatTimeoutMs : ℤ) * 1000000)

def checkMasterHeartbeat (w : Worker) (nowNs : ℤ) : Worker :=
  if w.healthState = .ready ∧ w.masterHeartbeatAlive nowNs = false then
    { w with healthState := .degraded }
  else w

def handleInitializeGoal (w : Worker) (request : InitializeRequest) : Bool × Worker :=
  if !isUuid4 request.requestId || !isUuid4 request.sessionId then (false, w)
  else if request.retryOfRequestId ≠ "" ∧ isUuid4 request.retryOfRequestId = false then (false, w)
  else if request.retryOfRequestId = request.requestId then (false, w)
  else if w.initializeInProgress then (false, w)
  else (true, { w with initializeInProgress := true })

def initFailure (code : ErrorCode) (reason : String) (retryable : Bool) : InitializeValues :=
  { success := false, errorCode := code, reason, retryable }

/-- The validation and the two extension points, with the session they leave. -/
def runInitialization (w : Worker) (request : InitializeRequest)
    (around : InitializeSurroundings) : InitializeValues × Worker :=
  if request.expectedInterfaceVersion ≠ w.interfaceVersion then
    (initFailure .interfaceVersionMismatch ("expected=" ++ request.expectedInterfaceVersion ++
      ", actual=" ++ w.interfaceVersion) false, w)
  else if request.configVersion = "" ∨ isSha256Hex request.configDigest = false then
    (initFailure .nodeInitFailed
      "config_version and lowercase SHA-256 config_digest are required" true, w)
  else if around.missingKeys ≠ [] then
    (initFailure .nodeInitFailed
      ("missing hardware configuration: " ++ ", ".intercalate around.missingKeys) true,
      { w with healthState := .initBlocked })
  else
    let outcome := around.resourceOutcome
    if !outcome.success then
      (initFailure outcome.errorCode outcome.reason outcome.retryable,
        { w with healthState := .initBlocked })
    else match around.sessionCleanup with
      | .error _ =>
        -- the session fields are put back before the failure is reported
        (initFailure .nodeInitFailed "post-initialization session cleanup failed" true,
          { w with healthState := .initBlocked })
      | .ok _ =>
        ({ success := true, errorCode := .none, reason := outcome.reason, retryable := false },
          { w with
            sessionId := request.sessionId
            configVersion := request.configVersion
            configDigest := request.configDigest
            healthState := .ready
            systemState := .ready })

def fillInitializeResult (w : Worker) (requestId : String) (values : InitializeValues)
    (status : GoalStatus) : InitializeResult where
  values := values
  requestId := requestId
  interfaceVersion := w.interfaceVersion
  activeSessionId := w.sessionId
  status := status

def completion (values : InitializeValues) : GoalStatus :=
  if values.success then .succeeded else .aborted

def executeInitialize (w : Worker) (request : InitializeRequest)
    (around : InitializeSurroundings) : InitializeResult × Worker :=
  let done := { w with initializeInProgress := false }
  match w.initializeRequests.get? request.requestId with
  | some (signature, cached) =>
    if signature ≠ request.signature then
      (w.fillInitializeResult request.requestId (initFailure .commandConflict
        "same request_id received with different payload" false) .aborted, done)
    else (w.fillInitializeResult request.requestId cached (completion cached), done)
  | none =>
    if around.cancelRequested then
      (w.fillInitializeResult request.requestId
        (initFailure .nodeInitFailed "initialization canceled" true) .canceled, done)
    else
      let (values, next) := w.runInitialization request around
      (next.fillInitializeResult request.requestId values (completion values),
        { next with
          initializeInProgress := false
          initializeRequests :=
            next.initializeRequests.insert request.requestId (request.signature, values) })

/-- The envelope check of an equipment command. -/
def validateCommandHeader (w : Worker) (command : CommandHeader) (allowed : List SystemState) :
    Except (ErrorCode × String) Unit :=
  if w.healthState ≠ .ready then .error (.nodeInitFailed, "node is not READY")
  else if command.sessionId ≠ w.sessionId then .error (.commandConflict, "session_id mismatch")
  else if command.commandEpoch ≠ w.commandEpoch then
    .error (.commandConflict, "command_epoch mismatch")
  else if !isUuid4 command.commandId then .error (.commandConflict, "command_id must be UUIDv4")
  else if !isSha256Hex command.payloadDigest then
    .error (.commandConflict, "payload_digest must be SHA-256")
  else if w.systemState ∉ allowed then
    .error (.commandConflict, "equipment command is not allowed in " ++ w.systemState.name)
  else .ok ()

end Worker

/-- What reaches the common part of a worker node. -/
inductive NodeEvent where
  | masterHeartbeat (m : MasterHeartbeat) (nowNs : ℤ)
  | systemCommand (m : SystemCommand)
  | initializeGoal (request : InitializeRequest)
  | executeInitialize (request : InitializeRequest) (around : InitializeSurroundings)
  | checkMasterHeartbeat (nowNs : ℤ)
  | setHealthState (state : NodeHealthState)

def Worker.handle (w : Worker) : NodeEvent → Worker
  | .masterHeartbeat m now => w.handleMasterHeartbeat m now
  | .systemCommand m => w.handleSystemCommand m
  | .initializeGoal request => (w.handleInitializeGoal request).2
  | .executeInitialize request around => (w.executeInitialize request around).2
  | .checkMasterHeartbeat now => w.checkMasterHeartbeat now
  | .setHealthState state => { w with healthState := state }

end InspectionLine
