import InspectionLine.LineSupervision
import InspectionLine.WorkerSupervision
import InspectionLine.StationMessage

/-! # The state of Master

Everything Master keeps between two callbacks, what it is configured with, and what it finds
around it in one callback. A callback reads the clock once. -/
namespace InspectionLine

/-- What happens to a request at its server; an error is the type name of the exception. -/
inductive SendOutcome where
  | unavailable | raised (typeName : String) | sent
  deriving DecidableEq, Repr

theorem iterate_id (scopes : List Scope) : (id scopes).Perm scopes := .refl _

/-- The clock, the servers and the spool file as one callback finds them, and the order in
which it walks through a set. -/
structure Surroundings where
  nowNs : ℤ
  nowNs_nonneg : 0 ≤ nowNs := by decide
  captureServer : SendOutcome := .sent
  actuateServer : String → SendOutcome := fun _ => .sent
  initializeServer : WorkerId → SendOutcome := fun _ => .sent
  statusServer : WorkerId → SendOutcome := fun _ => .sent
  replayServer : SendOutcome := .sent
  spoolOpens : Bool := true
  spoolEnqueues : Bool := true
  spoolReads : Bool := true
  spoolBytes : ℕ := 0
  iterate : List Scope → List Scope := id
  iterate_perm : ∀ scopes, (iterate scopes).Perm scopes := by exact iterate_id

structure OperatorRequest where
  requestId : String
  commandType : ℕ
  reason : String := ""
  operatorId : String := ""
  deriving DecidableEq, Repr

structure OperatorValues where
  accepted : Bool
  systemState : ℕ
  systemStateName : String
  message : String
  deriving DecidableEq, Repr

structure OperatorAnswer where
  requestId : String
  values : OperatorValues
  deriving DecidableEq, Repr

inductive CancellationReason where
  | stationATerminalNg | sensor3Locked | sessionShutdown
  deriving DecidableEq, Repr

structure InferenceCancellation where
  productId : String
  fifoSequence : ℕ
  stationId : ℕ
  reasonCode : CancellationReason
  reason : String
  deriving DecidableEq, Repr

/-- What Master has sent besides system commands and operation goals, latest first. -/
structure Outbox where
  inferenceCancellations : List InferenceCancellation := []
  lockedResults : List LockedProduct := []
  canceledGoals : List GoalHandle := []
  initializeGoals : List (WorkerId × InitializeRequest) := []
  statusRequests : List (WorkerId × String) := []
  replayRequests : List ℕ := []
  operatorAnswers : List OperatorAnswer := []

structure Master extends Supervision where
  around : Surroundings
  healthState : NodeHealthState := .starting
  commandEpoch : ℕ := 0
  resultReorder : ProductResultReorderBuffer := {}
  actuationIdOwners : IdempotencyStore String := .new 4096 IdempotencyStore.default_capacity_pos
  pauseReason : Option PauseReason := none
  shutdownRequested : Bool := false
  pauseDeadlineNs : ℤ := 0
  shutdownDeadlineNs : ℤ := 0
  runConfirmationDeadlineNs : ℤ := 0
  nextContextPruneNs : ℤ
  shutdownPhase : ShutdownPhase := .idle
  logSpoolOpen : Bool := false
  workerStates : WorkerId → WorkerRuntimeState := fun w => { workerId := w }
  initializeGoalHandles : WorkerId → Option GoalHandle := fun _ => none
  reportedWorkerOutages : List WorkerId := []
  initializationCompletionReported : Bool := false
  operatorResults : IdempotencyStore OperatorValues :=
    .new 512 IdempotencyStore.operator_capacity_pos
  stationReplayGeneration : ℕ := 0
  stationReplayCompletedGeneration : ℤ := -1
  stationReplayOffset : ℕ := 0
  stationReplayInflight : Bool := false
  visionOutageAffectedScopes : List Scope := []
  visionOutageResidualScopes : List Scope := []
  outbox : Outbox := {}

def FlowError.message : FlowError → String
  | .valueError message | .productFlowError message | .productIdentityConflict message
  | .stationResultConflict message => message
  | .keyError key => key

namespace Master

def initial (config : MasterConfig) (around : Surroundings) : Master where
  config := config
  equipment := if config.profile = .sim then .simSafe else {}
  around := around
  nextContextPruneNs := around.nowNs + 60000000000
  logSpoolOpen := config.logSpoolPath ≠ "" && around.spoolOpens
  healthState :=
    if config.logSpoolPath ≠ "" then (if around.spoolOpens then .starting else .degraded)
    else if config.profile = .hardware then .degraded else .starting

def sim (m : Master) : Bool := m.config.profile = .sim

def nowNs (m : Master) : ℤ := m.around.nowNs

def setHealthState (m : Master) (state : NodeHealthState) : Master :=
  { m with healthState := state }

def newUuid (m : Master) : String × Master :=
  (m.config.newUuid m.uuidsIssued, { m with uuidsIssued := m.uuidsIssued + 1 })

/-- An event that cannot be stored in the local spool is published all the same. -/
def emitLogEvent (m : Master) : Master :=
  if m.logSpoolOpen && m.around.spoolEnqueues then m else m.setHealthState .degraded

def updateWorker (m : Master) (w : WorkerId) (f : WorkerRuntimeState → WorkerRuntimeState) :
    Master :=
  { m with workerStates := Function.update m.workerStates w (f (m.workerStates w)) }

/-- Runs one method on the context of a product in the ledger. -/
def operate (m : Master) (productId : String) (op : ContextOp) :
    Except FlowError Reply × Master :=
  ((m.line.ledger.operate productId op).1,
    { m with line.ledger := (m.line.ledger.operate productId op).2 })

def setStationCycle (m : Master) (cycle : StationCycle) : Master :=
  { m with line.stationCycles := m.line.stationCycles.set cycle }

def popStationCycle (m : Master) (s : StationId) : Master :=
  { m with line.stationCycles := m.line.stationCycles.pop s }

def setActuationCycle (m : Master) (cycle : ActuationCycle) : Master :=
  { m with line.actuationCycles := m.line.actuationCycles.insert cycle.actuatorJobId cycle }

def deferStationStart (m : Master) (scope : Scope) : Master :=
  { m with line.deferredStationStarts := m.line.deferredStationStarts.insert scope }

def deferCaptureResume (m : Master) (scope : Scope) : Master :=
  { m with line.deferredCaptureResumes := m.line.deferredCaptureResumes.insert scope }

/-- Recorded for the history only: the handler leaves the rules of the line here. -/
def noteIf (m : Master) (lapsed : Bool) (lapse : Lapse) : Master :=
  if lapsed then { m with history.lapses := lapse :: m.history.lapses } else m

/-- Recorded for the history only: all conveyors of a paused line are about to run again. -/
def noteResumeRequest (m : Master) (automatic : Bool) : Master :=
  { m with history.resumeRequests :=
      ⟨m.line, m.pausedByQueue, automatic⟩ :: m.history.resumeRequests }

/-- With the policy on, a product on the line has not been marked to skip Station B. -/
def lacksSkip (m : Master) (productId : String) : Bool :=
  m.config.skipStationBAfterStationANg &&
    (m.line.ledger.getById productId).any fun c => !c.removed && !c.stationBSkipRequested

def cancelGoal (m : Master) (handle : GoalHandle) : Master :=
  { m with outbox.canceledGoals := handle :: m.outbox.canceledGoals }

def fillCommandHeader (m : Master) (commandId : String) (payload : List (String × String)) :
    CommandHeader where
  sessionId := m.config.sessionId
  commandId := commandId
  commandEpoch := m.commandEpoch
  payloadDigest := m.config.payloadDigest payload

def systemCommand (m : Master) (commandType : CommandType) (reason : String)
    (targetConveyorId : ℕ) : SystemCommand where
  command := m.fillCommandHeader m.newUuid.1
    [("command_type", toString commandType.raw), ("epoch", toString m.commandEpoch),
      ("reason", reason), ("target_conveyor_id", toString targetConveyorId)]
  commandType := commandType.raw
  targetConveyorId := targetConveyorId

def publishSystemCommand (m : Master) (commandType : CommandType) (reason : String)
    (targetConveyorId : ℕ) : Master :=
  { m with toSupervision :=
      m.toSupervision.publish (m.systemCommand commandType reason targetConveyorId) reason }

def publishInferenceCancellation (m : Master) (c : ProductContext) (stationId : ℕ)
    (reasonCode : CancellationReason) (reason : String) : Master :=
  { m with outbox.inferenceCancellations :=
      { productId := c.productId, fifoSequence := c.fifoSequence, stationId, reasonCode, reason }
        :: m.outbox.inferenceCancellations }

def validateFifoAlignment (m : Master) : Bool := m.line.ledger.validateAlignment

def allWorkersReadyForSession (m : Master) : Bool :=
  WorkerId.all.all fun w => (m.workerStates w).ready &&
    (m.workerStates w).canMarkReady m.config.sessionId m.config.expectedInterfaceVersion
      m.commandEpoch m.nowNs (fromMs m.config.nodeHeartbeatTimeoutMs)

def startGuardsSatisfied (m : Master) : Bool :=
  decide (m.systemState = .ready) && m.allWorkersReadyForSession &&
    (m.sim || m.config.hardwareMappingConfirmed) &&
    decide ((m.config.stationCameraIds .a).length = 3) &&
    decide ((m.config.stationCameraIds .b).length = 1) && m.logSpoolOpen &&
    decide (m.line.ledger.activeSize = 0) && m.equipment.lineClearConfirmed &&
    m.equipment.allConveyorsStopped && m.equipment.allSensorsClear &&
    decide (m.equipment.actuatorSafe = some true) && !m.equipment.estopAsserted

def verifyResumeConditions (m : Master) : Bool :=
  decide (m.systemState = .paused) && m.allWorkersReadyForSession &&
    m.equipment.inPlaceGuardsSatisfied && m.validateFifoAlignment &&
    decide (m.recoveryPolicy ≠ .lineClearRequired) &&
    !(m.pausedByQueue && !m.queueRecoveredPending)

/-- The common duties of a transition: the health it implies and its log event. -/
def onSystemStateEntered (m : Master) (t : SystemTransition) : Master :=
  let guards : GuardReport := ⟨m.startGuardsSatisfied, m.verifyResumeConditions⟩
  let m : Master := { m with toSupervision := m.toSupervision.enter t guards }
  (match t.current with
    | .ready | .runSys => m.setHealthState .ready
    | .resetting => m.setHealthState .recovering
    | .faultStop => m.setHealthState .fault
    | _ => m).emitLogEvent

/-- `none` is the rejection of an event that the table does not accept. -/
def applySystemEvent (m : Master) (event : SystemEvent) (reason : String) : Option Master :=
  (decideSystemTransition m.systemState event reason).map m.onSystemStateEntered

/-- A late operation in FAULT_STOP is logged and dropped; `none` lets the caller go on. -/
def ignoreOperationWhileFaultStopped (m : Master) : Option Master :=
  if m.systemState ≠ .faultStop then none else some m.emitLogEvent

/-- The handles of running capture goals, and of running actuation goals if asked for. -/
def cancelTrackedOperationGoals (m : Master) (includeActuation : Bool) : Master :=
  let captures := m.line.stationCycles.items.filterMap fun entry => entry.2.captureGoalHandle
  let actuations := m.line.actuationCycles.values.filterMap fun cycle =>
    if cycle.phase ≠ .completed then cycle.goalHandle else none
  (captures ++ if includeActuation then actuations else []).foldl cancelGoal m

end Master

end InspectionLine
