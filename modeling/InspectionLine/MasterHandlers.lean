import InspectionLine.MasterStations
import InspectionLine.InputRuns

/-! # The callbacks of Master and its runs -/
namespace InspectionLine

structure SensorEvent where
  sessionId : String
  eventId : String
  sensorId : String
  edge : ℕ
  sensorSequence : ℕ
  estimatedStep : ℤ
  observedAt : ℤ × ℤ := (0, 0)
  deriving DecidableEq, Repr

structure EquipmentState where
  sessionId : String
  upperRunning : Bool
  upperStopped : Bool
  lowerRunning : Bool
  lowerStopped : Bool
  sensorClear : Fin 3 → Bool
  actuatorSafe : Bool

structure EquipmentUpdate where
  conveyorRunning : ConveyorId → Option Bool := fun _ => none
  conveyorStopped : ConveyorId → Option Bool := fun _ => none
  sensorClear : Fin 3 → Option Bool := fun _ => none
  actuatorSafe : Option Bool := none
  estopAsserted : Option Bool := none

structure StationResultMessage where
  sessionId : String
  facts : StationMessageFacts

structure StationFailureMessage where
  sessionId : String
  facts : StationMessageFacts
  errorCode : ℕ
  reason : String

structure ReplayResponse where
  success : Bool
  results : List StationResultMessage := []
  failures : List StationFailureMessage := []
  nextOffset : ℕ := 0
  hasMore : Bool := false

def EquipmentState.update (message : EquipmentState) : EquipmentUpdate where
  conveyorRunning
    | .upper => some message.upperRunning
    | .lower => some message.lowerRunning
  conveyorStopped
    | .upper => some message.upperStopped
    | .lower => some message.lowerStopped
  sensorClear i := some (message.sensorClear i)
  actuatorSafe := some message.actuatorSafe

def EquipmentState.running (message : EquipmentState) : ConveyorId → Bool
  | .upper => message.upperRunning
  | .lower => message.lowerRunning

def EquipmentSnapshot.updated (e : EquipmentSnapshot) (u : EquipmentUpdate) : EquipmentSnapshot :=
  { e with
    conveyorRunning := fun c => (u.conveyorRunning c).or (e.conveyorRunning c)
    conveyorStopped := fun c => (u.conveyorStopped c).or (e.conveyorStopped c)
    sensorClear := fun i => (u.sensorClear i).or (e.sensorClear i)
    actuatorSafe := u.actuatorSafe.or e.actuatorSafe
    estopAsserted := u.estopAsserted.getD e.estopAsserted }

namespace Master

section Confirmed

variable (stopped : Master → Master)

/-! ### Sensors -/

/-- The first eight characters of the session and the sequence in six digits. -/
def productIdOf (m : Master) (fifoSequence : ℕ) : String :=
  let digits := (toString fifoSequence).toList
  "P-" ++ String.ofList (m.config.sessionId.toList.take 8) ++ "-" ++
    String.ofList (List.replicate (6 - digits.length) '0' ++ digits)

def handleSensor1Entry (m : Master) (message : SensorEvent) : Master :=
  if m.systemState ≠ .runSys ∧ m.systemState ≠ .pausing then m
  else if m.config.fifoHardCapacity ≤ m.line.ledger.activeSize then
    m.faultStop stopped "FIFO hard capacity exceeded while accepting Sensor1 event"
  else
    let fifoSequence := m.line.ledger.nextSequence
    let productId := m.productIdOf fifoSequence
    match m.line.ledger.register productId fifoSequence with
    | (.error _, _) => m
    | (.ok _, ledger) =>
      let m : Master := { m with line.ledger := ledger }
      let m := (m.operate productId
        (.recordSensor 1 message.eventId message.estimatedStep)).2.emitLogEvent
      if m.config.fifoSoftLimit ≤ m.line.ledger.activeSize then
        let fifoSize := m.line.ledger.activeSize
        let m := m.deferStationStart (productId, .a)
        if m.systemState = .runSys then
          (m.requestRecoverableDevicePause stopped ("FIFO soft limit reached (" ++
            toString fifoSize ++ "/" ++ toString m.config.fifoHardCapacity ++ ")")
            .deviceRecoveryManual).2
        else m
      else m.startStationCycle stopped productId fifoSequence .a

def handleSensor2Entry (m : Master) (message : SensorEvent) : Master :=
  if m.systemState ≠ .runSys ∧ m.systemState ≠ .pausing then m
  else match m.line.ledger.oldestInState .flipping with
  | .error exc => m.faultStop stopped ("Sensor2/FIFO mismatch: " ++ exc.message)
  | .ok context =>
    match m.operate context.productId
      (.acceptSensor2 message.eventId message.estimatedStep) with
    | (.error exc, m) => m.faultStop stopped ("Sensor2/FIFO mismatch: " ++ exc.message)
    | (.ok _, m) =>
      let m := m.emitLogEvent
      let bypassed := (m.line.ledger.getById context.productId).any fun context =>
        context.physicalState = .sensor3Wait
      if bypassed then m.emitLogEvent
      else m.startStationCycle stopped context.productId context.fifoSequence .b

def acceptLocked (m : Master) (locked : LockedProduct) : Master :=
  match m.resultReorder.add locked with
  | (.error exc, _) => m.faultStop stopped ("locked result reorder conflict: " ++ exc.message)
  | (.ok readyResults, resultReorder) =>
    readyResults.foldl (fun m ready =>
      { m with outbox.lockedResults := ready :: m.outbox.lockedResults }.emitLogEvent)
      { m with resultReorder }

def handleSensor3Entry (m : Master) (message : SensorEvent) : Master :=
  if m.systemState ≠ .runSys ∧ m.systemState ≠ .pausing then m
  else match m.line.ledger.oldestInState .sensor3Wait with
  | .error exc => m.faultStop stopped ("Sensor3/FIFO mismatch: " ++ exc.message)
  | .ok context =>
    match m.operate context.productId
      (.lockAtSensor3 message.eventId message.estimatedStep) with
    | (.ok (.locked locked), m) =>
      let m := (m.publishInferenceCancellation context 0 .sensor3Locked
        "Sensor3 locked the product result").acceptLocked stopped locked
      (m.noteIf (m.systemState = .faultStop) .scheduledActuation).scheduleActuation stopped locked
    | (.error exc, m) => m.faultStop stopped ("Sensor3/FIFO mismatch: " ++ exc.message)
    | (.ok _, m) => m

/-- The role of a physical sensor in the process. -/
def resolveSensorIndex (m : Master) (sensorId : String) : Option (Fin 3) :=
  (List.finRange 3).find? fun i => m.config.sensorIds i = sensorId

def sensorDigest (m : Master) (message : SensorEvent) : String :=
  m.config.payloadDigest
    [("edge", toString message.edge), ("estimated_step", toString message.estimatedStep),
      ("event_id", message.eventId), ("observed_at", toString message.observedAt),
      ("sensor_id", message.sensorId), ("sensor_sequence", toString message.sensorSequence)]

def handleSensorEvent (m : Master) (message : SensorEvent) : Master :=
  if message.sessionId ≠ m.config.sessionId then m
  else match m.resolveSensorIndex message.sensorId with
  | none => m
  | some sensorIndex =>
    let (outcome, sensorEvents) := m.sensorEvents.accept message.sensorId message.eventId
      message.sensorSequence (m.sensorDigest message)
    let m : Master := { m with sensorEvents }
    match outcome with
    | .duplicate => m
    | .accepted =>
      if message.edge ≠ m.config.acceptedSensorEdge then m
      else match sensorIndex with
      | 0 => m.handleSensor1Entry stopped message
      | 1 => m.handleSensor2Entry stopped message
      | 2 => m.handleSensor3Entry stopped message
    | outcome => m.faultStop stopped ("sensor event integrity failure: sensor=" ++
        message.sensorId ++ ", event=" ++ message.eventId ++ ", outcome=" ++ outcome.value)

/-! ### Reset -/

def reportResetFailed (m : Master) (reason : String) (timedOut : Bool := false) : Master :=
  let event : SystemEvent := if timedOut then .resetTimeout else .resetFailed
  (m.applySystemEvent event reason).getD m

def reportResetSucceeded (m : Master) (lineCleared : Bool) : Bool × Master :=
  let event : SystemEvent :=
    if lineCleared then .resetSucceededEmptyLine else .resetSucceededInPlace
  match m.applySystemEvent event "reset guard completed" with
  | none => (false, m)
  | some m =>
    let m := { m with recoveryPolicy := .none }
    (true, if lineCleared then { m with pauseReason := none }
      else { m with pauseReason := some .faultRecovery }.setHealthState .ready)

/-- Forgets the products, the sensor events and the cycles of a line that has been emptied. -/
def clearLine (m : Master) : Master :=
  let ledger := (m.line.ledger.clearActive m.nowNs).2
  { m with
    line := { ledger }
    sensorEvents := m.sensorEvents.reset
    resultReorder := m.resultReorder.reset ledger.nextSequence (Nat.succ_pos _)
    actuationIdOwners := .new 4096 IdempotencyStore.default_capacity_pos
    pausedByQueue := false
    queueRecoveredPending := false }

def nonresidualReason : String :=
  "Vision ended before station motor stop; product is non-residual and is not recaptured"

/-- How a station cycle survives an in-place reset; true is a capture given up for good. -/
def recoverStation (m : Master) (s : StationId) (cycle : StationCycle)
    (context : ProductContext) : Except FlowError Bool × Master :=
  let scope := (cycle.productId, s)
  if cycle.phase = .resumePending then (.ok false, m.deferCaptureResume scope)
  else if (context.station s).resultCompleted then
    match m.operate cycle.productId (.promoteCaptureCompletionFromVision s) with
    | (.error exc, m) => (.error exc, m)
    | (.ok _, m) => (.ok false,
        (m.setStationCycle { cycle with phase := .resumePending }).deferCaptureResume scope)
  else if scope ∈ m.visionOutageAffectedScopes ∧ scope ∉ m.visionOutageResidualScopes then
    match m.operate cycle.productId (.markCaptureFailed s cycle.captureId nonresidualReason) with
    | (.error exc, m) => (.error exc, m)
    | (.ok _, m) => (.ok true,
        (m.setStationCycle { cycle with phase := .resumePending }).deferCaptureResume scope)
  else
    match m.operate cycle.productId (.resetUnfinishedStationCycle s) with
    | (.error exc, m) => (.error exc, m)
    | (.ok _, m) => (.ok false, (m.popStationCycle s).deferStationStart scope)

/-- Every cycle in turn; the scopes are the captures given up, and `none` a failed recovery. -/
def recoverStations : List (StationId × StationCycle) → Master → Option (List Scope) × Master
  | [], m => (some [], m)
  | (s, cycle) :: rest, m =>
    let cycle := { cycle with deadlineNs := 0 }
    let m := m.setStationCycle cycle
    match m.line.ledger.get cycle.productId cycle.fifoSequence with
    | none => (none, (m.reportCriticalFault stopped
        "in-place reset found an unknown station product" .lineClearRequired).2)
    | some context =>
      match m.recoverStation s cycle context with
      | (.error exc, m) => (none, (m.reportCriticalFault stopped
          ("in-place station recovery failed: " ++ exc.message) .lineClearRequired).2)
      | (.ok givenUp, m) =>
        let (scopes, m) := recoverStations rest m
        let m := m.noteIf (scopes.isNone && givenUp && s = .a && m.lacksSkip cycle.productId)
          .unskipped
        (scopes.map fun scopes =>
          if givenUp then (cycle.productId, s) :: scopes else scopes, m)

/-- The goals that were not answered lose their deadline until they are sent again. -/
def disableActuationDeadlines (m : Master) : Master :=
  m.line.actuationCycles.values.foldl (fun m cycle =>
    if cycle.phase = .goalPending then m.setActuationCycle { cycle with deadlineNs := 0 } else m) m

def prepareInPlaceRecovery (m : Master) : Bool × Master :=
  if m.line.actuationCycles.values.any fun cycle => cycle.phase = .waitingResult then
    (false, (m.reportCriticalFault stopped
      "in-place reset rejected: accepted actuation result is unknown" .lineClearRequired).2)
  else
    let m := m.cancelTrackedOperationGoals false
    match recoverStations stopped m.line.stationCycles.items m with
    | (none, m) => (false, m)
    | (some givenUp, m) =>
      let m := givenUp.foldl (fun m scope =>
        m.emitLogEvent.cancelAfterStation stopped scope.2 scope.1 nonresidualReason) m
      let m := { m with visionOutageAffectedScopes := [], visionOutageResidualScopes := [] }
      (true, m.disableActuationDeadlines)

def confirmResetCompleted (m : Master) : Bool × Master :=
  if m.systemState ≠ .resetting then (false, m)
  else if m.recoveryPolicy = .lineClearRequired then
    if !m.equipment.lineClearGuardsSatisfied then
      (false, m.reportResetFailed "line clear guards are incomplete")
    else (m.cancelTrackedOperationGoals true).clearLine.emitLogEvent.reportResetSucceeded true
  else if !(m.equipment.inPlaceGuardsSatisfied && m.validateFifoAlignment) then
    (false, m.reportResetFailed "in-place reset guards are incomplete")
  else match m.prepareInPlaceRecovery stopped with
  | (false, m) => (false, m)
  | (true, m) =>
    { m with pausedByQueue := false, queueRecoveredPending := false }.reportResetSucceeded false

def startResetSequence (m : Master) (reason : String) : Master :=
  let m := (m.advanceCommandEpoch "reset sequence started" none true).publishSystemCommand .reset
    reason allConveyors
  if m.sim then (m.confirmResetCompleted stopped).2 else m

def verifyResetEntryConditions (m : Master) : Bool :=
  decide (m.systemState = .faultStop) &&
    match m.recoveryPolicy with
    | .lineClearRequired => m.equipment.lineClearGuardsSatisfied
    | .equipmentCheckRequired | .retryInPlace =>
      m.equipment.inPlaceGuardsSatisfied && m.validateFifoAlignment
    | .none => false

def requestReset (m : Master) (reason : String) : Bool × Master :=
  if !m.verifyResetEntryConditions then (false, m)
  else match m.applySystemEvent .resetRequest reason with
  | none => (false, m)
  | some m => (true, m.startResetSequence stopped reason)

/-! ### Equipment reports -/

/-- Cycles that waited for a conveyor which has just started to run. -/
def confirmPendingResume (m : Master) (conveyor : ConveyorId) : Master :=
  m.line.stationCycles.items.foldl (fun m (s, cycle) =>
    if cycle.conveyorId = conveyor ∧ cycle.phase = .resumePending then
      (m.confirmConveyorResumed stopped cycle.productId s).2 else m) m

def updateEquipmentSnapshot (m : Master) (u : EquipmentUpdate) : Master :=
  let m := { m with equipment := m.equipment.updated u }
  if u.estopAsserted = some true then (m.reportEstopAsserted stopped).2 else m

def resetGuardsSatisfied (m : Master) : Bool :=
  if m.recoveryPolicy = .lineClearRequired then m.equipment.lineClearGuardsSatisfied
  else m.equipment.inPlaceGuardsSatisfied && m.validateFifoAlignment

def handleEquipmentState (m : Master) (message : EquipmentState) : Master :=
  if message.sessionId ≠ m.config.sessionId then m
  else
    let wasRunning := m.equipment.conveyorRunning
    let started := fun conveyor =>
      message.running conveyor && decide (wasRunning conveyor ≠ some true)
    let m := m.updateEquipmentSnapshot stopped message.update
    let m := if started .upper then m.confirmPendingResume stopped .upper else m
    let m := if started .lower then m.confirmPendingResume stopped .lower else m
    let m := if m.pendingRunConfirmation && m.equipment.allConveyorsRunning then
        (m.confirmAllConveyorsRunning stopped).2 else m
    let m := if m.equipment.allConveyorsStopped then m.confirmAllConveyorsStopped stopped else m
    if m.systemState = .resetting ∧ m.resetGuardsSatisfied then
      (m.confirmResetCompleted stopped).2 else m

/-! ### Queue state, operator and shutdown -/

/-- A capture deadline that was disabled while the queue was full runs again. -/
def restartCaptureDeadlines (m : Master) : Master :=
  m.line.stationCycles.items.foldl (fun m (_, cycle) =>
    if cycle.phase = .waitingCaptureResult ∧ cycle.deadlineNs = 0 then
      m.setStationCycle { cycle with deadlineNs := m.nowNs + fromMs m.config.captureTimeoutMs }
    else m) m

def handleQueueState (m : Master) (sessionId : String) (state : ℕ)
    (blockedFrameBatchId : String) : Master :=
  if sessionId ≠ m.config.sessionId then m
  else if m.systemState = .faultStop then m
  else if state = 2 then
    if m.pausedByQueue then m
    else
      let m := m.noteIf (m.systemState = .paused && m.pendingRunConfirmation) .blockedResume
      { m with pausedByQueue := true, queueRecoveredPending := false }.pause stopped
        ("Vision queue full; preserving FrameBatch " ++ blockedFrameBatchId)
  else if state = 1 ∧ m.pausedByQueue then
    let m := { m with queueRecoveredPending := true }.restartCaptureDeadlines
    if m.systemState = .paused then m.resumeAfterQueueRecovery stopped else m
  else m

def requestInitialize (m : Master) (reason : String) : Bool × Master :=
  match m.applySystemEvent .appStarted reason with
  | none => (false, m)
  | some m => (true, m.startWorkerInitialization)

def confirmLineCleared (m : Master) (operatorId : String) : Bool × Master :=
  if operatorId = "" ∨ (m.systemState ≠ .ready ∧ m.systemState ≠ .faultStop) then (false, m)
  else
    let equipment := { m.equipment with lineClearConfirmed := true, operatorId := operatorId }
    (equipment.lineClearGuardsSatisfied, { m with equipment }.emitLogEvent)

/-- The command itself; `none` is an unknown command_type. -/
def operatorHandler (m : Master) (request : OperatorRequest) (reason : String) :
    Option (Bool × Master) :=
  match request.commandType with
  | 1 => some (m.requestInitialize reason)
  | 2 => some (m.requestRun stopped reason)
  | 3 => some (m.requestPause stopped reason)
  | 4 => some (m.requestResume stopped reason)
  | 5 => some (m.requestReset stopped reason)
  | 6 => some (m.confirmLineCleared request.operatorId)
  | _ => none

def operatorValues (m : Master) (accepted : Bool) (message : String) : OperatorValues where
  accepted := accepted
  systemState := m.systemState.raw
  systemStateName := m.systemState.name
  message := message

def answerOperator (m : Master) (requestId : String) (values : OperatorValues) : Master :=
  { m with outbox.operatorAnswers := ⟨requestId, values⟩ :: m.outbox.operatorAnswers }

def runOperatorCommand (m : Master) (request : OperatorRequest) : Bool × String × Master :=
  let reason := if request.reason = "" then "operator command" else request.reason
  if request.commandType = 6 ∧ request.operatorId = "" then
    (false, "operator_id is required for line-clear confirmation", m)
  else match m.operatorHandler stopped request reason with
  | none => (false, "unknown operator command_type", m)
  | some (accepted, m) =>
    (accepted, if accepted then reason ++ ": accepted"
      else reason ++ ": rejected by current state or safety guard", m)

def handleOperatorCommand (m : Master) (request : OperatorRequest) : Master :=
  let (fresh, issued) := m.newUuid
  let (requestId, m) := if request.requestId = "" then (fresh, issued) else (request.requestId, m)
  if !isUuid4 requestId then
    m.answerOperator requestId (m.operatorValues false "request_id must be empty or UUIDv4")
  else
    let digest := m.config.payloadDigest [("command_type", toString request.commandType),
      ("operator_id", request.operatorId), ("reason", request.reason)]
    let (replay, operatorResults) := m.operatorResults.inspect requestId digest
    let m := { m with operatorResults }
    match replay.kind, replay.result with
    | .conflict, _ => m.answerOperator requestId
        (m.operatorValues false "same request_id received with another payload")
    | .replay, some values => m.answerOperator requestId values
    | _, _ =>
      let (accepted, message, m) := m.runOperatorCommand stopped request
      let values := m.operatorValues accepted message
      let stored := m.operatorResults.remember requestId digest values
      { m with operatorResults := stored.getD m.operatorResults }.answerOperator requestId values

def awaitShutdownStop (m : Master) : Master :=
  { m with
    shutdownPhase := .waitingStop
    shutdownDeadlineNs := m.nowNs + fromMs m.config.shutdownStopTimeoutMs }

def beginShutdownSequence (m : Master) : Master :=
  if m.shutdownPhase ≠ .idle then m
  else if m.systemState = .runSys then
    match m.awaitShutdownStop.requestPause stopped "shutdown safe stop" with
    | (true, m) => m
    | (false, m) => { m with shutdownPhase := .blocked }
  else if m.systemState = .pausing then
    m.awaitShutdownStop.requestAllConveyorsStop stopped "shutdown awaiting safe stop"
  else if !m.equipment.allConveyorsStopped then
    m.awaitShutdownStop.requestAllConveyorsStop stopped "shutdown stop confirmation"
  else m.finalizeShutdownSequence stopped

def requestShutdown (m : Master) : Master :=
  if m.shutdownRequested then m
  else { m with shutdownRequested := true }.beginShutdownSequence stopped

/-! ### Deadlines -/

def pruneContexts (m : Master) : Master :=
  if m.nowNs < m.nextContextPruneNs then m
  else
    let cutoffNs := m.nowNs - fromMs m.config.completedContextRetentionMs
    { m with
      line.ledger := (m.line.ledger.pruneRemoved cutoffNs).2
      nextContextPruneNs := m.nowNs + 60000000000 }

def checkPauseDeadline (m : Master) : Master :=
  if deadlinePassed m.pauseDeadlineNs m.nowNs ∧ m.systemState = .pausing then
    ({ m with pauseDeadlineNs := 0 }.reportPauseFailed stopped
      "conveyor stop confirmation timed out" true).2
  else m

def checkRunDeadline (m : Master) : Master :=
  if deadlinePassed m.runConfirmationDeadlineNs m.nowNs ∧ m.pendingRunConfirmation then
    ({ m with runConfirmationDeadlineNs := 0 }.reportRunFailed
      "conveyor RUN confirmation timed out").2
  else m

/-- The safe stop of a shutdown was not confirmed in time. -/
def shutdownOverdue (m : Master) : Bool :=
  deadlinePassed m.shutdownDeadlineNs m.nowNs && decide (m.shutdownPhase = .waitingStop)

def checkShutdownDeadline (m : Master) : Master :=
  if m.shutdownOverdue then
    ({ m with shutdownDeadlineNs := 0, shutdownPhase := .blocked }.reportCriticalFault stopped
      "shutdown blocked because safe stop was not confirmed" .equipmentCheckRequired).2
  else m

def expireStationCycle (m : Master) (s : StationId) : Master :=
  match m.line.stationCycles.get? s with
  | none => m
  | some cycle =>
    if !deadlinePassed cycle.deadlineNs m.nowNs then m
    else
      let m := (m.noteIf (m.systemState = .faultStop) .expiredCycle).setStationCycle
        { cycle with deadlineNs := 0 }
      match cycle.phase with
      | .captureGoal | .waitingCaptureResult =>
        if m.pausedByQueue then m
        else (cycle.captureGoalHandle.elim m m.cancelGoal).finishCaptureFailure stopped s
          "CaptureProduct timed out"
      | .waitingPosition =>
        if m.equipment.conveyorRunning cycle.conveyorId = some true then
          m.pauseStationForRecovery stopped s (cycle.conveyorId.name ++ " conveyor " ++
            "PositionSettled timed out while still RUNNING; positioning never started")
        else m.faultStop stopped (cycle.conveyorId.name ++ " conveyor " ++
          "PositionSettled timed out after leaving RUNNING; physical position is unknown")
      | .resumePending =>
        ((m.deferCaptureResume (cycle.productId, s)).requestRecoverableDevicePause stopped
          (cycle.conveyorId.name ++ " conveyor RUN confirmation timed out")
          .deviceRecoveryManual).2

def expireActuationCycle (m : Master) (actuatorJobId : String) : Master :=
  match m.line.actuationCycles.get? actuatorJobId with
  | none => m
  | some cycle =>
    if !deadlinePassed cycle.deadlineNs m.nowNs then m
    else
      let m := (m.noteIf (m.systemState = .faultStop) .expiredCycle).setActuationCycle
        { cycle with deadlineNs := 0 }
      match cycle.phase with
      | .waitingResult =>
        m.faultStop stopped "ActuateProduct timed out after Goal acceptance"
      | .goalPending => (m.requestRecoverableDevicePause stopped
          "ActuateProduct Goal response timed out" .deviceRecoveryManual).2
      | .completed => m

def checkOperationDeadlines (m : Master) : Master :=
  let m := ((m.pruneContexts.checkPauseDeadline stopped).checkRunDeadline).checkShutdownDeadline
    stopped
  if m.systemState = .faultStop then m
  else
    let m := (m.line.stationCycles.items.map Prod.fst).foldl (expireStationCycle stopped) m
    m.line.actuationCycles.keys.foldl (expireActuationCycle stopped) m

/-! ### Replay of terminals -/

def requestStationResultReplay (m : Master) : Master :=
  if !(m.workerStates .log).ready ∨ m.stationReplayInflight ∨
      m.stationReplayCompletedGeneration = m.stationReplayGeneration ∨
      m.config.sessionId = "" ∨ m.around.replayServer = .unavailable then m
  else match m.around.replayServer with
  | .sent => { m with
      stationReplayInflight := true
      outbox.replayRequests := m.stationReplayOffset :: m.outbox.replayRequests }
  | _ => { m with stationReplayInflight := false }

def handleStationResultReplay (m : Master) (generation : ℕ)
    (response : Except String ReplayResponse) : Master :=
  let m := { m with stationReplayInflight := false }
  if generation ≠ m.stationReplayGeneration then m
  else match response with
  | .error _ => m
  | .ok response =>
    if !response.success then m
    else
      let m := response.results.foldl
        (fun m message => m.handleStationResult stopped message.sessionId message.facts) m
      let m := response.failures.foldl (fun m message => m.handleStationFailure stopped
        message.sessionId message.facts message.errorCode message.reason) m
      let m := { m with stationReplayOffset := response.nextOffset }
      if response.hasMore then m
      else { m with stationReplayCompletedGeneration := generation }.emitLogEvent

end Confirmed

end Master

/-- Everything that can call Master: messages, replies of servers, timers, the operator. -/
inductive MasterCall where
  | operatorCommand (request : OperatorRequest)
  | sensorEvent (message : SensorEvent)
  | positionSettled (sessionId : String) (conveyorId : ℕ)
  | equipmentState (message : EquipmentState)
  | equipmentUpdate (update : EquipmentUpdate)
  | captureFeedback (s : StationId) (captureId : String) (stage : ℕ) (frameBatchId : String)
  | captureGoalResponse (s : StationId) (captureId : String) (response : Except String GoalReply)
  | captureResult (s : StationId) (captureId : String) (result : Except String CaptureResult)
  | stationResult (message : StationResultMessage)
  | stationFailure (message : StationFailureMessage)
  | actuationGoalResponse (actuatorJobId commandId : String) (response : Except String GoalReply)
  | actuationResult (actuatorJobId commandId : String) (result : Except String ActuationResult)
  | queueState (sessionId : String) (state : ℕ) (blockedFrameBatchId : String)
  | workerHeartbeat (w : WorkerId) (message : NodeHeartbeat)
  | initializeGoalResponse (w : WorkerId) (requestId : String)
      (response : Except String GoalReply)
  | initializeResult (w : WorkerId) (requestId : String)
      (result : Except String InitializeReply)
  | workerStatus (w : WorkerId) (requestId : String) (response : Except String NodeStatus)
  | replayResponse (generation : ℕ) (response : Except String ReplayResponse)
  | checkWorkerHeartbeats
  | checkOperationDeadlines
  | requestStationResultReplay
  | flushLogSpool
  | requestShutdown

structure MasterEvent where
  call : MasterCall
  around : Surroundings

namespace Master

/-- One callback, with the given treatment of confirmed stops. -/
def handle (stopped : Master → Master) (m : Master) : MasterCall → Master
  | .operatorCommand request => m.handleOperatorCommand stopped request
  | .sensorEvent message => m.handleSensorEvent stopped message
  | .positionSettled sessionId conveyorId => m.handlePositionSettled stopped sessionId conveyorId
  | .equipmentState message => m.handleEquipmentState stopped message
  | .equipmentUpdate update => m.updateEquipmentSnapshot stopped update
  | .captureFeedback s captureId stage batch =>
    m.handleCaptureFeedback stopped s captureId stage batch
  | .captureGoalResponse s captureId response =>
    m.handleCaptureGoalResponse stopped s captureId response
  | .captureResult s captureId result => m.handleCaptureResult stopped s captureId result
  | .stationResult message => m.handleStationResult stopped message.sessionId message.facts
  | .stationFailure message =>
    m.handleStationFailure stopped message.sessionId message.facts message.errorCode message.reason
  | .actuationGoalResponse job command response =>
    m.handleActuationGoalResponse stopped job command response
  | .actuationResult job command result => m.handleActuationResult stopped job command result
  | .queueState sessionId state batch => m.handleQueueState stopped sessionId state batch
  | .workerHeartbeat w message => m.handleWorkerHeartbeat stopped w message
  | .initializeGoalResponse w requestId response =>
    m.handleInitializeGoalResponse w requestId response
  | .initializeResult w requestId result => m.handleInitializeResult w requestId result
  | .workerStatus w requestId response => m.handleWorkerStatus w requestId response
  | .replayResponse generation response => m.handleStationResultReplay stopped generation response
  | .checkWorkerHeartbeats => m.checkWorkerHeartbeats stopped
  | .checkOperationDeadlines => m.checkOperationDeadlines stopped
  | .requestStationResultReplay => m.requestStationResultReplay
  | .flushLogSpool => m.flushLogSpool stopped
  | .requestShutdown => m.requestShutdown stopped

/-- Stop confirmations nest at most this deep, as `nested_stops_settle` shows. -/
def stopDepth : ℕ := 4

def next (m : Master) (e : MasterEvent) : Master :=
  handle (whenStopped stopDepth) { m with around := e.around } e.call

/-- Callbacks are serialized and may come in any order. -/
abbrev Run : Master → Master → Prop := InputRuns.Execution next fun _ _ => True

/-- The states of all runs of one Master process. -/
def Reachable (m : Master) : Prop := ∃ config around, Run (initial config around) m

end Master

end InspectionLine
