import InspectionLine.MasterControl

/-! # Initializing and supervising the workers -/
namespace InspectionLine

structure GoalReply where
  accepted : Bool
  handle : GoalHandle
  deriving DecidableEq, Repr

structure InitializeReply where
  success : Bool
  nodeId : String
  errorCode : ℕ
  reason : String
  interfaceVersion : String
  softwareVersion : String
  requestId : String
  activeSessionId : String
  retryable : Bool
  deriving DecidableEq, Repr

structure NodeHeartbeat where
  nodeId : String
  nodeInstanceId : String
  sessionId : String
  sequence : ℕ
  healthState : ℕ
  interfaceVersion : String
  deriving DecidableEq, Repr

namespace Master

def reportInitializationFailed (m : Master) (reason : String) (timedOut : Bool) : Master :=
  let event : SystemEvent := if timedOut then .initTimeout else .initFailed
  (m.applySystemEvent event reason).getD m

def retryInterval (m : Master) : ℤ := fromMs m.config.initRetryIntervalMs

def scheduleInitializeRetry (m : Master) (w : WorkerId) (reason : String)
    (errorCode : ℕ := ErrorCode.nodeInitFailed.value) (timedOut : Bool := false)
    (manualInterventionRequired : Bool := false) : Master :=
  let handle := m.initializeGoalHandles w
  let m := { m with initializeGoalHandles := Function.update m.initializeGoalHandles w none }
  let m := if timedOut then handle.elim m m.cancelGoal else m
  let m := m.updateWorker w fun state => state.scheduleRetry m.nowNs m.retryInterval errorCode
    reason manualInterventionRequired
  if m.systemState = .initializing then m.reportInitializationFailed reason timedOut else m

def workerInitializationAllowed (m : Master) (w : WorkerId) : Bool :=
  match m.systemState with
  | .initializing | .ready | .paused | .resetting => true
  | .runSys => w = .log
  | _ => false

def initializeRequest (m : Master) (w : WorkerId) : InitializeRequest where
  requestId := (m.workerStates w).requestId
  retryOfRequestId := (m.workerStates w).retryOfRequestId
  sessionId := m.config.sessionId
  configVersion := m.config.configVersion
  configDigest := m.config.configDigest
  expectedInterfaceVersion := m.config.expectedInterfaceVersion

def sendInitializeGoal (m : Master) (w : WorkerId) (attempt : ℕ) : Master :=
  if !m.workerInitializationAllowed w then m
  else
    let (requestId, m) := m.newUuid
    let m := m.updateWorker w fun state =>
      state.beginAttempt requestId attempt m.nowNs (fromMs m.config.initTimeoutMs)
    match m.around.initializeServer w with
    | .unavailable =>
      m.scheduleInitializeRetry w "InitializeNode Action server is unavailable"
    | .raised typeName =>
      m.scheduleInitializeRetry w ("failed to send InitializeNode Goal: " ++ typeName)
    | .sent =>
      { m with outbox.initializeGoals := (w, m.initializeRequest w) :: m.outbox.initializeGoals }

def startWorkerInitialization (m : Master) : Master :=
  if m.systemState ≠ .initializing then m
  else
    let m := { m with
      initializationCompletionReported := false
      reportedWorkerOutages := []
      workerStates := fun w => { workerId := w } }
    WorkerId.all.foldl (fun m w => m.sendInitializeGoal w 1) m

def handleInitializeGoalResponse (m : Master) (w : WorkerId) (requestId : String)
    (response : Except String GoalReply) : Master :=
  let state := m.workerStates w
  if state.requestId ≠ requestId ∨ state.phase ≠ .waitingGoalResponse then m
  else match response with
  | .error typeName =>
    m.scheduleInitializeRetry w ("InitializeNode Goal response failed: " ++ typeName)
  | .ok reply =>
    if !reply.accepted then m.scheduleInitializeRetry w "InitializeNode Goal was rejected"
    else
      let m := m.updateWorker w fun state => state.markGoalAccepted
      { m with
        initializeGoalHandles :=
          Function.update m.initializeGoalHandles w (some reply.handle) }

def requestWorkerStatus (m : Master) (w : WorkerId) : Master :=
  let state := m.workerStates w
  if !state.actionReady ∨ state.phase ≠ .waitingStatus then m
  else match m.around.statusServer w with
  | .unavailable =>
    m.updateWorker w fun state => state.scheduleStatusPoll m.nowNs m.retryInterval
  | .raised typeName =>
    let (requestId, m) := m.newUuid
    let m := m.updateWorker w fun state => state.beginStatusCheck requestId
    m.scheduleInitializeRetry w ("GetNodeStatus request failed: " ++ typeName)
  | .sent =>
    let (requestId, m) := m.newUuid
    let m := m.updateWorker w fun state => state.beginStatusCheck requestId
    { m with outbox.statusRequests := (w, requestId) :: m.outbox.statusRequests }

def handleInitializeResult (m : Master) (w : WorkerId) (requestId : String)
    (result : Except String InitializeReply) : Master :=
  let state := m.workerStates w
  if state.requestId ≠ requestId ∨ state.phase ≠ .waitingResult then m
  else
    let m := { m with initializeGoalHandles := Function.update m.initializeGoalHandles w none }
    match result with
    | .error typeName =>
      m.scheduleInitializeRetry w ("InitializeNode Result failed: " ++ typeName)
    | .ok result =>
      if result.requestId ≠ requestId ∨ result.nodeId ≠ w.value then
        m.scheduleInitializeRetry w "InitializeNode Result identity mismatch"
          ErrorCode.commandConflict.value false true
      else if !result.success then
        m.scheduleInitializeRetry w
          (if result.reason = "" then "worker initialization failed" else result.reason)
          result.errorCode false (!result.retryable)
      else if result.interfaceVersion ≠ m.config.expectedInterfaceVersion then
        m.scheduleInitializeRetry w ("interface version mismatch: expected=" ++
          m.config.expectedInterfaceVersion ++ ", actual=" ++ result.interfaceVersion)
          ErrorCode.interfaceVersionMismatch.value false true
      else if result.activeSessionId ≠ m.config.sessionId then
        m.scheduleInitializeRetry w "InitializeNode Result session mismatch"
      else
        (m.updateWorker w fun state => state.markActionReady result.interfaceVersion
          result.softwareVersion result.activeSessionId result.reason m.nowNs
          (fromMs m.config.initTimeoutMs)).requestWorkerStatus w

/-- The two answers are whether the worker counts as ready now. -/
def tryMarkWorkerReady (m : Master) (w : WorkerId) : Bool × Master :=
  if !(m.workerStates w).canMarkReady m.config.sessionId m.config.expectedInterfaceVersion
      m.commandEpoch m.nowNs (fromMs m.config.nodeHeartbeatTimeoutMs) then (false, m)
  else
    let m := if (m.workerStates w).ready then m
      else m.updateWorker w fun state => state.markReady
    let m := m.maybeCompleteInitialization
    (true,
      if (m.systemState = .ready ∨ m.systemState = .runSys ∨ m.systemState = .paused) ∧
          m.allWorkersReadyForSession ∧ m.logSpoolOpen then m.setHealthState .ready else m)

def pollStatusAgain (m : Master) (w : WorkerId) : Master :=
  m.updateWorker w fun state => state.scheduleStatusPoll m.nowNs m.retryInterval

def handleWorkerStatus (m : Master) (w : WorkerId) (requestId : String)
    (response : Except String NodeStatus) : Master :=
  let state := m.workerStates w
  if state.phase ≠ .waitingStatus ∨ state.statusRequestId ≠ requestId then m
  else
    let m := m.updateWorker w fun state => { state with statusRequestId := "" }
    match response with
    | .error _ => m.pollStatusAgain w
    | .ok response =>
      if response.nodeId ≠ w.value then
        m.scheduleInitializeRetry w "GetNodeStatus node_id mismatch"
          ErrorCode.commandConflict.value false true
      else if response.interfaceVersion ≠ m.config.expectedInterfaceVersion then
        m.scheduleInitializeRetry w "GetNodeStatus interface version mismatch"
          ErrorCode.interfaceVersionMismatch.value false true
      else if response.activeSessionId ≠ m.config.sessionId then
        m.scheduleInitializeRetry w "GetNodeStatus session mismatch"
      else match NodeHealthState.ofRaw? response.healthState with
      | none =>
        m.scheduleInitializeRetry w "GetNodeStatus contains invalid health_state"
          ErrorCode.nodeInitFailed.value false true
      | some healthState =>
        let m := m.updateWorker w fun state => state.recordStatus response healthState
        if !response.ready ∨ !response.masterHeartbeatAlive then m.pollStatusAgain w
        else match m.tryMarkWorkerReady w with
        | (true, m) => m
        | (false, m) => m.pollStatusAgain w

/-- Every worker but a restarting one has to prove itself again under the new epoch. -/
def advanceCommandEpoch (m : Master) (reason : String)
    (restartingWorker : Option WorkerId := none) (reinitializeAllWorkers : Bool := false) :
    Master :=
  { m with
    commandEpoch := m.commandEpoch + 1
    workerStates := fun w =>
      let state := m.workerStates w
      if restartingWorker = some w then state
      else if reinitializeAllWorkers then
        state.scheduleRetry m.nowNs m.retryInterval ErrorCode.nodeInitFailed.value
          ("reinitialize after command epoch change: " ++ reason) false
      else state.invalidateEpochEvidence m.nowNs m.retryInterval }

/-- Products under a Vision outage, and those whose station had already come to rest. -/
def recordVisionOutageResidency (m : Master) : Master :=
  m.line.stationCycles.items.foldl (fun m (s, cycle) =>
    match m.line.ledger.get cycle.productId cycle.fifoSequence with
    | none => m
    | some context =>
      if (context.station s).resultCompleted then m
      else { m with
        visionOutageAffectedScopes :=
          m.visionOutageAffectedScopes.insert (context.productId, s)
        visionOutageResidualScopes :=
          if (context.station s).positionSettled then
            m.visionOutageResidualScopes.insert (context.productId, s)
          else m.visionOutageResidualScopes }) m

section Confirmed

variable (stopped : Master → Master)

def handleWorkerUnavailable (m : Master) (w : WorkerId) (reason : String) (restarted : Bool)
    (versionMismatch : Bool := false) : Master :=
  let m := m.updateWorker w fun state => { state with ready := false, statusVerified := false }
  let m := { m with reportedWorkerOutages := m.reportedWorkerOutages.insert w }
  if m.systemState = .initializing then
    if (m.workerStates w).phase = .retryWait then m
    else m.scheduleInitializeRetry w reason
      (if versionMismatch then ErrorCode.interfaceVersionMismatch.value
        else ErrorCode.nodeInitFailed.value) false versionMismatch
  else
    let m := m.updateWorker w fun state => state.scheduleRetry m.nowNs m.retryInterval
      ErrorCode.nodeInitFailed.value reason false
    let m := if w = .vision then m.recordVisionOutageResidency else m
    if w = .control ∧ (m.systemState = .runSys ∨ m.systemState = .pausing) then
      (m.reportCriticalFault stopped reason .lineClearRequired).2
    else if w = .vision ∧ m.systemState = .runSys then
      (m.requestRecoverableDevicePause stopped reason
        (if restarted then .deviceRecoveryManual else .deviceRecoveryAuto)).2
    else m.setHealthState .degraded

/-- A restarted process: Vision and Log terminals are replayed, and the epoch moves on. -/
def handleWorkerRestart (m : Master) (w : WorkerId) : Master :=
  let m := if w = .vision ∨ w = .log then { m with
      stationReplayGeneration := m.stationReplayGeneration + 1
      stationReplayOffset := 0
      stationReplayInflight := false } else m
  (m.advanceCommandEpoch (w.value ++ " process restart") (some w)).handleWorkerUnavailable stopped
    w (w.value ++ " process restarted") true

def handleWorkerHeartbeat (m : Master) (w : WorkerId) (message : NodeHeartbeat) : Master :=
  if message.nodeId ≠ w.value then m
  else if message.interfaceVersion ≠ m.config.expectedInterfaceVersion then
    (m.updateWorker w fun state => { state with
      interfaceVersion := message.interfaceVersion }).handleWorkerUnavailable stopped w
      (w.value ++ " interface version mismatch") true true
  else match NodeHealthState.ofRaw? message.healthState with
  | none => m
  | some healthState =>
    let accepted := (m.workerStates w).acceptHeartbeat message.nodeInstanceId message.sequence
      healthState message.interfaceVersion message.sessionId m.nowNs
    let m := m.updateWorker w fun _ => accepted.2
    if !accepted.1.accepted then m
    else
      let recovered := decide (w ∈ m.reportedWorkerOutages)
      let m := { m with reportedWorkerOutages := m.reportedWorkerOutages.erase w }
      if accepted.1.restarted then m.handleWorkerRestart stopped w
      else if healthState ≠ .ready then
        if (m.workerStates w).ready then
          m.handleWorkerUnavailable stopped w
            (w.value ++ " health changed to " ++ healthState.name) false
        else m
      else if recovered ∧ (m.workerStates w).actionReady then
        (m.updateWorker w fun state => { state with
          phase := .waitingStatus }).requestWorkerStatus w
      else if (m.workerStates w).statusVerified then (m.tryMarkWorkerReady w).2
      else m

/-- One worker at a watchdog tick: timeout, status poll, retry, or a heartbeat that went
missing during the initialization. -/
def advanceWorkerInitialization (m : Master) (w : WorkerId) : Master :=
  let state := m.workerStates w
  let waiting := decide (state.phase = .waitingGoalResponse ∨ state.phase = .waitingResult ∨
    state.phase = .waitingStatus)
  if waiting && deadlinePassed state.deadlineNs m.nowNs then
    m.scheduleInitializeRetry w "worker initialization timed out"
      ErrorCode.nodeInitFailed.value true
  else if state.phase = .waitingStatus ∧ state.statusRequestId = "" ∧
      state.statusPollDueNs ≠ 0 ∧ state.statusPollDueNs ≤ m.nowNs then m.requestWorkerStatus w
  else if state.phase = .retryWait ∧ state.retryDueNs ≤ m.nowNs ∧
      m.workerInitializationAllowed w then m.sendInitializeGoal w (state.attempt + 1)
  else if m.systemState = .initializing ∧ state.phase = .ready ∧
      !state.heartbeatIsFresh m.nowNs (fromMs m.config.nodeHeartbeatTimeoutMs) then
    m.scheduleInitializeRetry w "worker heartbeat expired during initialization"
      ErrorCode.nodeInitFailed.value true
  else m

def checkWorkerHeartbeat (m : Master) (w : WorkerId) : Master :=
  if (m.workerStates w).heartbeatIsFresh m.nowNs (fromMs m.config.nodeHeartbeatTimeoutMs) then m
  else if w ∈ m.reportedWorkerOutages then m
  else m.handleWorkerUnavailable stopped w (w.value ++ " heartbeat timeout") false

def checkWorkerHeartbeats (m : Master) : Master :=
  let m := WorkerId.all.foldl advanceWorkerInitialization m
  if m.systemState = .boot ∨ m.systemState = .initializing ∨ m.systemState = .faultStop then m
  else WorkerId.all.foldl (checkWorkerHeartbeat stopped) m

end Confirmed

end Master

end InspectionLine
