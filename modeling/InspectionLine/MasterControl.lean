import InspectionLine.MasterState

/-! # Stopping, pausing, resuming and resetting the line

In the sim profile a stop request is confirmed at once, and the confirmation may lead to the
next stop request. The functions take the confirmation as the parameter `stopped`, and
`whenStopped` ties the knot. -/
namespace InspectionLine

namespace Master

section Confirmed

variable (stopped : Master → Master)

def requestAllConveyorsStop (m : Master) (reason : String) : Master :=
  let m := if m.systemState = .pausing then
      { m with pauseDeadlineNs := m.nowNs + fromMs m.config.pauseStopTimeoutMs }
    else { m with pauseDeadlineNs := 0 }
  let m := m.publishSystemCommand .pause reason allConveyors
  if m.sim then stopped m else m

/-- The operator is asked to empty the line, and to confirm it anew. -/
def requestLineClear (m : Master) : Master :=
  { m with equipment := m.equipment.clearOperatorConfirmation }.emitLogEvent

/-- The caller's policy is never `none`, which the program rejects. -/
def reportCriticalFault (m : Master) (reason : String) (recoveryPolicy : RecoveryPolicy) :
    Bool × Master :=
  let m := m.noteIf (recoveryPolicy ≠ .lineClearRequired && lineClearLatched m.transitions)
    .weakenedLatch
  let m := { m with recoveryPolicy, pendingRunConfirmation := false }
  match m.applySystemEvent .criticalFault reason with
  | none => (false, m)
  | some m =>
    let m := m.requestAllConveyorsStop stopped reason
    (true, if recoveryPolicy = .lineClearRequired then m.requestLineClear else m)

def faultStop (m : Master) (reason : String) : Master :=
  (m.reportCriticalFault stopped reason .lineClearRequired).2

def reportEstopAsserted (m : Master) : Bool × Master :=
  let reason := "physical E-stop asserted"
  let m := m.noteIf (lineClearLatched m.transitions) .weakenedLatch
  let m := { m with recoveryPolicy := .equipmentCheckRequired, pendingRunConfirmation := false }
  match m.applySystemEvent .estopAsserted reason with
  | none => (false, m)
  | some m => (true, m.requestAllConveyorsStop stopped reason)

def requestPause (m : Master) (reason : String) : Bool × Master :=
  match m.applySystemEvent .pauseRequest reason with
  | none => (false, m)
  | some m =>
    let m := { m with pauseReason := some .operator, pendingRunConfirmation := false }
    (true, m.requestAllConveyorsStop stopped reason)

def requestRecoverableDevicePause (m : Master) (reason : String)
    (pauseReason : PauseReason := .deviceRecoveryAuto) : Bool × Master :=
  match m.applySystemEvent .recoverableDeviceFault reason with
  | none => (false, m)
  | some m =>
    let m := { m with pauseReason := some pauseReason, pendingRunConfirmation := false }
    (true, (m.setHealthState .degraded).requestAllConveyorsStop stopped reason)

/-- The policy is written before the table is asked. -/
def reportPauseFailed (m : Master) (reason : String) (timedOut : Bool := false) :
    Bool × Master :=
  let event : SystemEvent := if timedOut then .pauseTimeout else .pauseFailed
  let m := { m with recoveryPolicy := .equipmentCheckRequired }
  match m.applySystemEvent event reason with
  | none => (false, m)
  | some m => (true, m.requestAllConveyorsStop stopped reason)

/-- Only a running line is paused; a line that does not move yet is only degraded. -/
def pause (m : Master) (reason : String) : Master :=
  if m.systemState = .pausing ∨ m.systemState = .paused ∨ m.systemState = .faultStop then m
  else if m.systemState = .runSys then (m.requestRecoverableDevicePause stopped reason).2
  else m.setHealthState .degraded

def reportRunFailed (m : Master) (reason : String) : Bool × Master :=
  let event : SystemEvent := if m.systemState = .ready then .startFailed else .resumeFailed
  match m.applySystemEvent event reason with
  | none => (false, m)
  | some m => (true, { m with pendingRunConfirmation := false }.noteIf true .abandonedRun)

/-- The conveyor under a station runs again, so the product moves on. -/
def confirmConveyorResumed (m : Master) (productId : String) (s : StationId) : Bool × Master :=
  match m.line.stationCycles.get? s with
  | none => (false, m)
  | some cycle =>
    if cycle.productId ≠ productId ∨ cycle.phase ≠ .resumePending then (false, m)
    else match m.ignoreOperationWhileFaultStopped with
    | some m => (false, m)
    | none =>
      match m.line.ledger.get cycle.productId cycle.fifoSequence with
      | none => (false, m.faultStop stopped "conveyor resume references unknown product")
      | some _ =>
        match m.operate cycle.productId (.markConveyorResumedAfterCapture s) with
        | (.error exc, m) =>
          (false, m.faultStop stopped ("conveyor resume application failed: " ++ exc.message))
        | (.ok _, m) =>
          let m := m.popStationCycle s
          (true, { m with
            line.deferredCaptureResumes :=
              m.line.deferredCaptureResumes.erase (productId, s) }.emitLogEvent)

/-- Starts to wait for the product to settle; the firmware moves it on its own. -/
def openStationCycle (m : Master) (productId : String) (fifoSequence : ℕ) (s : StationId) :
    Master :=
  let (positionCommandId, m) := m.newUuid
  let (captureId, m) := m.newUuid
  match m.operate productId (.beginStationCycle s positionCommandId captureId) with
  | (.error exc, m) => m.faultStop stopped ("station cycle start failed: " ++ exc.message)
  | (.ok _, m) =>
    match m.line.ledger.registerCapture captureId productId s with
    | (.error exc, _) => m.faultStop stopped ("station cycle start failed: " ++ exc.message)
    | (.ok _, ledger) =>
      let m : Master := { m with line.ledger := ledger }
      let m := m.setStationCycle {
        productId, fifoSequence, stationId := s, positionCommandId, captureId
        deadlineNs := m.nowNs + fromMs m.config.positionTimeoutMs }
      { m with
        line.deferredStationStarts := m.line.deferredStationStarts.erase (productId, s) }

def sensorIndex : StationId → ℕ
  | .a => 1
  | .b => 2

def startStationCycle (m : Master) (productId : String) (fifoSequence : ℕ) (s : StationId) :
    Master :=
  if m.systemState ≠ .runSys then m.deferStationStart (productId, s)
  else match m.line.stationCycles.get? s with
  | some existing =>
    if existing.productId = productId then m
    else m.faultStop stopped
      ("station " ++ s.name ++ " already owns product " ++ existing.productId)
  | none =>
    match m.line.ledger.get productId fifoSequence with
    | none => m.faultStop stopped "station cycle references unknown product identity"
    | some context =>
      if s = .b ∧ context.stationBSkipRequested then
        (m.operate productId (.bypassStationB context.stationBSkipReason)).2.emitLogEvent
      else if (context.sensorSteps.get? (sensorIndex s)).isNone then
        m.faultStop stopped ("station " ++ s.name ++ " has no source sensor step")
      else m.openStationCycle stopped productId fifoSequence s

def actuatorCommand (locked : LockedProduct) : ActuatorCommand :=
  if locked.verdict = .pass then .passThrough else .divertNg

def ActuatorCommand.raw : ActuatorCommand → ℕ
  | .divertNg => 1
  | .passThrough => 2

def actuationGoal (m : Master) (locked : LockedProduct) (cycle : ActuationCycle) :
    OperationGoal :=
  .actuate (m.fillCommandHeader cycle.commandId
    [("actuator_command", toString (ActuatorCommand.raw (actuatorCommand locked))),
      ("actuator_job_id", cycle.actuatorJobId), ("fifo_sequence", toString locked.fifoSequence),
      ("product_id", locked.productId), ("sensor3_event_id", locked.sensor3EventId)])
    locked.productId locked.fifoSequence locked.sensor3EventId (actuatorCommand locked)

def sendGoal (m : Master) (goal : OperationGoal) : Master :=
  { m with goals := ⟨goal, m.systemState⟩ :: m.goals }

def sendActuationGoal (m : Master) (locked : LockedProduct) : Master :=
  match m.line.ledger.get locked.productId locked.fifoSequence with
  | none => m.faultStop stopped "ActuateProduct Goal has no product job identity"
  | some context =>
    if context.actuatorJobId = "" then
      m.faultStop stopped "ActuateProduct Goal has no product job identity"
    else match m.line.actuationCycles.get? context.actuatorJobId with
    | none => m.faultStop stopped "ActuateProduct cycle is missing"
    | some cycle =>
      let server := m.around.actuateServer cycle.actuatorJobId
      if server = .unavailable then
        (m.requestRecoverableDevicePause stopped "ActuateProduct Action server is unavailable"
          .deviceRecoveryManual).2
      else
        let m := m.setActuationCycle { cycle with
          phase := .goalPending
          deadlineNs := m.nowNs + fromMs m.config.actuationTimeoutMs }
        match server with
        | .raised typeName =>
          (m.requestRecoverableDevicePause stopped
            ("ActuateProduct Goal send failed: " ++ typeName) .deviceRecoveryManual).2
        | _ => m.sendGoal (m.actuationGoal locked cycle)

/-- One deferred start; a product that has left the line is forgotten. -/
def resumeDeferredStart (m : Master) (scope : Scope) : Master :=
  match (m.line.ledger.getById scope.1).filter fun context => !context.removed with
  | none => { m with
      line.deferredStationStarts := m.line.deferredStationStarts.erase scope }
  | some context => m.startStationCycle stopped context.productId context.fifoSequence scope.2

/-- One actuation that was put off before its goal was answered. -/
def resumePendingActuation (m : Master) (actuatorJobId : String) : Master :=
  match m.line.actuationCycles.get? actuatorJobId with
  | none => m
  | some cycle =>
    if cycle.phase ≠ .goalPending then m
    else match (m.line.ledger.get cycle.productId cycle.fifoSequence).bind (·.locked) with
    | none => m
    | some locked =>
      (m.noteIf (m.systemState = .faultStop) .pendingActuation).sendActuationGoal stopped locked

def resumeDeferredOperations (m : Master) : Master :=
  let m := (m.around.iterate m.line.deferredCaptureResumes).foldl
    (fun m scope => (m.confirmConveyorResumed stopped scope.1 scope.2).2) m
  let m := (m.around.iterate m.line.deferredStationStarts).foldl (resumeDeferredStart stopped) m
  m.line.actuationCycles.keys.foldl (resumePendingActuation stopped) m

def confirmAllConveyorsRunning (m : Master) : Bool × Master :=
  if !m.pendingRunConfirmation then (false, m)
  else match m.applySystemEvent .allConveyorsRunning "all conveyors confirmed RUN_CONV" with
  | none => (false, m)
  | some running =>
    -- The confirmation of the empty line is used up by a new run only.
    let equipment := if m.systemState = .ready
      then running.equipment.markAllRunning.clearOperatorConfirmation
      else running.equipment.markAllRunning
    let running : Master := { running with
      pendingRunConfirmation := false
      runConfirmationDeadlineNs := 0
      equipment
      pauseReason := none }
    (true, running.resumeDeferredOperations stopped)

def requestConveyorRun (m : Master) (reason : String) : Master :=
  let m := m.publishSystemCommand .resume reason allConveyors
  if m.sim then (m.confirmAllConveyorsRunning stopped).2
  else { m with
    runConfirmationDeadlineNs := m.nowNs + fromMs m.config.conveyorRunTimeoutMs }

def requestRun (m : Master) (reason : String) : Bool × Master :=
  if !m.startGuardsSatisfied then (false, m)
  else match m.applySystemEvent .startRequest reason with
  | none => (false, m)
  | some m => (true, { m with pendingRunConfirmation := true }.requestConveyorRun stopped reason)

def requestResume (m : Master) (reason : String) (automatic : Bool := false) : Bool × Master :=
  if automatic ∧ m.pauseReason ≠ some .deviceRecoveryAuto then (false, m)
  else if !m.verifyResumeConditions then (false, m)
  else
    let event : SystemEvent := if automatic then .deviceRecovered else .resumeRequest
    match m.applySystemEvent event reason with
    | none => (false, m)
    | some m => (true, ({ m with pendingRunConfirmation := true }.noteResumeRequest
        automatic).requestConveyorRun stopped reason)

def resumeAfterQueueRecovery (m : Master) : Master :=
  if m.systemState ≠ .paused then m
  else match m.requestResume stopped "Vision queue recovered" true with
  | (true, m) => { m with pausedByQueue := false, queueRecoveredPending := false }
  | (false, m) => m

end Confirmed

def reportInitializationDone (m : Master) : Bool × Master :=
  if !m.allWorkersReadyForSession then (false, m)
  else if !m.logSpoolOpen then (false, m.setHealthState .degraded)
  else match m.applySystemEvent .initDone "all workers ready" with
  | none => (false, m)
  | some m => (true, m)

def maybeCompleteInitialization (m : Master) : Master :=
  if m.systemState ≠ .initializing ∨ m.initializationCompletionReported ∨
      !m.allWorkersReadyForSession then m
  else match { m with initializationCompletionReported := true }.reportInitializationDone with
  | (true, m) => m
  | (false, m) => { m with initializationCompletionReported := false }

section Confirmed

variable (stopped : Master → Master)

def checkLogSpoolCapacity (m : Master) : Master :=
  if m.config.logSpoolPath = "" then m
  else
    let size := m.around.spoolBytes
    let m := if m.config.logSpoolWarningBytes ≠ 0 ∧ m.config.logSpoolWarningBytes ≤ size then
        m.setHealthState .degraded else m
    if m.config.logSpoolHardBytes ≠ 0 ∧ m.config.logSpoolHardBytes ≤ size ∧
        m.systemState = .runSys then
      (m.requestRecoverableDevicePause stopped "Master log spool hard threshold reached"
        .storageRecovery).2
    else m

/-- Duties once the spool could be opened again. -/
def spoolRecovered (m : Master) : Master :=
  if (m.systemState = .ready ∨ m.systemState = .runSys ∨ m.systemState = .paused) ∧
      m.allWorkersReadyForSession then m.setHealthState .ready
  else if m.systemState = .initializing then m.maybeCompleteInitialization
  else m

def readLogSpool (m : Master) : Master :=
  if !m.around.spoolReads then m.setHealthState .degraded
  else m.checkLogSpoolCapacity stopped

def flushLogSpool (m : Master) : Master :=
  if m.logSpoolOpen then m.readLogSpool stopped
  else if m.config.logSpoolPath = "" ∨ !m.around.spoolOpens then m
  else { m with logSpoolOpen := true }.spoolRecovered.readLogSpool stopped

def finalizeShutdownSequence (m : Master) : Master :=
  if m.shutdownPhase = .readyToExit then m
  else
    let m := { m with shutdownPhase := .finalizing, shutdownDeadlineNs := 0 }
    let m := (m.cancelTrackedOperationGoals true).emitLogEvent.flushLogSpool stopped
    { m with shutdownPhase := .readyToExit }

/-- What follows once the conveyors have stopped and PAUSING is over. -/
def afterConveyorsStopped (m : Master) : Master :=
  if m.shutdownRequested then m.finalizeShutdownSequence stopped
  else if m.systemState ≠ .paused then m
  else if m.pausedByQueue ∧ m.queueRecoveredPending then m.resumeAfterQueueRecovery stopped
  else m

def confirmAllConveyorsStopped (m : Master) : Master :=
  let m := { m with equipment := m.equipment.markAllStopped, pauseDeadlineNs := 0 }
  if m.systemState ≠ .pausing then m.afterConveyorsStopped stopped
  else if !m.validateFifoAlignment then
    (m.reportCriticalFault stopped "FIFO/position mismatch after conveyor stop"
      .lineClearRequired).2
  else match m.applySystemEvent .allConveyorsStopped "all conveyors confirmed STOP_CONV" with
  | none => m
  | some m =>
    let m := if m.pauseReason = some .operator then m.setHealthState .ready else m
    m.afterConveyorsStopped stopped

end Confirmed

/-- The confirmation with at most `depth` confirmations nested in it. -/
def whenStopped : ℕ → Master → Master
  | 0 => id
  | depth + 1 => confirmAllConveyorsStopped (whenStopped depth)

end Master

end InspectionLine
