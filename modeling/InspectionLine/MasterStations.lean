import InspectionLine.MasterWorkers

/-! # Stations and actuator: captures, Vision results and sorting -/
namespace InspectionLine

structure ImageReference where
  cameraId : String
  filePath : String
  sha256 : String
  fileSizeBytes : ℕ
  width : ℕ
  height : ℕ
  pixelFormat : String
  deriving DecidableEq, Repr

structure CaptureResult where
  success : Bool
  productId : String
  stationId : ℕ
  captureId : String
  frameBatchId : String
  attemptCount : ℕ
  images : List ImageReference
  inferenceJobId : String
  errorCode : ℕ := 0
  reason : String := ""
  deriving DecidableEq, Repr

structure ActuationResult where
  success : Bool
  productId : String
  actuationId : String
  reason : String := ""
  deriving DecidableEq, Repr

def ImageReference.complete (image : ImageReference) : Bool :=
  image.filePath ≠ "" && isSha256Hex image.sha256 && decide (0 < image.fileSizeBytes) &&
    decide (0 < image.width) && decide (0 < image.height) && image.pixelFormat = "MONO8_PNG"

/-- The success payload names a batch and a job and holds one whole image of every camera. -/
def CaptureResult.complete (result : CaptureResult) (requiredCameraIds : List String) : Bool :=
  let returned := result.images.map (·.cameraId)
  result.frameBatchId ≠ "" && result.inferenceJobId ≠ "" && decide (1 ≤ result.attemptCount) &&
    decide returned.Nodup && decide (returned ⊆ requiredCameraIds) &&
    decide (requiredCameraIds ⊆ returned) && result.images.all (·.complete)

namespace Master

section Confirmed

variable (stopped : Master → Master)

/-- The line goes on once the capture is over; nobody waits for the inference. -/
def resumeConveyorAfterCapture (m : Master) (productId : String) (s : StationId) : Master :=
  match (m.line.stationCycles.get? s).filter fun cycle => cycle.productId = productId with
  | none => m.faultStop stopped "capture resume cycle identity mismatch"
  | some cycle =>
    let m := m.setStationCycle { cycle with
      phase := .resumePending
      deadlineNs := m.nowNs + fromMs m.config.conveyorResumeTimeoutMs }
    if m.systemState ≠ .runSys then m.deferCaptureResume (productId, s)
    else
      let m := m.publishSystemCommand .resume ("resume " ++ cycle.conveyorId.name ++
        " after station " ++ s.name ++ " capture") s.conveyor.raw
      if m.sim then (m.confirmConveyorResumed stopped productId s).2 else m

/-- A station that has a result keeps it; any other one starts over later. -/
def releaseStation (m : Master) (s : StationId) (cycle : StationCycle)
    (context : ProductContext) : Except FlowError Unit × Master :=
  if (context.station s).resultCompleted then
    match m.operate cycle.productId (.promoteCaptureCompletionFromVision s) with
    | (.error exc, m) => (.error exc, m)
    | (.ok _, m) =>
      (.ok (), (m.setStationCycle { cycle with
        phase := .resumePending, deadlineNs := 0 }).deferCaptureResume (cycle.productId, s))
  else
    let m := m.noteIf (cycle.phase = .resumePending) .staleReply
    match m.operate cycle.productId (.resetUnfinishedStationCycle s) with
    | (.error exc, m) => (.error exc, m)
    | (.ok _, m) => (.ok (), (m.popStationCycle s).deferStationStart (cycle.productId, s))

def reconcileStation (m : Master) (s : StationId) : Except FlowError Unit × Master :=
  match m.line.stationCycles.get? s with
  | none => (.ok (), m)
  | some cycle =>
    match m.line.ledger.get cycle.productId cycle.fifoSequence with
    | none => (.ok (), m)
    | some context => m.releaseStation s cycle context

def pauseStationForRecovery (m : Master) (s : StationId) (reason : String) : Master :=
  match m.ignoreOperationWhileFaultStopped with
  | some m => m
  | none =>
    match m.reconcileStation s with
    | (.error exc, m) =>
      m.faultStop stopped ("station recovery state cannot be reconciled: " ++ exc.message)
    | (.ok _, m) => (m.requestRecoverableDevicePause stopped reason .deviceRecoveryManual).2

/-- Station B is at work on a product that Station A has just found bad. -/
def cancelActiveStationB (m : Master) (cycle : StationCycle) (reason : String) : Master :=
  let m := cycle.captureGoalHandle.elim m m.cancelGoal
  match m.operate cycle.productId (.markStationBSkipped reason) with
  | (.ok (.flag true), m) =>
    m.emitLogEvent.resumeConveyorAfterCapture stopped cycle.productId .b
  | (_, m) =>
    let completed := (m.line.ledger.getById cycle.productId).any fun context =>
      (context.station .b).resultCompleted
    if cycle.phase ≠ .resumePending ∧ completed then
      let m := (m.operate cycle.productId (.promoteCaptureCompletionFromVision .b)).2
      m.emitLogEvent.resumeConveyorAfterCapture stopped cycle.productId .b
    else m

def cancelStationBAfterATerminal (m : Master) (productId : String) (reason : String) : Master :=
  if !m.config.skipStationBAfterStationANg then m.emitLogEvent
  else
    let m := (m.operate productId (.requestStationBSkip reason)).2
    match m.line.ledger.getById productId with
    | none => m
    | some context =>
      let m := m.publishInferenceCancellation context StationId.b.raw .stationATerminalNg reason
      match (m.line.stationCycles.get? .b).filter fun cycle => cycle.productId = productId with
      | some cycle => m.cancelActiveStationB stopped cycle reason
      | none =>
        if context.physicalState ≠ .stationBWait then m
        else match m.operate productId (.bypassStationB reason) with
        | (.ok (.flag true), m) => m.emitLogEvent
        | (_, m) => m

def cancelAfterStation (m : Master) (s : StationId) (productId reason : String) : Master :=
  if s = .a then m.cancelStationBAfterATerminal stopped productId reason else m

def finishCaptureFailure (m : Master) (s : StationId) (reason : String) (errorCode : ℕ := 0) :
    Master :=
  match m.line.stationCycles.get? s with
  | none => m
  | some cycle =>
    match m.ignoreOperationWhileFaultStopped with
    | some m => m
    | none =>
      match m.line.ledger.get cycle.productId cycle.fifoSequence with
      | none => m.faultStop stopped "capture failure references unknown product"
      | some _ =>
        match m.operate cycle.productId (.markCaptureFailed s cycle.captureId reason) with
        | (.error exc, m) =>
          m.faultStop stopped ("capture failure application failed: " ++ exc.message)
        | (.ok _, m) =>
          let m := m.emitLogEvent.cancelAfterStation stopped s cycle.productId
            ("Station A capture failure: " ++ reason)
          let m := if errorCode = ErrorCode.visionDiskStop.value then
              (m.requestRecoverableDevicePause stopped "Vision disk reached the 95% stop limit"
                .deviceRecoveryManual).2
            else m
          (m.noteIf (m.systemState = .faultStop) .captureResume).resumeConveyorAfterCapture stopped
            cycle.productId s

def captureGoal (m : Master) (cycle : StationCycle) (commandId : String) : OperationGoal :=
  let cameras := m.config.stationCameraIds cycle.stationId
  .capture (m.fillCommandHeader commandId
    [("capture_id", cycle.captureId), ("fifo_sequence", toString cycle.fifoSequence),
      ("product_id", cycle.productId), ("required_camera_ids", toString cameras),
      ("station_id", toString cycle.stationId.raw)])
    cycle.productId cycle.fifoSequence cycle.stationId cycle.captureId cameras

/-- The product has come to rest, so Vision is asked for the images. -/
def sendCaptureGoal (m : Master) (cycle : StationCycle) : Master :=
  let s := cycle.stationId
  let (commandId, m) := m.newUuid
  match m.operate cycle.productId (.markCaptureRequested s cycle.captureId commandId) with
  | (.error exc, m) =>
    m.faultStop stopped ("capture request application failed: " ++ exc.message)
  | (.ok _, m) =>
    let m := m.setStationCycle { cycle with
      phase := .captureGoal
      deadlineNs := m.nowNs + fromMs m.config.captureTimeoutMs }
    match m.around.captureServer with
    | .raised typeName =>
      m.pauseStationForRecovery stopped s ("CaptureProduct Goal send failed: " ++ typeName)
    | _ => m.sendGoal (m.captureGoal cycle commandId)

def requestStationCapture (m : Master) (s : StationId) (cycle : StationCycle)
    (context : ProductContext) : Master :=
  if s = .b ∧ context.stationBSkipRequested then
    if cycle.phase = .resumePending then m
    else m.resumeConveyorAfterCapture stopped cycle.productId s
  else if m.around.captureServer = .unavailable then
    m.pauseStationForRecovery stopped s "CaptureProduct Action server is unavailable"
  else m.sendCaptureGoal stopped cycle

def maybeRequestStationCapture (m : Master) (s : StationId) : Master :=
  match m.line.stationCycles.get? s with
  | none => m
  | some cycle =>
    match m.line.ledger.get cycle.productId cycle.fifoSequence with
    | none => m
    | some context =>
      if !context.canRequestCapture s then m
      else m.requestStationCapture stopped s cycle context

def handlePositionSettled (m : Master) (sessionId : String) (conveyorId : ℕ) : Master :=
  if sessionId ≠ m.config.sessionId then m
  else match ConveyorId.ofRaw? conveyorId with
  | none => m.faultStop stopped "PositionSettled contains invalid conveyor_id"
  | some conveyor =>
    let s := conveyor.station
    match m.ignoreOperationWhileFaultStopped with
    | some m => m
    | none =>
      match (m.line.stationCycles.get? s).filter fun cycle => cycle.phase = .waitingPosition with
      | none => m.emitLogEvent
      | some cycle =>
        match m.line.ledger.get cycle.productId cycle.fifoSequence with
        | none => m.faultStop stopped "PositionSettled references unknown product"
        | some context =>
          if s = .b ∧ context.stationBSkipRequested then m.emitLogEvent
          else match m.operate cycle.productId (.markPositionSettled s cycle.positionCommandId) with
          | (.error exc, m) =>
            m.faultStop stopped ("PositionSettled application failed: " ++ exc.message)
          | (.ok _, m) => m.maybeRequestStationCapture stopped s

def handleCaptureFeedback (m : Master) (s : StationId) (captureId : String) (stage : ℕ)
    (frameBatchId : String) : Master :=
  match (m.line.stationCycles.get? s).filter fun cycle => cycle.captureId = captureId with
  | none => m
  | some _ =>
    if m.systemState = .faultStop then m
    else if stage = 9 then
      let m := m.noteIf (m.systemState = .paused && m.pendingRunConfirmation) .blockedResume
      { m with pausedByQueue := true, queueRecoveredPending := false }.pause stopped
        ("Vision queue full; preserving FrameBatch " ++ frameBatchId)
    else m

/-- A Station B cycle whose product has been marked to skip the station. -/
def skippedAtB (m : Master) (s : StationId) (cycle : StationCycle) : Bool :=
  s = .b && (m.line.ledger.get cycle.productId cycle.fifoSequence).any (·.stationBSkipRequested)

def handleCaptureGoalResponse (m : Master) (s : StationId) (captureId : String)
    (response : Except String GoalReply) : Master :=
  match (m.line.stationCycles.get? s).filter fun cycle => cycle.captureId = captureId with
  | none => m
  | some cycle =>
    match m.ignoreOperationWhileFaultStopped with
    | some m => m
    | none =>
      match response with
      | .error typeName =>
        m.pauseStationForRecovery stopped s ("CaptureProduct Goal response failed: " ++ typeName)
      | .ok reply =>
        if !reply.accepted then
          m.pauseStationForRecovery stopped s "CaptureProduct Goal was rejected"
        else if m.skippedAtB s cycle then
          (m.setStationCycle { cycle with
            captureGoalHandle := some reply.handle }).cancelGoal reply.handle
        else
          (m.noteIf (cycle.phase = .resumePending) .staleReply).setStationCycle { cycle with
            captureGoalHandle := some reply.handle, phase := .waitingCaptureResult }

def applyCaptureSuccess (m : Master) (s : StationId) (cycle : StationCycle)
    (result : CaptureResult) : Master :=
  match m.line.ledger.get cycle.productId cycle.fifoSequence with
  | none => m.faultStop stopped "CaptureProduct Result references unknown product"
  | some _ =>
    match m.operate cycle.productId (.markCaptureSucceeded s cycle.captureId result.frameBatchId
      result.inferenceJobId) with
    | (.error exc, m) =>
      m.faultStop stopped ("capture result application failed: " ++ exc.message)
    | (.ok _, m) => m.emitLogEvent.resumeConveyorAfterCapture stopped cycle.productId s

def handleCaptureResult (m : Master) (s : StationId) (captureId : String)
    (result : Except String CaptureResult) : Master :=
  match (m.line.stationCycles.get? s).filter fun cycle => cycle.captureId = captureId with
  | none => m
  | some cycle =>
    match m.ignoreOperationWhileFaultStopped with
    | some m => m
    | none =>
      match result with
      | .error typeName =>
        m.pauseStationForRecovery stopped s ("CaptureProduct Result failed: " ++ typeName)
      | .ok result =>
        if result.productId ≠ cycle.productId ∨ result.stationId ≠ s.raw ∨
            result.captureId ≠ captureId then
          m.faultStop stopped "CaptureProduct Result identity mismatch"
        else if m.skippedAtB s cycle then
          let m := m.emitLogEvent
          if cycle.phase = .resumePending then m
          else m.resumeConveyorAfterCapture stopped cycle.productId .b
        else if !result.success then
          if result.errorCode = ErrorCode.commandConflict.value then
            m.faultStop stopped ("CaptureProduct command conflict: " ++ result.reason)
          else m.finishCaptureFailure stopped s
            (if result.reason = "" then "final station capture failed" else result.reason)
            result.errorCode
        else if !result.complete (m.config.stationCameraIds s) then
          m.finishCaptureFailure stopped s
            "CaptureProduct success payload is incomplete or camera set differs"
        else m.applyCaptureSuccess stopped s cycle result

/-- A terminal of Station A that is bad ends Station B's part in the product. -/
def applyAcceptedStationResult (m : Master) (facts : StationMessageFacts) (s : StationId)
    (verdict : Verdict) : Master :=
  match m.operate facts.productId (.applyStationResult (facts.decision s verdict)) with
  | (.ok (.flag true), m) =>
    let m := m.emitLogEvent
    if s = .a ∧ verdict = .ng then
      m.cancelStationBAfterATerminal stopped facts.productId "Station A terminal NG"
    else m.noteIf (s = .a && verdict ≠ .pass && m.lacksSkip facts.productId) .unskipped
  | (.ok _, m) => m
  | (.error (.stationResultConflict _), m) =>
    (m.noteIf (s = .a && m.lacksSkip facts.productId) .unskipped).emitLogEvent
  | (.error exc, m) =>
    m.faultStop stopped ("station result identity conflict: " ++ exc.message)

/-- The payload is not usable, so the station counts as failed. -/
def recordContractFailure (m : Master) (productId : String) (s : StationId) (reason : String) :
    Master :=
  (m.operate productId (.recordStationContractFailure s reason)).2.emitLogEvent.cancelAfterStation
    stopped s productId reason

def handleStationResult (m : Master) (sessionId : String) (facts : StationMessageFacts) :
    Master :=
  if sessionId ≠ m.config.sessionId then m
  else match m.ignoreOperationWhileFaultStopped with
  | some m => m
  | none =>
    let judged := classifyStationMessage m.line.ledger facts true
    match judged.outcome, judged.stationId, judged.verdict with
    | .captureOwnerConflict, _, _ => m.faultStop stopped
        "station result product identity conflicts with capture owner"
    | .unknownProduct, _, _ =>
      m.faultStop stopped "station result references unknown product identity"
    | .unregisteredCapture, _, _ =>
      m.faultStop stopped "station result capture identity is not registered"
    | .contractIncomplete, some s, _ =>
      m.recordContractFailure stopped facts.productId s
        (if judged.defect = .scoreNotFinite then "station result score must be finite"
          else "station result payload is invalid or incomplete")
    | .accepted, some s, some verdict => m.applyAcceptedStationResult stopped facts s verdict
    | _, _, _ => m.emitLogEvent

def applyAcceptedStationFailure (m : Master) (facts : StationMessageFacts) (s : StationId)
    (errorCode : ℕ) (reason : String) : Master :=
  match m.operate facts.productId (.recordStationFailure s facts.captureId facts.frameBatchId
    facts.inferenceJobId facts.resultRevision reason) with
  | (.error exc, m) =>
    m.faultStop stopped ("station failure identity conflict: " ++ exc.message)
  | (.ok (.flag true), m) =>
    let m := m.emitLogEvent.cancelAfterStation stopped s facts.productId
      ("Station A inference failure: " ++ reason)
    if errorCode = ErrorCode.gpuOutOfMemory.value then
      (m.requestRecoverableDevicePause stopped
        "Vision CUDA out of memory; product forced NG and Vision reinitialization required"
        .deviceRecoveryManual).2
    else m
  | (.ok _, m) => m

def handleStationFailure (m : Master) (sessionId : String) (facts : StationMessageFacts)
    (errorCode : ℕ) (reason : String) : Master :=
  if sessionId ≠ m.config.sessionId then m
  else match m.ignoreOperationWhileFaultStopped with
  | some m => m
  | none =>
    let judged := classifyStationMessage m.line.ledger facts false
    match judged.outcome, judged.stationId with
    | .captureOwnerConflict, _ => m.faultStop stopped
        "station failure product identity conflicts with capture owner"
    | .unknownProduct, _ =>
      m.faultStop stopped "station failure references unknown product identity"
    | .unregisteredCapture, _ =>
      m.faultStop stopped "station failure capture identity is not registered"
    | .contractIncomplete, some s => m.recordContractFailure stopped facts.productId s
        "station failure payload is incomplete"
    | .accepted, some s => m.applyAcceptedStationFailure stopped facts s errorCode reason
    | _, _ => m.emitLogEvent

def scheduleActuation (m : Master) (locked : LockedProduct) : Master :=
  match (m.line.ledger.get locked.productId locked.fifoSequence).filter fun context =>
    context.locked = some locked with
  | none => m.faultStop stopped "actuation schedule references an unknown locked product"
  | some _ =>
    let (actuatorJobId, m) := m.newUuid
    let (commandId, m) := m.newUuid
    match m.operate locked.productId (.beginActuation actuatorJobId commandId) with
    | (.error exc, m) => m.faultStop stopped ("actuation schedule failed: " ++ exc.message)
    | (.ok _, m) =>
      (m.setActuationCycle {
        productId := locked.productId, fifoSequence := locked.fifoSequence
        actuatorJobId, commandId }).sendActuationGoal stopped locked

def handleActuationGoalResponse (m : Master) (actuatorJobId commandId : String)
    (response : Except String GoalReply) : Master :=
  match (m.line.actuationCycles.get? actuatorJobId).filter fun cycle =>
    cycle.commandId = commandId with
  | none => m
  | some cycle =>
    match m.ignoreOperationWhileFaultStopped with
    | some m => m
    | none =>
      match response with
      | .error typeName => (m.requestRecoverableDevicePause stopped
          ("ActuateProduct Goal response failed: " ++ typeName) .deviceRecoveryManual).2
      | .ok reply =>
        if !reply.accepted then
          (m.requestRecoverableDevicePause stopped "ActuateProduct Goal was rejected"
            .deviceRecoveryManual).2
        else match m.line.ledger.get cycle.productId cycle.fifoSequence with
        | none => m.faultStop stopped "accepted actuation references unknown product"
        | some context =>
          match (m.noteIf (context.physicalState = .done) .reactuated).operate cycle.productId
            (.markActuationAccepted commandId) with
          | (.error exc, m) =>
            m.faultStop stopped ("actuation acceptance failed: " ++ exc.message)
          | (.ok _, m) => m.setActuationCycle { cycle with
              goalHandle := some reply.handle, phase := .waitingResult }

/-- Only the done products at the front of the FIFO leave it, with their cycles. -/
def removeCompletedFifoPrefix (m : Master) : Master :=
  match m.ignoreOperationWhileFaultStopped with
  | some m => m
  | none =>
    let (removed, ledger) := m.line.ledger.removeCompletedPrefix m.nowNs
    let m : Master := { m with line.ledger := ledger }
    removed.foldl (fun m context =>
      { m with line.actuationCycles :=
          m.line.actuationCycles.erase context.actuatorJobId }.emitLogEvent) m

def completeActuation (m : Master) (cycle : ActuationCycle) (actuationId : String) : Master :=
  match m.line.ledger.get cycle.productId cycle.fifoSequence with
  | none => m.faultStop stopped "ActuateProduct completion references unknown product"
  | some _ =>
    match m.operate cycle.productId (.markActuationCompleted cycle.commandId actuationId) with
    | (.error exc, m) => m.faultStop stopped ("actuation completion failed: " ++ exc.message)
    | (.ok _, m) =>
      (m.setActuationCycle { cycle with
        phase := .completed, deadlineNs := 0 }).emitLogEvent.removeCompletedFifoPrefix

def handleActuationResult (m : Master) (actuatorJobId commandId : String)
    (result : Except String ActuationResult) : Master :=
  match (m.line.actuationCycles.get? actuatorJobId).filter fun cycle =>
    cycle.commandId = commandId with
  | none => m
  | some cycle =>
    match m.ignoreOperationWhileFaultStopped with
    | some m => m
    | none =>
      match result with
      | .error typeName => m.faultStop stopped
          ("ActuateProduct Result unavailable after Goal acceptance: " ++ typeName)
      | .ok result =>
        if result.productId ≠ cycle.productId then
          m.faultStop stopped "ActuateProduct Result product identity mismatch"
        else if !result.success then
          m.faultStop stopped ("actuation result is not physically trustworthy: " ++
            (if result.reason = "" then "ActuateProduct failed" else result.reason))
        else if result.actuationId = "" then
          m.faultStop stopped "ActuateProduct success has no actuation_id"
        else
          let (identity, owners) := m.actuationIdOwners.inspect result.actuationId actuatorJobId
          let m := { m with actuationIdOwners := owners }
          match identity.kind with
          | .conflict =>
            m.faultStop stopped "actuation_id was reused for another actuator job"
          | .new => { m with actuationIdOwners := (owners.remember result.actuationId
              actuatorJobId actuatorJobId).getD owners }.completeActuation stopped cycle
              result.actuationId
          | .replay => m.completeActuation stopped cycle result.actuationId

end Confirmed

end Master

end InspectionLine
