import InspectionLine.Constants
import InspectionLine.OrderedDict
import Mathlib.Logic.Function.Basic

/-! # One product: station mirrors, Sensor3 lock and actuation

A `ProductContext` method returns its outcome together with the object it leaves behind,
because a method that raises may already have written fields. -/
namespace InspectionLine

inductive StationProcessState where
  | pending | positioning | positionSettled | captureRequested | captureCompleted
  | skipped | failed
  deriving DecidableEq, Repr

def StationProcessState.value : StationProcessState → String
  | .pending => "PENDING"
  | .positioning => "POSITIONING"
  | .positionSettled => "POSITION_SETTLED"
  | .captureRequested => "CAPTURE_REQUESTED"
  | .captureCompleted => "CAPTURE_COMPLETED"
  | .skipped => "SKIPPED"
  | .failed => "FAILED"

/-- The exceptions of product_flow, with their texts. `keyError` is a missing dict key. -/
inductive FlowError where
  | valueError (message : String)
  | keyError (key : String)
  | productFlowError (message : String)
  | productIdentityConflict (message : String)
  | stationResultConflict (message : String)
  deriving DecidableEq, Repr

structure StationDecision where
  stationId : StationId
  verdict : Verdict
  revision : ℕ
  captureId : String
  inferenceJobId : String
  frameBatchId : String := ""
  deriving DecidableEq, Repr

structure LockedProduct where
  productId : String
  fifoSequence : ℕ
  verdict : Verdict
  stationACompleted : Bool
  stationBCompleted : Bool
  reason : String
  sensor3EventId : String := ""
  deriving DecidableEq, Repr

structure StationInspection where
  stationId : StationId
  processState : StationProcessState := .pending
  positionCommandId : String := ""
  positionSettled : Bool := false
  captureCommandId : String := ""
  captureId : String := ""
  frameBatchId : String := ""
  inferenceJobId : String := ""
  captureSucceeded : Bool := false
  decision : Option StationDecision := none
  failed : Bool := false
  conflicted : Bool := false
  failureReason : String := ""
  skippedReason : String := ""
  lastFailureRevision : ℕ := 0
  deriving DecidableEq

def StationInspection.resultCompleted (s : StationInspection) : Bool :=
  s.decision.isSome || s.failed || s.conflicted

structure ProductContext where
  productId : String
  fifoSequence : ℕ
  physicalState : ProductPhysicalState := .stationAWait
  physicalZone : PhysicalZone := .upperInspection
  stations : StationId → StationInspection := fun s => { stationId := s }
  sensorEventIds : OrderedDict ℕ String := .empty
  sensorSteps : OrderedDict ℕ ℤ := .empty
  locked : Option LockedProduct := none
  actuatorJobId : String := ""
  actuatorCommandId : String := ""
  actuationId : String := ""
  completed : Bool := false
  removed : Bool := false
  removedMonotonicNs : ℤ := 0
  stationBSkipRequested : Bool := false
  stationBSkipReason : String := ""
  revision : ℕ := 1

namespace ProductContext

abbrev Outcome (α : Type) := Except FlowError α × ProductContext

/-- Sequencing: an exception leaves the context as the raising method left it. -/
def Outcome.andThen {α β : Type} (r : Outcome α) (k : ProductContext → Outcome β) : Outcome β :=
  match r with
  | (.error e, c) => (.error e, c)
  | (.ok _, c) => k c

def touch (c : ProductContext) : ProductContext := { c with revision := c.revision + 1 }

def station (c : ProductContext) (s : StationId) : StationInspection := c.stations s

def setStation (c : ProductContext) (s : StationId) (i : StationInspection) : ProductContext :=
  { c with stations := Function.update c.stations s i }

@[simp] theorem station_setStation_self (c : ProductContext) (s : StationId)
    (i : StationInspection) : (c.setStation s i).station s = i := by simp [station, setStation]

theorem station_setStation_of_ne (c : ProductContext) {s t : StationId} (i : StationInspection)
    (h : t ≠ s) : (c.setStation s i).station t = c.station t := by
  simp [station, setStation, h]

def recordSensor (c : ProductContext) (sensorIndex : ℕ) (eventId : String) (step : ℤ) :
    Outcome Unit :=
  match c.sensorEventIds.get? sensorIndex with
  | some previous =>
    if previous ≠ eventId then
      (.error (.productIdentityConflict
        ("Sensor" ++ toString sensorIndex ++ " already belongs to another event")), c)
    else (.ok (), c)
  | none =>
    (.ok (), touch { c with
      sensorEventIds := c.sensorEventIds.insert sensorIndex eventId
      sensorSteps := c.sensorSteps.insert sensorIndex step })

def stationWait : StationId → ProductPhysicalState
  | .a => .stationAWait
  | .b => .stationBWait

def beginStationCycle (c : ProductContext) (s : StationId) (positionCommandId captureId : String) :
    Outcome Unit :=
  if c.physicalState ≠ stationWait s then
    (.error (.productFlowError (c.productId ++ " cannot start station " ++ s.name ++ " from " ++
      c.physicalState.name)), c)
  else if (c.station s).processState ≠ .pending then
    (.error (.productFlowError
      ("station " ++ s.name ++ " already has an active or completed cycle")), c)
  else
    (.ok (), touch (c.setStation s { c.station s with
      processState := .positioning
      positionCommandId := positionCommandId
      captureId := captureId }))

def markPositionSettled (c : ProductContext) (s : StationId) (positionCommandId : String) :
    Outcome Unit :=
  let station := c.station s
  if station.positionCommandId ≠ positionCommandId then
    (.error (.productIdentityConflict "PositionSettled command identity mismatch"), c)
  else if station.positionSettled then (.ok (), c)
  else if station.processState ≠ .positioning then
    (.error (.productFlowError
      ("PositionSettled is not allowed from " ++ station.processState.value)), c)
  else
    (.ok (), touch (c.setStation s { station with
      positionSettled := true
      processState := .positionSettled }))

def canRequestCapture (c : ProductContext) (s : StationId) : Bool :=
  (c.station s).positionSettled && decide ((c.station s).processState = .positionSettled)

def markCaptureRequested (c : ProductContext) (s : StationId) (captureId commandId : String) :
    Outcome Unit :=
  let station := c.station s
  if station.captureId ≠ captureId then
    (.error (.productIdentityConflict "capture identity mismatch"), c)
  else if station.processState = .captureRequested then
    if station.captureCommandId ≠ commandId then
      (.error (.productIdentityConflict "capture already has another command"), c)
    else (.ok (), c)
  else if !c.canRequestCapture s then
    (.error (.productFlowError "capture requested before position was settled"), c)
  else
    (.ok (), touch (c.setStation s { station with
      captureCommandId := commandId
      processState := .captureRequested }))

def resetUnfinishedStationCycle (c : ProductContext) (s : StationId) : Outcome Unit :=
  let station := c.station s
  if station.captureSucceeded || station.failed || station.decision.isSome then
    (.error (.productFlowError "completed station cycle cannot be reset"), c)
  else (.ok (), touch (c.setStation s { stationId := s }))

def stationDone : StationId → ProductPhysicalState
  | .a => .stationADone
  | .b => .stationBDone

def markCaptureSucceeded (c : ProductContext) (s : StationId)
    (captureId frameBatchId inferenceJobId : String) : Outcome Unit :=
  let station := c.station s
  if station.captureId ≠ captureId then
    (.error (.productIdentityConflict "CaptureProduct result identity mismatch"), c)
  else if station.frameBatchId ≠ "" ∧ station.frameBatchId ≠ frameBatchId then
    (.error (.productIdentityConflict "CaptureProduct frame_batch_id mismatch"), c)
  else if station.inferenceJobId ≠ "" ∧ station.inferenceJobId ≠ inferenceJobId then
    (.error (.productIdentityConflict "CaptureProduct inference_job_id mismatch"), c)
  else
    (.ok (), touch { c.setStation s { station with
      captureSucceeded := true
      frameBatchId := frameBatchId
      inferenceJobId := inferenceJobId
      processState := .captureCompleted } with
      physicalState := stationDone s })

def markCaptureFailed (c : ProductContext) (s : StationId) (captureId reason : String) :
    Outcome Unit :=
  let station := c.station s
  if station.captureId ≠ captureId then
    (.error (.productIdentityConflict "CaptureProduct failure identity mismatch"), c)
  else
    (.ok (), touch { c.setStation s { station with
      failed := true
      failureReason := reason
      processState := .failed } with
      physicalState := stationDone s })

/-- A Vision result that overtakes the action result is evidence that capture finished. -/
def promoteCaptureCompletionFromVision (c : ProductContext) (s : StationId) : Outcome Unit :=
  let station := c.station s
  if !station.resultCompleted then
    (.error (.productFlowError "vision completion evidence is missing"), c)
  else
    (.ok (), touch { c.setStation s { station with
      captureSucceeded := true
      processState := .captureCompleted } with
      physicalState := stationDone s })

def markConveyorResumedAfterCapture (c : ProductContext) (s : StationId) : Outcome Unit :=
  if c.physicalState ≠ stationDone s then
    (.error (.productFlowError
      ("capture resume for " ++ s.name ++ " from " ++ c.physicalState.name)), c)
  else match s with
    | .a => (.ok (), touch { c with physicalState := .flipping, physicalZone := .flipTransfer })
    | .b => (.ok (), touch { c with
        physicalState := .sensor3Wait, physicalZone := .lowerToSensor3 })

/-- Station B is entered, or passed by when its skip was requested before. -/
def enterStationB (c : ProductContext) : ProductContext :=
  if c.stationBSkipRequested then
    touch { c.setStation .b { c.station .b with
      processState := .skipped
      skippedReason := c.stationBSkipReason } with
      physicalState := .sensor3Wait, physicalZone := .lowerToSensor3 }
  else
    touch { c with physicalState := .stationBWait, physicalZone := .lowerInspection }

def acceptSensor2 (c : ProductContext) (eventId : String) (step : ℤ) : Outcome Unit :=
  if c.physicalState ≠ .flipping then
    (.error (.productFlowError "Sensor2 product is not in FLIPPING"), c)
  else
    (c.recordSensor 2 eventId step).andThen fun c => (.ok (), c.enterStationB)

def requestStationBSkip (c : ProductContext) (reason : String) : Outcome Bool :=
  if c.stationBSkipRequested then (.ok false, c)
  else
    (.ok true, touch { c with
      stationBSkipRequested := true
      stationBSkipReason := if reason = "" then "Station A terminal NG" else reason })

def markStationBSkipped (c : ProductContext) (reason : String) : Outcome Bool :=
  let stationB := c.station .b
  if stationB.processState = .skipped then (.ok false, c)
  else if stationB.decision.isSome || stationB.failed || stationB.conflicted then (.ok false, c)
  else
    let c := (c.requestStationBSkip reason).2
    (.ok true, touch { c.setStation .b { c.station .b with
      processState := .skipped
      skippedReason := c.stationBSkipReason } with
      physicalState := .stationBDone, physicalZone := .lowerInspection })

def bypassStationB (c : ProductContext) (reason : String) : Outcome Bool :=
  if c.physicalState ≠ .stationBWait then (.ok false, c)
  else if (c.station .b).processState ≠ .pending then (.ok false, c)
  else
    let c := (c.requestStationBSkip reason).2
    (.ok true, touch { c.setStation .b { c.station .b with
      processState := .skipped
      skippedReason := c.stationBSkipReason } with
      physicalState := .sensor3Wait, physicalZone := .lowerToSensor3 })

/-- Marks the station conflicted and raises with the text stored as its failure reason. -/
def raiseResultConflict (c : ProductContext) (s : StationId) (message : String) : Outcome Bool :=
  (.error (.stationResultConflict message), touch (c.setStation s { c.station s with
    conflicted := true
    failureReason := message }))

def storeDecision (c : ProductContext) (decision : StationDecision) : Outcome Bool :=
  let station := c.station decision.stationId
  (.ok true, touch (c.setStation decision.stationId { station with
    decision := some decision
    frameBatchId :=
      if decision.frameBatchId ≠ "" then decision.frameBatchId else station.frameBatchId
    inferenceJobId := decision.inferenceJobId }))

def applyStationResult (c : ProductContext) (decision : StationDecision) : Outcome Bool :=
  let station := c.station decision.stationId
  if station.captureId ≠ "" ∧ station.captureId ≠ decision.captureId then
    (.error (.productIdentityConflict "station result capture_id mismatch"), c)
  else if station.frameBatchId ≠ "" ∧ decision.frameBatchId ≠ "" ∧
      station.frameBatchId ≠ decision.frameBatchId then
    (.error (.productIdentityConflict "station result frame_batch_id mismatch"), c)
  else if station.inferenceJobId ≠ "" ∧ station.inferenceJobId ≠ decision.inferenceJobId then
    (.error (.productIdentityConflict "station result inference_job_id mismatch"), c)
  else if c.locked.isSome then (.ok false, c)
  else match station.decision with
    | none => c.storeDecision decision
    | some previous =>
      if decision.stationId = .a ∧ previous.verdict = .ng then
        if decision.verdict ≠ .ng ∨ decision.captureId ≠ previous.captureId ∨
            decision.inferenceJobId ≠ previous.inferenceJobId then
          c.raiseResultConflict decision.stationId
            "Station A terminal NG cannot be revised or replaced"
        else (.ok false, c)
      else if decision.revision < previous.revision then (.ok false, c)
      else if decision.revision = previous.revision then
        if decision ≠ previous then
          c.raiseResultConflict decision.stationId
            "same revision has conflicting station results"
        else (.ok false, c)
      else c.storeDecision decision

def recordStationFailure (c : ProductContext) (s : StationId)
    (captureId frameBatchId inferenceJobId : String) (revision : ℕ) (reason : String) :
    Outcome Bool :=
  let station := c.station s
  if station.captureId ≠ "" ∧ station.captureId ≠ captureId then
    (.error (.productIdentityConflict "station failure capture_id mismatch"), c)
  else if station.frameBatchId ≠ "" ∧ station.frameBatchId ≠ frameBatchId then
    (.error (.productIdentityConflict "station failure frame_batch_id mismatch"), c)
  else if station.inferenceJobId ≠ "" ∧ station.inferenceJobId ≠ inferenceJobId then
    (.error (.productIdentityConflict "station failure inference_job_id mismatch"), c)
  else if c.locked.isSome ∨ revision < station.lastFailureRevision then (.ok false, c)
  else if revision = station.lastFailureRevision ∧ station.failed then (.ok false, c)
  else
    (.ok true, touch (c.setStation s { station with
      failed := true
      failureReason := reason
      frameBatchId := frameBatchId
      inferenceJobId := inferenceJobId
      lastFailureRevision := revision }))

def recordStationContractFailure (c : ProductContext) (s : StationId) (reason : String) :
    Outcome Bool :=
  if c.locked.isSome then (.ok false, c)
  else
    (.ok true, touch (c.setStation s { c.station s with
      conflicted := true
      failureReason := reason }))

def orText (reason fallback : String) : String := if reason = "" then fallback else reason

def candidateVerdict (c : ProductContext) : Option Verdict × String :=
  let stationA := c.station .a
  let stationB := c.station .b
  if stationA.failed || stationA.conflicted then
    (some .forcedNg, orText stationA.failureReason "Station A failed")
  else if stationA.decision.map (·.verdict) = some .ng then (some .ng, "Station A terminal NG")
  else if stationB.failed || stationB.conflicted then
    (some .forcedNg, orText stationB.failureReason "Station B failed")
  else match stationA.decision, stationB.decision with
    | some a, some b =>
      (some (if a.verdict = .pass ∧ b.verdict = .pass then .pass else .ng),
        "both station results completed")
    | _, _ => (none, "station result incomplete at Sensor3")

def lockedProduct (c : ProductContext) (sensor3EventId : String) : LockedProduct where
  productId := c.productId
  fifoSequence := c.fifoSequence
  verdict := c.candidateVerdict.1.getD .forcedNg
  stationACompleted := (c.station .a).resultCompleted
  stationBCompleted := (c.station .b).resultCompleted
  reason := c.candidateVerdict.2
  sensor3EventId := sensor3EventId

def lockAtSensor3 (c : ProductContext) (sensor3EventId : String) (step : ℤ) :
    Outcome LockedProduct :=
  match c.locked with
  | some locked =>
    if locked.sensor3EventId ≠ sensor3EventId then
      (.error (.productIdentityConflict "product already locked by another Sensor3 event"), c)
    else (.ok locked, c)
  | none =>
    if c.physicalState ≠ .sensor3Wait then
      (.error (.productFlowError "Sensor3 product is not in SENSOR3_WAIT"), c)
    else
      (c.recordSensor 3 sensor3EventId step).andThen fun c =>
        (.ok (c.lockedProduct sensor3EventId),
          touch { c with
            locked := some (c.lockedProduct sensor3EventId), physicalState := .atSensor3 })

def beginActuation (c : ProductContext) (actuatorJobId commandId : String) : Outcome Unit :=
  if c.locked.isNone ∨ c.physicalState ≠ .atSensor3 then
    (.error (.productFlowError "actuation requires a Sensor3-locked product"), c)
  else if c.actuatorJobId ≠ "" then
    if c.actuatorJobId ≠ actuatorJobId ∨ c.actuatorCommandId ≠ commandId then
      (.error (.productIdentityConflict "product already has another actuation job"), c)
    else (.ok (), c)
  else
    (.ok (), touch { c with actuatorJobId := actuatorJobId, actuatorCommandId := commandId })

def markActuationAccepted (c : ProductContext) (commandId : String) : Outcome Unit :=
  if c.actuatorCommandId ≠ commandId then
    (.error (.productIdentityConflict "actuation command identity mismatch"), c)
  else (.ok (), touch { c with physicalState := .actuating })

def markActuationCompleted (c : ProductContext) (commandId actuationId : String) : Outcome Unit :=
  if c.actuatorCommandId ≠ commandId then
    (.error (.productIdentityConflict "actuation completion identity mismatch"), c)
  else if c.physicalState ≠ .atSensor3 ∧ c.physicalState ≠ .actuating then
    (.error (.productFlowError "actuation completed from an invalid physical state"), c)
  else
    (.ok (), touch { c with
      actuationId := actuationId, completed := true, physicalState := .done })

end ProductContext

/-- What a `ProductContext` method returns when it does not raise. -/
inductive Reply where
  | none
  | flag (value : Bool)
  | locked (product : LockedProduct)
  deriving DecidableEq, Repr

inductive ContextOp where
  | recordSensor (sensorIndex : ℕ) (eventId : String) (step : ℤ)
  | beginStationCycle (s : StationId) (positionCommandId captureId : String)
  | markPositionSettled (s : StationId) (positionCommandId : String)
  | markCaptureRequested (s : StationId) (captureId commandId : String)
  | resetUnfinishedStationCycle (s : StationId)
  | markCaptureSucceeded (s : StationId) (captureId frameBatchId inferenceJobId : String)
  | markCaptureFailed (s : StationId) (captureId reason : String)
  | promoteCaptureCompletionFromVision (s : StationId)
  | markConveyorResumedAfterCapture (s : StationId)
  | acceptSensor2 (eventId : String) (step : ℤ)
  | requestStationBSkip (reason : String)
  | markStationBSkipped (reason : String)
  | bypassStationB (reason : String)
  | applyStationResult (decision : StationDecision)
  | recordStationFailure (s : StationId) (captureId frameBatchId inferenceJobId : String)
      (revision : ℕ) (reason : String)
  | recordStationContractFailure (s : StationId) (reason : String)
  | lockAtSensor3 (sensor3EventId : String) (step : ℤ)
  | beginActuation (actuatorJobId commandId : String)
  | markActuationAccepted (commandId : String)
  | markActuationCompleted (commandId actuationId : String)
  deriving DecidableEq, Repr

namespace ContextOp

def reply {α : Type} (wrap : α → Reply) (r : ProductContext.Outcome α) :
    ProductContext.Outcome Reply := (r.1.map wrap, r.2)

def apply (op : ContextOp) (c : ProductContext) : ProductContext.Outcome Reply :=
  let done : ProductContext.Outcome Unit → ProductContext.Outcome Reply := reply fun _ => .none
  let flag : ProductContext.Outcome Bool → ProductContext.Outcome Reply := reply .flag
  match op with
  | recordSensor sensorIndex eventId step => done (c.recordSensor sensorIndex eventId step)
  | beginStationCycle s positionCommandId captureId =>
    done (c.beginStationCycle s positionCommandId captureId)
  | markPositionSettled s positionCommandId => done (c.markPositionSettled s positionCommandId)
  | markCaptureRequested s captureId commandId =>
    done (c.markCaptureRequested s captureId commandId)
  | resetUnfinishedStationCycle s => done (c.resetUnfinishedStationCycle s)
  | markCaptureSucceeded s captureId frameBatchId inferenceJobId =>
    done (c.markCaptureSucceeded s captureId frameBatchId inferenceJobId)
  | markCaptureFailed s captureId reason => done (c.markCaptureFailed s captureId reason)
  | promoteCaptureCompletionFromVision s => done (c.promoteCaptureCompletionFromVision s)
  | markConveyorResumedAfterCapture s => done (c.markConveyorResumedAfterCapture s)
  | acceptSensor2 eventId step => done (c.acceptSensor2 eventId step)
  | requestStationBSkip reason => flag (c.requestStationBSkip reason)
  | markStationBSkipped reason => flag (c.markStationBSkipped reason)
  | bypassStationB reason => flag (c.bypassStationB reason)
  | applyStationResult decision => flag (c.applyStationResult decision)
  | recordStationFailure s captureId frameBatchId inferenceJobId revision reason =>
    flag (c.recordStationFailure s captureId frameBatchId inferenceJobId revision reason)
  | recordStationContractFailure s reason => flag (c.recordStationContractFailure s reason)
  | lockAtSensor3 sensor3EventId step => reply .locked (c.lockAtSensor3 sensor3EventId step)
  | beginActuation actuatorJobId commandId => done (c.beginActuation actuatorJobId commandId)
  | markActuationAccepted commandId => done (c.markActuationAccepted commandId)
  | markActuationCompleted commandId actuationId =>
    done (c.markActuationCompleted commandId actuationId)

/-- The fields the ledger relies on: no method writes them. -/
structure SameIdentity (c d : ProductContext) : Prop where
  productId : d.productId = c.productId
  fifoSequence : d.fifoSequence = c.fifoSequence
  removed : d.removed = c.removed
  removedMonotonicNs : d.removedMonotonicNs = c.removedMonotonicNs

end ContextOp

end InspectionLine
