import InspectionLine.Constants
import Mathlib.Data.Int.Notation

/-! # Master's mirror of one worker: initialization, status and heartbeat evidence -/
namespace InspectionLine

inductive WorkerId where
  | control | vision | log
  deriving DecidableEq, Repr

instance : Fintype WorkerId :=
  ⟨{.control, .vision, .log}, fun w => by cases w <;> decide⟩

def WorkerId.value : WorkerId → String
  | .control => "control"
  | .vision => "vision"
  | .log => "log"

/-- The order in which Master keeps and visits its workers. -/
def WorkerId.all : List WorkerId := [.control, .vision, .log]

inductive WorkerInitPhase where
  | idle | waitingGoalResponse | waitingResult | waitingStatus | retryWait | ready
  deriving DecidableEq, Repr

structure HeartbeatUpdate where
  accepted : Bool
  restarted : Bool
  reason : String := ""
  deriving DecidableEq, Repr

/-- The identifiers are empty, and the times zero, until there is something to store. -/
structure WorkerRuntimeState where
  workerId : WorkerId
  phase : WorkerInitPhase := .idle
  attempt : ℕ := 0
  requestId : String := ""
  retryOfRequestId : String := ""
  deadlineNs : ℤ := 0
  retryDueNs : ℤ := 0
  statusRequestId : String := ""
  statusPollDueNs : ℤ := 0
  actionReady : Bool := false
  statusVerified : Bool := false
  ready : Bool := false
  statusNodeInstanceId : String := ""
  heartbeatNodeInstanceId : String := ""
  interfaceVersion : String := ""
  softwareVersion : String := ""
  activeSessionId : String := ""
  commandEpoch : ℕ := 0
  statusHeartbeatSequence : ℕ := 0
  statusHealthState : NodeHealthState := .starting
  heartbeatHealthState : NodeHealthState := .starting
  statusReady : Bool := false
  statusMasterHeartbeatAlive : Bool := false
  heartbeatSequence : ℕ := 0
  heartbeatReceivedNs : ℤ := 0
  heartbeatSessionId : String := ""
  lastErrorCode : ℕ := 0
  lastReason : String := ""
  manualInterventionRequired : Bool := false
  deriving DecidableEq, Repr

/-- A GetNodeStatus response, as far as Master reads it. -/
structure NodeStatus where
  nodeId : String
  nodeInstanceId : String
  interfaceVersion : String
  softwareVersion : String
  activeSessionId : String
  commandEpoch : ℕ
  heartbeatSequence : ℕ
  healthState : ℕ
  ready : Bool
  masterHeartbeatAlive : Bool
  deriving DecidableEq, Repr

namespace WorkerRuntimeState

def beginAttempt (w : WorkerRuntimeState) (requestId : String) (attempt : ℕ)
    (nowNs timeoutNs : ℤ) : WorkerRuntimeState :=
  { w with
    phase := .waitingGoalResponse
    attempt := attempt
    retryOfRequestId := w.requestId
    requestId := requestId
    deadlineNs := nowNs + timeoutNs
    retryDueNs := 0
    statusRequestId := ""
    statusPollDueNs := 0
    actionReady := false
    statusVerified := false
    ready := false
    lastErrorCode := 0
    lastReason := ""
    manualInterventionRequired := false }

def markGoalAccepted (w : WorkerRuntimeState) : WorkerRuntimeState :=
  { w with phase := .waitingResult }

def markActionReady (w : WorkerRuntimeState)
    (interfaceVersion softwareVersion activeSessionId reason : String)
    (nowNs timeoutNs : ℤ) : WorkerRuntimeState :=
  { w with
    phase := .waitingStatus
    actionReady := true
    interfaceVersion := interfaceVersion
    softwareVersion := softwareVersion
    activeSessionId := activeSessionId
    lastReason := reason
    deadlineNs := nowNs + timeoutNs }

def beginStatusCheck (w : WorkerRuntimeState) (requestId : String) : WorkerRuntimeState :=
  { w with phase := .waitingStatus, statusRequestId := requestId, statusPollDueNs := 0 }

def scheduleStatusPoll (w : WorkerRuntimeState) (nowNs intervalNs : ℤ) : WorkerRuntimeState :=
  { w with
    phase := .waitingStatus
    statusRequestId := ""
    statusPollDueNs := nowNs + intervalNs }

/-- The action stays proven; the status of the old epoch does not. -/
def invalidateEpochEvidence (w : WorkerRuntimeState) (nowNs intervalNs : ℤ) :
    WorkerRuntimeState :=
  let w := { w with
    statusVerified := false, ready := false, statusRequestId := "", deadlineNs := 0 }
  if w.actionReady then w.scheduleStatusPoll nowNs intervalNs else w

def recordStatus (w : WorkerRuntimeState) (status : NodeStatus) (healthState : NodeHealthState) :
    WorkerRuntimeState :=
  { w with
    statusVerified := true
    statusNodeInstanceId := status.nodeInstanceId
    interfaceVersion := status.interfaceVersion
    softwareVersion := status.softwareVersion
    activeSessionId := status.activeSessionId
    commandEpoch := status.commandEpoch
    statusHeartbeatSequence := status.heartbeatSequence
    statusHealthState := healthState
    statusReady := status.ready
    statusMasterHeartbeatAlive := status.masterHeartbeatAlive }

def scheduleRetry (w : WorkerRuntimeState) (nowNs intervalNs : ℤ) (errorCode : ℕ)
    (reason : String) (manualInterventionRequired : Bool) : WorkerRuntimeState :=
  { w with
    phase := .retryWait
    deadlineNs := 0
    retryDueNs := nowNs + intervalNs
    statusRequestId := ""
    statusPollDueNs := 0
    actionReady := false
    statusVerified := false
    ready := false
    lastErrorCode := errorCode
    lastReason := reason
    manualInterventionRequired := manualInterventionRequired }

def acceptHeartbeat (w : WorkerRuntimeState) (nodeInstanceId : String) (sequence : ℕ)
    (healthState : NodeHealthState) (interfaceVersion sessionId : String) (receivedNs : ℤ) :
    HeartbeatUpdate × WorkerRuntimeState :=
  let sameInstance := decide (w.heartbeatNodeInstanceId = nodeInstanceId)
  if nodeInstanceId = "" ∨ sequence = 0 then
    ({ accepted := false, restarted := false, reason := "invalid identity or sequence" }, w)
  else if sameInstance ∧ sequence ≤ w.heartbeatSequence then
    ({ accepted := false, restarted := false, reason := "stale or duplicate sequence" }, w)
  else
    let restarted := w.heartbeatNodeInstanceId ≠ "" && !sameInstance
    let w := if restarted then
        { w with actionReady := false, statusVerified := false, ready := false } else w
    ({ accepted := true, restarted }, { w with
      heartbeatNodeInstanceId := nodeInstanceId
      heartbeatSequence := sequence
      heartbeatHealthState := healthState
      interfaceVersion := interfaceVersion
      heartbeatSessionId := sessionId
      heartbeatReceivedNs := receivedNs })

def heartbeatIsFresh (w : WorkerRuntimeState) (nowNs timeoutNs : ℤ) : Bool :=
  decide (0 < w.heartbeatReceivedNs) && decide (nowNs - w.heartbeatReceivedNs ≤ timeoutNs)

/-- The action, the status and the heartbeat are evidence of one node. -/
def canMarkReady (w : WorkerRuntimeState) (sessionId expectedInterfaceVersion : String)
    (commandEpoch : ℕ) (nowNs heartbeatTimeoutNs : ℤ) : Bool :=
  w.actionReady && w.statusVerified &&
    decide (w.statusNodeInstanceId = w.heartbeatNodeInstanceId) &&
    decide (w.activeSessionId = sessionId) && decide (w.heartbeatSessionId = sessionId) &&
    decide (w.interfaceVersion = expectedInterfaceVersion) &&
    decide (w.commandEpoch = commandEpoch) &&
    decide (w.statusHeartbeatSequence ≤ w.heartbeatSequence) &&
    w.statusReady && w.statusMasterHeartbeatAlive &&
    decide (w.statusHealthState = .ready) && decide (w.heartbeatHealthState = .ready) &&
    w.heartbeatIsFresh nowNs heartbeatTimeoutNs

def markReady (w : WorkerRuntimeState) : WorkerRuntimeState :=
  { w with phase := .ready, ready := true, deadlineNs := 0, retryDueNs := 0, statusPollDueNs := 0 }

end WorkerRuntimeState

end InspectionLine
