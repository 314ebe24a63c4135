import InspectionLine.HandlerMoves

/-! # Master refines the supervision of the line

A callback makes moves that leave nothing owed; only the operator's confirmation of an empty
line is no move, and it changes nothing but that confirmation. What moves and confirmations
keep therefore holds in all runs. -/
namespace InspectionLine

open Supervision PhysicalLine

namespace Supervision

def confirmedBy (v : Supervision) (operatorId : String) : Supervision :=
  { v with equipment := { v.equipment with lineClearConfirmed := true, operatorId } }

inductive Callback (v : Supervision) : Supervision → Prop where
  | moves {w} (h : Moves (v, {}) (w, {})) : Callback v w
  | confirm {w} (operatorId : String) (h : Moves (v, {}) (w, {}))
      (idle : w.systemState = .ready ∨ w.systemState = .faultStop) :
      Callback v (w.confirmedBy operatorId)

end Supervision

namespace Master

variable {m n : Master} {stopped : Master → Master}

theorem callback_of_evolves {v : Supervision} (h : Evolves (v, {}) m {}) :
    Callback v m.toSupervision := .moves h.moves

theorem callback_of_confirmed {v : Supervision} (h : Evolves (v, {}) m {}) (operatorId : String) :
    Callback v (m.confirmLineCleared operatorId).2.toSupervision := by
  simp only [Master.confirmLineCleared]
  split
  · exact callback_of_evolves h
  · rename_i hguard
    rw [toSupervision_emitLogEvent]
    refine .confirm operatorId h.moves ?_
    by_contra hstate
    exact hguard (.inr (not_or.mp hstate))

/-! ### Commands of the operator -/

theorem evolves_of_command (hs : Settles stopped) {v : Supervision} (h : Evolves (v, {}) m {})
    {request : OperatorRequest} (hother : request.commandType ≠ 6) :
    Evolves (v, {}) (m.runOperatorCommand stopped request).2.2 {} := by
  simp only [Master.runOperatorCommand]
  split
  · exact h
  · split
    · exact h
    · rename_i accepted n hrun
      exact h.operatorHandler hs rfl hrun hother

/-- A request that is given a fresh identifier, if it has none. -/
def requestIdOf (m : Master) (request : OperatorRequest) : String :=
  if request.requestId = "" then m.newUuid.1 else request.requestId

/-- A command that is carried out, and not answered from what is stored about its request. -/
def executes (m : Master) (request : OperatorRequest) : Bool :=
  let digest := m.config.payloadDigest [("command_type", toString request.commandType),
    ("operator_id", request.operatorId), ("reason", request.reason)]
  isUuid4 (m.requestIdOf request) &&
    decide ((m.operatorResults.inspect (m.requestIdOf request) digest).1.kind = .new)

def lastAnswer (m : Master) : Option Bool :=
  m.outbox.operatorAnswers.head?.map (·.values.accepted)

/-- A command is only answered, or carried out and then answered. -/
theorem operator_command_cases (stopped : Master → Master) (m : Master)
    (request : OperatorRequest) :
    ∃ k : Master, (k.toSupervision = m.toSupervision ∨
        k.toSupervision = m.newUuid.2.toSupervision) ∧
      (m.executes request = false ∧
          (m.handleOperatorCommand stopped request).toSupervision = k.toSupervision ∨
        m.executes request = true ∧
          (m.handleOperatorCommand stopped request).toSupervision =
            (k.runOperatorCommand stopped request).2.2.toSupervision ∧
          (m.handleOperatorCommand stopped request).lastAnswer =
            some (k.runOperatorCommand stopped request).1) := by
  simp only [Master.handleOperatorCommand]
  generalize hidentified : (if request.requestId = "" then (m.newUuid.1, m.newUuid.2)
    else (request.requestId, m)) = identified
  obtain ⟨requestId, k⟩ := identified
  have hk : m.requestIdOf request = requestId ∧ k.config = m.config ∧
      k.operatorResults = m.operatorResults ∧
      (k.toSupervision = m.toSupervision ∨ k.toSupervision = m.newUuid.2.toSupervision) := by
    unfold requestIdOf
    split at hidentified <;> cases hidentified
    · rename_i hnew
      exact ⟨if_pos hnew, rfl, rfl, .inr rfl⟩
    · rename_i hgiven
      exact ⟨if_neg hgiven, rfl, rfl, .inl rfl⟩
  obtain ⟨hid, hconfig, hresults, hsame⟩ := hk
  unfold executes
  rw [hid, ← hconfig, ← hresults]
  simp only
  split
  · rename_i hinvalid
    refine ⟨k, hsame, .inl ⟨?_, rfl⟩⟩
    rw [(Bool.not_eq_true' _).mp hinvalid, Bool.false_and]
  · rename_i hvalid
    rw [(Bool.not_eq_false _).mp fun h => hvalid ((Bool.not_eq_true' _).mpr h), Bool.true_and]
    rcases IdempotencyStore.inspect_cases k.operatorResults requestId (k.config.payloadDigest
        [("command_type", toString request.commandType), ("operator_id", request.operatorId),
          ("reason", request.reason)]) with ⟨_, hkind⟩ | ⟨_, _, _, _, hkind⟩ | ⟨r, _, hkind⟩ <;>
      rw [hkind]
    · refine ⟨{ k with operatorResults := (k.operatorResults.inspect requestId
        (k.config.payloadDigest [("command_type", toString request.commandType),
          ("operator_id", request.operatorId), ("reason", request.reason)])).2 }, hsame, .inr ?_⟩
      exact ⟨rfl, rfl, rfl⟩
    · exact ⟨k, hsame, .inl ⟨rfl, rfl⟩⟩
    · exact ⟨k, hsame, .inl ⟨rfl, rfl⟩⟩

theorem callback_of_operator (hs : Settles stopped) {v : Supervision} (h : Evolves (v, {}) m {})
    (request : OperatorRequest) :
    Callback v (m.handleOperatorCommand stopped request).toSupervision := by
  obtain ⟨k, hk, hcases⟩ := operator_command_cases stopped m request
  have hevolves : Evolves (v, {}) k {} := by
    rcases hk with hsame | hissued
    · exact h.quiet hsame
    · exact h.newUuid.quiet hissued
  rcases hcases with ⟨_, hn⟩ | ⟨_, hn, _⟩ <;> rw [hn]
  · exact callback_of_evolves hevolves
  · by_cases hconfirm : request.commandType = 6
    · simp only [Master.runOperatorCommand, hconfirm, Master.operatorHandler]
      split
      · exact callback_of_evolves hevolves
      · exact callback_of_confirmed hevolves request.operatorId
    · exact callback_of_evolves (evolves_of_command hs hevolves hconfirm)

/-! ### All callbacks -/

theorem evolves_of_handle (hs : Settles stopped) (ho : m.line.Occupied) {call : MasterCall}
    (hother : ∀ request, call = .operatorCommand request → request.commandType ≠ 6) :
    Evolves (m.toSupervision, {}) (handle stopped m call) {} := by
  have h : Evolves (m.toSupervision, {}) m {} := ⟨ho, .refl⟩
  cases call with
  | operatorCommand request =>
    obtain ⟨k, hk, hcases⟩ := operator_command_cases stopped m request
    have hevolves : Evolves (m.toSupervision, {}) k {} := by
      rcases hk with hsame | hissued
      · exact h.quiet hsame
      · exact h.newUuid.quiet hissued
    rcases hcases with ⟨_, hn⟩ | ⟨_, hn, _⟩
    · exact hevolves.quiet hn
    · exact (evolves_of_command hs hevolves (hother request rfl)).quiet hn
  | sensorEvent message => exact h.handleSensorEvent hs rfl message
  | positionSettled sessionId conveyorId =>
    exact h.handlePositionSettled hs rfl sessionId conveyorId
  | equipmentState message => exact h.handleEquipmentState hs rfl message
  | equipmentUpdate update => exact h.updateEquipmentSnapshot hs update
  | captureFeedback s captureId stage batch =>
    exact h.handleCaptureFeedback hs rfl s captureId stage batch
  | captureGoalResponse s captureId response =>
    exact h.handleCaptureGoalResponse hs rfl s captureId response
  | captureResult s captureId result =>
    exact h.handleCaptureResult hs rfl s captureId result
  | stationResult message =>
    exact h.handleStationResult hs rfl message.sessionId message.facts
  | stationFailure message =>
    exact h.handleStationFailure hs rfl message.sessionId message.facts
      message.errorCode message.reason
  | actuationGoalResponse job command response =>
    exact h.handleActuationGoalResponse hs job command response
  | actuationResult job command result =>
    exact h.handleActuationResult hs rfl job command result
  | queueState sessionId state batch =>
    exact h.handleQueueState hs rfl sessionId state batch
  | workerHeartbeat w message =>
    exact h.handleWorkerHeartbeat hs rfl w message
  | initializeGoalResponse w requestId response =>
    exact h.handleInitializeGoalResponse w requestId response
  | initializeResult w requestId result =>
    exact h.handleInitializeResult w requestId result
  | workerStatus w requestId response =>
    exact h.handleWorkerStatus w requestId response
  | replayResponse generation response =>
    exact h.handleStationResultReplay hs rfl generation response
  | checkWorkerHeartbeats => exact h.checkWorkerHeartbeats hs rfl
  | checkOperationDeadlines => exact h.checkOperationDeadlines hs rfl rfl
  | requestStationResultReplay =>
    exact h.quiet (toSupervision_requestStationResultReplay m)
  | flushLogSpool => exact h.flushLogSpool hs
  | requestShutdown => exact h.requestShutdown hs rfl

/-- Every callback makes moves that leave nothing owed, or confirms the empty line. -/
theorem callback_of_handle (hs : Settles stopped) (ho : m.line.Occupied) (call : MasterCall) :
    Callback m.toSupervision (handle stopped m call).toSupervision := by
  by_cases hoperator : ∃ request, call = .operatorCommand request
  · obtain ⟨request, rfl⟩ := hoperator
    exact callback_of_operator hs ⟨ho, .refl⟩ request
  · exact callback_of_evolves
      (evolves_of_handle hs ho fun request hcall => absurd ⟨request, hcall⟩ hoperator)

theorem callback_of_next (ho : m.line.Occupied) (e : MasterEvent) :
    Callback m.toSupervision (m.next e).toSupervision :=
  callback_of_handle (m := { m with around := e.around }) (settles_whenStopped _) ho e.call

/-! ### Runs -/

theorem occupied_of_callback {v w : Supervision} (ho : v.line.Occupied) (h : Callback v w) :
    w.line.Occupied := by
  cases h with
  | moves h => exact occupied_moves (x := (v, {})) ho h
  | confirm operatorId h => exact occupied_moves (x := (v, {})) ho h

theorem occupied_empty : PhysicalLine.Occupied {} := by
  refine ⟨fun p c hc => ?_, fun p c locked hc => ?_, fun s cycle hcycle => ?_,
    fun job cycle hcycle => ?_⟩
  · cases hc
  · cases hc
  · cases hcycle
  · cases hcycle

/-- The run rule: what holds at the start, and is kept by moves that leave nothing owed and by
the confirmation of an empty line, holds in all runs. -/
theorem reachable_invariant {P : Supervision → Prop}
    (start : ∀ config around, P (initial config around).toSupervision)
    (moves : ∀ v w, v.line.Occupied → P v → Moves (v, {}) (w, {}) → P w)
    (confirm : ∀ v operatorId, P v → v.systemState = .ready ∨ v.systemState = .faultStop →
      P (v.confirmedBy operatorId))
    (h : Reachable m) : P m.toSupervision := by
  obtain ⟨config, around, hrun⟩ := h
  refine (hrun.invariant (P := fun m => m.line.Occupied ∧ P m.toSupervision)
    (fun k e hk _ => ?_) ⟨occupied_empty, start config around⟩).2
  have hcalled := callback_of_next hk.1 e
  refine ⟨occupied_of_callback hk.1 hcalled, ?_⟩
  generalize (k.next e).toSupervision = w at hcalled
  cases hcalled with
  | moves h => exact moves _ w hk.1 hk.2 h
  | confirm operatorId h idle => exact confirm _ operatorId (moves _ _ hk.1 hk.2 h) idle

theorem reachable_occupied (h : Reachable m) : m.line.Occupied :=
  reachable_invariant (P := fun v => v.line.Occupied) (fun _ _ => occupied_empty)
    (fun _ _ ho _ h => occupied_moves ho h) (fun _ _ ho _ => ho) h

theorem config_of_run {config : MasterConfig} {around : Surroundings}
    (h : Run (initial config around) m) : m.config = config := by
  refine (h.invariant (P := fun m => m.line.Occupied ∧ m.config = config)
    (fun k e hk _ => ?_) ⟨occupied_empty, rfl⟩).2
  have hcalled := callback_of_next hk.1 e
  refine ⟨occupied_of_callback hk.1 hcalled, ?_⟩
  generalize (k.next e).toSupervision = w at hcalled
  cases hcalled with
  | moves h => exact (config_of_moves h).trans hk.2
  | confirm operatorId h idle => exact (config_of_moves h).trans hk.2

theorem run_trace (config : MasterConfig) (around : Surroundings) (events : List MasterEvent) :
    Run (initial config around) (InputRuns.runTrace next (initial config around) events) :=
  InputRuns.valid_trace_execution (InputRuns.valid_trace_of_total _ events)

/-! ### A line to run -/

/-- What all identifiers begin with. -/
def uuidStem : List Char := "11111111-0000-4000-8000-".toList

def twelveDigits (n : ℕ) : List Char :=
  List.replicate (12 - (Nat.toDigits 10 n).length) '0' ++ Nat.toDigits 10 n

def numberedUuid (n : ℕ) : String := String.ofList (uuidStem ++ twelveDigits n)

theorem numberedUuid_nonempty (n : ℕ) : numberedUuid n ≠ "" := by
  intro h
  have hempty : uuidStem ++ twelveDigits n = [] := String.ofList_injective h
  have hstem : uuidStem ≠ [] := by decide
  exact hstem (List.append_eq_nil_iff.mp hempty).1

/-- The default parameters, with the cameras of both stations. -/
def defaultConfig (profile : Profile) (skipStationB : Bool) : MasterConfig where
  profile := profile
  sessionId := numberedUuid 0
  nodeInstanceId := "master"
  expectedInterfaceVersion := "1"
  configVersion := "dev-001"
  configDigest := ""
  skipStationBAfterStationANg := skipStationB
  sensorIds := ![ "sensor1", "sensor2", "sensor3"]
  hardwareMappingConfirmed := true
  stationCameraIds
    | .a => ["a1", "a2", "a3"]
    | .b => ["b1"]
  payloadDigest payload := String.intercalate "|" (payload.map fun item => item.1 ++ item.2)
  newUuid n := numberedUuid (n + 1)
  uuid_nonempty n := numberedUuid_nonempty (n + 1)
  config_version := by decide
  init_retry := by decide
  heartbeat_timeout := by decide
  init_timeout := by decide
  fifo_limits := by decide
  sensor_ids := by decide
  accepted_edge := by decide
  camera_ids _ := by decide
  action_timeouts := by decide
  spool_thresholds := by decide
  retention := by decide

def called (call : MasterCall) (nowNs : ℕ) : MasterEvent :=
  ⟨call, { nowNs, nowNs_nonneg := Int.natCast_nonneg nowNs }⟩

def commanded (request commandType : ℕ) : MasterEvent :=
  called (.operatorCommand {
    requestId := numberedUuid (900 + request), commandType, operatorId := "operator" }) 1000

def readied (w : WorkerId) (request status : ℕ) : List MasterEvent :=
  [called (.workerHeartbeat w ⟨w.value, "worker", numberedUuid 0, 1, 1, "1"⟩) 1000,
    called (.initializeGoalResponse w (numberedUuid request) (.ok ⟨true, "goal"⟩)) 1000,
    called (.initializeResult w (numberedUuid request)
      (.ok ⟨true, w.value, 0, "", "1", "1", numberedUuid request, numberedUuid 0, false⟩)) 1000,
    called (.workerStatus w (numberedUuid status)
      (.ok ⟨w.value, "worker", "1", "1", numberedUuid 0, 0, 1, 1, true, true⟩)) 1000]

def startUp : List MasterEvent :=
  commanded 1 1 :: (readied .control 1 4 ++ readied .vision 2 5 ++ readied .log 3 6)

def runLine (profile : Profile) (skipStationB : Bool) (events : List MasterEvent) : Master :=
  InputRuns.runTrace next (initial (defaultConfig profile skipStationB)
    { nowNs := 1, nowNs_nonneg := Int.one_nonneg }) (startUp ++ events)

theorem reachable_runLine (profile : Profile) (skipStationB : Bool) (events : List MasterEvent) :
    Reachable (runLine profile skipStationB events) := ⟨_, _, run_trace _ _ _⟩

def sensed (sensorId : String) (sequence : ℕ) : MasterEvent :=
  called (.sensorEvent {
    sessionId := numberedUuid 0
    eventId := sensorId ++ "-" ++ toString sequence
    sensorId, edge := 1, sensorSequence := sequence, estimatedStep := 10 * sequence }) 1000

end Master

end InspectionLine
