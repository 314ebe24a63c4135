import InspectionLine.LogSpool

/-! # The Log node

An event is validated, committed and only then acknowledged. The images that retention removes
depend on the file system, which is an input. A payload is read by `Json.loads`: what is said of an
event whose payload holds the escape of a lone surrogate or more than 4300 digits in a row is said
with that restriction. -/
namespace InspectionLine

/-- `LogEventService`: what is checked before an event is stored. -/
def requireMatchingField {F : Type} [Runtime F] (envelope : JsonFields F)
    (field expected : String) : Except PyError Unit :=
  match envelope.field? field with
  | some value =>
    if value.toStr ≠ expected then
      .error { kind := .valueError, text := field ++ " differs between envelope and LogEvent" }
    else .ok ()
  | none => .ok ()

def require (holds : Bool) (text : String) : Except PyError Unit :=
  if holds then .ok () else .error { kind := .valueError, text }

section
variable (F : Type) [Runtime F]

def validateEvent (event : StoredLogEvent) : Except PyError Unit := do
  require (event.logId ≠ "") "log_id is required"
  require (1 ≤ event.revision) "revision must be positive"
  require (event.eventType ≠ "") "event_type is required"
  require (event.sourceNode ≠ "") "source_node is required"
  require (event.producerInstanceId ≠ "") "producer_instance_id is required"
  require (0 ≤ event.occurredAtNs) "occurred_at_ns must not be negative"
  require (Runtime.sha256Text F event.payloadJson = event.payloadDigest) "payload_digest mismatch"
  match (Json.loads event.payloadJson : Except PyError (Json F)) with
  | .error e =>
    if e.kind = .valueError ∨ e.kind = .typeError then
      .error { kind := .valueError, text := "payload_json must be valid JSON" }
    else .error e
  | .ok decoded =>
    match decoded.fields? with
    | none => .error { kind := .valueError, text := "payload_json root must be an object" }
    | some envelope => do
      match envelope.field "schema_version" .null with
      | .null => pure ()
      | version => require (version.equalsInt 2) "unsupported log schema_version"
      requireMatchingField envelope "event_type" event.eventType
      requireMatchingField envelope "source_node" event.sourceNode
      requireMatchingField envelope "producer_instance_id" event.producerInstanceId
      requireMatchingField envelope "product_id" event.productId
      match envelope.field? "severity" with
      | some severity =>
        require ((← severity.toInt) = event.severity)
          "severity differs between envelope and LogEvent"
      | none => pure ()
      match envelope.field? "payload" with
      | some payload => require payload.fields?.isSome "payload field must be an object"
      | none => pure ()

end

/-- The database file outlives the node; `initialized` says that the node has opened it. -/
structure LogNode (F : Type) where
  sessionId : String
  initialized : Bool := false
  tables : LogTables F := {}

def LogEventMessage.toEvent (message : LogEventMessage) : StoredLogEvent where
  logId := message.logId
  revision := message.revision
  severity := message.severity
  eventType := message.eventType
  sourceNode := message.sourceNode
  producerInstanceId := message.producerInstanceId
  productId := message.productId
  payloadJson := message.payloadJson
  payloadDigest := message.payloadDigest
  occurredAtNs := message.occurredAtNs

/-- What the database and the file system do in a callback of the Log node. -/
structure Storage where
  committedAt : String
  commitRaises : Bool := false
  keepLatest : ℕ := 10000
  removes : String → Bool := fun _ => false

namespace LogNode

variable {F : Type} [Runtime F]

def persist (n : LogNode F) (storage : Storage) (event : StoredLogEvent) :
    Except PyError Unit × LogNode F :=
  match validateEvent F event with
  | .error e => (.error e, n)
  | .ok () =>
    if storage.commitRaises then (.error { kind := .integrityError }, n)
    else
      let (outcome, tables) := n.tables.appendEvent storage.committedAt event
      (outcome, { n with tables })

def enforceImageRetention (n : LogNode F) (storage : Storage) : LogNode F :=
  if storage.keepLatest < 1 then n
  else
    let removed := (n.tables.retentionCandidates storage.keepLatest).filter storage.removes
    { n with tables := n.tables.removeImageRecords removed }

def handleLogEvent (n : LogNode F) (storage : Storage) (message : LogEventMessage) :
    Option LogPersistedAck × LogNode F :=
  if message.sessionId ≠ n.sessionId ∨ n.initialized = false then (none, n)
  else match n.persist storage message.toEvent with
    | (.error _, n) => (none, n)
    | (.ok (), n) =>
      (some {
        sessionId := n.sessionId
        producerNode := message.sourceNode
        producerInstanceId := message.producerInstanceId
        ackedLogIds := [message.logId]
        ackedRevisions := [message.revision] }, n.enforceImageRetention storage)

end LogNode

/-! ### Replay of terminals -/

structure StationResult (F : Type) where
  sessionId : String
  correlationId : String
  productId : String
  fifoSequence : ℕ
  stationId : ℕ
  captureId : String
  frameBatchId : String
  inferenceJobId : String
  resultRevision : ℕ
  verdict : ℕ
  score : F
  modelVersion : String

structure StationInferenceFailed where
  sessionId : String
  correlationId : String
  productId : String
  fifoSequence : ℕ
  stationId : ℕ
  captureId : String
  frameBatchId : String
  inferenceJobId : String
  resultRevision : ℕ
  errorCode : ℕ
  reason : String
  deriving DecidableEq, Repr

structure ReplayRequest where
  sessionId : String
  maxResults : ℕ
  offset : ℕ
  deriving DecidableEq, Repr

structure ReplayResults (F : Type) where
  success : Bool
  results : List (StationResult F) := []
  failures : List StationInferenceFailed := []
  nextOffset : ℕ := 0
  hasMore : Bool := false
  reason : String

/-- An unsigned field of a message checks its range. -/
def asUint (bits : ℕ) (n : ℤ) : Except PyError ℕ :=
  if 0 ≤ n ∧ n < 2 ^ bits then .ok n.toNat else .error { kind := .assertionError }

theorem as_uint_eq {bits k : ℕ} {n : ℤ} (h : asUint bits n = .ok k) : (k : ℤ) = n := by
  unfold asUint at h
  split at h
  · rename_i hrange
    cases h
    exact Int.toNat_of_nonneg hrange.1
  · cases h

namespace ReplayStationTerminal

variable {F : Type}

def toFailure (terminal : ReplayStationTerminal F) (sessionId : String) :
    Except PyError StationInferenceFailed := do
  return {
    sessionId
    correlationId := terminal.captureId
    productId := terminal.productId
    fifoSequence := ← asUint 64 terminal.fifoSequence
    stationId := ← asUint 8 terminal.stationId
    captureId := terminal.captureId
    frameBatchId := terminal.frameBatchId
    inferenceJobId := terminal.inferenceJobId
    resultRevision := ← asUint 32 terminal.revision
    errorCode := ← asUint 16 (terminal.errorCode.getD 0)
    reason := terminal.reason }

def toResult [Runtime F] (terminal : ReplayStationTerminal F) (sessionId : String) :
    Except PyError (StationResult F) := do
  return {
    sessionId
    correlationId := terminal.captureId
    productId := terminal.productId
    fifoSequence := ← asUint 64 terminal.fifoSequence
    stationId := ← asUint 8 terminal.stationId
    captureId := terminal.captureId
    frameBatchId := terminal.frameBatchId
    inferenceJobId := terminal.inferenceJobId
    resultRevision := ← asUint 32 terminal.revision
    verdict := ← asUint 8 (terminal.verdict.getD 0)
    score :=
      match terminal.score with
      | some score => if Runtime.equalsInt score 0 then Runtime.zero else score
      | none => Runtime.zero
    modelVersion := terminal.modelVersion }

end ReplayStationTerminal

section
variable {F : Type} [Runtime F]

/-- The response of a page that was read. -/
def replayResults (sessionId : String) (offset : ℕ) (terminals : List (ReplayStationTerminal F))
    (hasMore : Bool) : Except PyError (ReplayResults F) := do
  let results ← (terminals.filter (·.terminalKind = .result)).mapM (·.toResult sessionId)
  let failures ← (terminals.filter (·.terminalKind = .failure)).mapM (·.toFailure sessionId)
  let nextOffset ← asUint 32 (offset + terminals.length)
  return {
    success := true, results, failures, nextOffset, hasMore
    reason := "replayed " ++ toString terminals.length ++ " durable Vision terminals" }

/-- An error is what the caller of the service sees of an exception in the callback. -/
def LogNode.handleReplayStationResults (n : LogNode F)
    (ties : TerminalEntry F → TerminalEntry F → Bool) (request : ReplayRequest) :
    Except PyError (ReplayResults F) :=
  if n.initialized = false then
    .ok { success := false, reason := "Log repository is not initialized" }
  else if request.sessionId ≠ n.sessionId then
    .ok { success := false, reason := "only the active session can be replayed" }
  else
    let limit := max 1 (min (if request.maxResults = 0 then 100 else request.maxResults) 1000)
    let (terminals, hasMore) :=
      n.tables.replayStationTerminals ties request.sessionId limit request.offset
    replayResults n.sessionId request.offset terminals hasMore

end

end InspectionLine
