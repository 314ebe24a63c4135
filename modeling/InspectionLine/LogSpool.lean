import InspectionLine.LogRepository
import Mathlib.Data.Prod.Lex
import Mathlib.Data.String.Basic

/-! # The durable spool of a log producer

The Master node and the Vision node keep their records in a local database until the Log node
acknowledges them, and publish what is left again and again. -/
namespace InspectionLine

structure SpoolRecord where
  logId : String
  revision : ℤ
  payloadJson : String
  payloadDigest : String
  deriving DecidableEq, Repr

def SpoolRecord.key (record : SpoolRecord) : String × ℤ := (record.logId, record.revision)

structure SpoolRow where
  payloadJson : String
  payloadDigest : String
  createdAt : String
  deriving DecidableEq, Repr

abbrev LogSpool := OrderedDict (String × ℤ) SpoolRow

namespace LogSpool

def enqueueBody (createdAt : String) (record : SpoolRecord) (spool : LogSpool) :
    Except PyError LogSpool := do
  let revision ← bindInt record.revision
  if (spool.get? (record.logId, revision)).any (·.payloadDigest ≠ record.payloadDigest) then
    .error { kind := .valueError, text := "same log_id/revision has a conflicting digest" }
  else return spool.insertOrIgnore record.key {
    payloadJson := record.payloadJson, payloadDigest := record.payloadDigest, createdAt }

def enqueue (spool : LogSpool) (createdAt : String) (record : SpoolRecord) :
    Except PyError Unit × LogSpool :=
  transaction spool (enqueueBody createdAt record)

def record (entry : (String × ℤ) × SpoolRow) : SpoolRecord where
  logId := entry.1.1
  revision := entry.1.2
  payloadJson := entry.2.payloadJson
  payloadDigest := entry.2.payloadDigest

def pendingOrder (entry : (String × ℤ) × SpoolRow) : String ×ₗ String ×ₗ ℤ :=
  toLex (entry.2.createdAt, toLex (entry.1.1, entry.1.2))

def pending (spool : LogSpool) (limit : ℕ) : List SpoolRecord :=
  let entries := spool.entries.insertionSort fun a b => pendingOrder a ≤ pendingOrder b
  (entries.take limit).map record

def acknowledgeBody (identities : List (String × ℤ)) (spool : LogSpool) :
    Except PyError LogSpool :=
  identities.foldlM (fun spool id => do return spool.erase (id.1, ← bindInt id.2)) spool

def acknowledge (spool : LogSpool) (identities : List (String × ℤ)) :
    Except PyError Unit × LogSpool :=
  transaction spool (acknowledgeBody identities)

end LogSpool

structure LogEventMessage where
  sessionId : String
  logId : String
  revision : ℤ
  severity : ℤ
  eventType : String
  sourceNode : String
  producerInstanceId : String
  productId : String
  payloadJson : String
  payloadDigest : String
  occurredAtNs : ℤ
  deriving DecidableEq, Repr

def LogEventMessage.key (message : LogEventMessage) : String × ℤ :=
  (message.logId, message.revision)

structure LogPersistedAck where
  sessionId : String
  producerNode : String
  producerInstanceId : String
  ackedLogIds : List String
  ackedRevisions : List ℤ
  deriving DecidableEq, Repr

def logInfo : ℤ := 20

structure LogProducer where
  nodeId : String
  nodeInstanceId : String
  sessionId : String
  spool : LogSpool := .empty
  spoolOpen : Bool := false

structure LogEmission (F : Type) where
  logId : String
  severity : ℤ
  eventType : String
  productId : String
  payload : JsonFields F
  createdAt : String
  occurredAtNs : ℤ
  enqueueRaises : Bool := false

structure Emitted where
  record : Option SpoolRecord := none
  stored : Bool := false
  published : Option LogEventMessage := none

namespace LogProducer

section
variable {F : Type} [Runtime F]

def envelope (p : LogProducer) (e : LogEmission F) : Json F := .obj [
  ("schema_version", .int 2),
  ("event_type", .str e.eventType),
  ("severity", .int e.severity),
  ("source_node", .str p.nodeId),
  ("producer_instance_id", .str p.nodeInstanceId),
  ("session_id", .str p.sessionId),
  ("product_id", .str e.productId),
  ("payload", .obj e.payload)]

def createRecord (p : LogProducer) (e : LogEmission F) : Except PyError SpoolRecord := do
  let payloadJson ← (p.envelope e).canonicalJson
  return {
    logId := e.logId, revision := 1, payloadJson
    payloadDigest := Runtime.sha256Text F payloadJson }

end

section
variable (F : Type) [Runtime F]

/-- A record whose text cannot be decoded is not published (`none`); any other error is raised
to the caller. -/
def publishSpoolRecord (p : LogProducer) (occurredAtNs : ℤ) (record : SpoolRecord) :
    Except PyError (Option LogEventMessage) :=
  match (Json.loads record.payloadJson : Except PyError (Json F)) with
  | .error e => if e.kind = .valueError ∨ e.kind = .typeError then .ok none else .error e
  | .ok decoded =>
    match decoded.fields? with
    | none => .error { kind := .attributeError }
    | some envelope => do
      let severity ← (envelope.field "severity" (.int logInfo)).toInt
      return some {
        sessionId := p.sessionId
        logId := record.logId
        revision := record.revision
        severity
        eventType := (envelope.field "event_type" (.str "UNKNOWN")).toStr
        sourceNode := (envelope.field "source_node" (.str p.nodeId)).toStr
        producerInstanceId :=
          (envelope.field "producer_instance_id" (.str p.nodeInstanceId)).toStr
        productId := (envelope.field "product_id" (.str "")).toStr
        payloadJson := record.payloadJson
        payloadDigest := record.payloadDigest
        occurredAtNs }

/-- The records in their order, up to the first one that raises. -/
def publishAll (p : LogProducer) (occurredAtNs : ℤ) : List SpoolRecord → List LogEventMessage
  | [] => []
  | record :: records =>
    match p.publishSpoolRecord F occurredAtNs record with
    | .error _ => []
    | .ok published => published.toList ++ publishAll p occurredAtNs records

/-- Records without an acknowledgement, at most a hundred of them. -/
def flushSpool (p : LogProducer) (occurredAtNs : ℤ) : List LogEventMessage :=
  if p.spoolOpen then p.publishAll F occurredAtNs (p.spool.pending 100) else []

end

variable {F : Type} [Runtime F]

def publish (p : LogProducer) (e : LogEmission F) (record : SpoolRecord) : Option LogEventMessage :=
  (p.publishSpoolRecord F e.occurredAtNs record).toOption.join

/-- The common part of `_emit_log_event` and `_emit_durable_event`: they differ in what
becomes of a record that cannot be stored. -/
def emitEvent (p : LogProducer) (publishesUnstored : Bool) (e : LogEmission F) :
    Emitted × LogProducer :=
  match p.createRecord e with
  | .error _ => ({}, p)
  | .ok record =>
    let unstored := if publishesUnstored then p.publish e record else none
    if !p.spoolOpen || e.enqueueRaises then ({ record, published := unstored }, p)
    else match p.spool.enqueue e.createdAt record with
      | (.error _, _) => ({ record, published := unstored }, p)
      | (.ok (), spool) =>
        ({ record, stored := true, published := p.publish e record }, { p with spool })

/-- `_emit_log_event` of the Master node publishes also what it could not store. -/
def emitLogEvent (p : LogProducer) (e : LogEmission F) : Emitted × LogProducer := p.emitEvent true e

/-- `_emit_durable_event` of the Vision node publishes only what it has stored, and says
whether it has. -/
def emitDurableEvent (p : LogProducer) (e : LogEmission F) : Emitted × LogProducer :=
  p.emitEvent false e

def handleLogPersistedAck (p : LogProducer) (ack : LogPersistedAck) : LogProducer :=
  if ack.sessionId ≠ p.sessionId ∨ ack.producerNode ≠ p.nodeId ∨
      ack.ackedLogIds.length ≠ ack.ackedRevisions.length ∨ p.spoolOpen = false then p
  else
    let identities := (ack.ackedLogIds.zip ack.ackedRevisions).filter fun (logId, revision) =>
      logId ≠ "" && 0 < revision
    { p with spool := (p.spool.acknowledge identities).2 }

end LogProducer

end InspectionLine
