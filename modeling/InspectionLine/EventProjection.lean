import InspectionLine.JsonRoundTrip
import InspectionLine.LogNode
import InspectionLine.SuccessfulRuns

/-! # An event on its way into the tables

The Log node reads the envelope and the payload that the producer wrote, with the keys in
order. -/
namespace InspectionLine

open SuccessfulRuns

variable {F : Type} [Runtime F] [LawfulRuntime F]

def JsonFields.received (fields : JsonFields F) : JsonFields F :=
  (Json.canonicalFields fields).insertionSort Json.byKey

omit [Runtime F] [LawfulRuntime F] in
theorem JsonFields.field_received {fields : JsonFields F} {key : String} {default value : Json F}
    (h : (fields.map Prod.fst).Nodup) (hvalue : fields.field key default = value)
    (hdefault : default.canonical = default) :
    fields.received.field key default = value.canonical :=
  hvalue ▸ Json.field_sorted h key hdefault

namespace LogProducer

variable {p : LogProducer} {e : LogEmission F} {record : SpoolRecord}

omit [LawfulRuntime F] in
theorem create_record_text (h : p.createRecord e = .ok record) :
    (p.envelope e).canonicalJson = .ok record.payloadJson ∧ record.logId = e.logId ∧
      record.revision = 1 := by
  unfold createRecord at h
  obtain ⟨text, htext, h⟩ := bind_ok.mp h
  cases h
  exact ⟨htext, rfl, rfl⟩

def envelopeFields (p : LogProducer) (e : LogEmission F) : JsonFields F := [
  ("schema_version", .int 2),
  ("event_type", .str e.eventType),
  ("severity", .int e.severity),
  ("source_node", .str p.nodeId),
  ("producer_instance_id", .str p.nodeInstanceId),
  ("session_id", .str p.sessionId),
  ("product_id", .str e.productId),
  ("payload", .obj e.payload)]

omit [Runtime F] [LawfulRuntime F] in
theorem envelope_keys (p : LogProducer) (e : LogEmission F) :
    ((p.envelopeFields e).map Prod.fst).Nodup := by
  simp only [envelopeFields, List.map_cons, List.map_nil]
  decide

theorem loads_record (h : p.createRecord e = .ok record) (hd : (Json.obj e.payload).Distinct) :
    (Json.loads record.payloadJson : Except PyError (Json F)) =
      .ok (.obj (p.envelopeFields e).received) := by
  refine Json.loads_canonical (create_record_text h).1 ⟨envelope_keys p e, ?_⟩
  exact ⟨trivial, trivial, trivial, trivial, trivial, trivial, trivial, hd, trivial⟩

theorem publish_created (h : p.createRecord e = .ok record)
    (hd : (Json.obj e.payload).Distinct) :
    p.publish e record = some {
      sessionId := p.sessionId
      logId := e.logId
      revision := 1
      severity := e.severity
      eventType := e.eventType
      sourceNode := p.nodeId
      producerInstanceId := p.nodeInstanceId
      productId := e.productId
      payloadJson := record.payloadJson
      payloadDigest := record.payloadDigest
      occurredAtNs := e.occurredAtNs } := by
  obtain ⟨_, hid, hrevision⟩ := create_record_text h
  have hseverity : (p.envelopeFields e).received.field "severity" (.int logInfo) =
      .int e.severity := JsonFields.field_received (envelope_keys p e) rfl rfl
  have htype : (p.envelopeFields e).received.field "event_type" (.str "UNKNOWN") =
      .str e.eventType := JsonFields.field_received (envelope_keys p e) rfl rfl
  have hsource : (p.envelopeFields e).received.field "source_node" (.str p.nodeId) =
      .str p.nodeId := JsonFields.field_received (envelope_keys p e) rfl rfl
  have hinstance : (p.envelopeFields e).received.field "producer_instance_id"
      (.str p.nodeInstanceId) = .str p.nodeInstanceId :=
    JsonFields.field_received (envelope_keys p e) rfl rfl
  have hproduct : (p.envelopeFields e).received.field "product_id" (.str "") =
      .str e.productId := JsonFields.field_received (envelope_keys p e) rfl rfl
  unfold publish publishSpoolRecord
  simp only [loads_record h hd, Json.fields?, hseverity, htype, hsource, hinstance, hproduct, hid,
    hrevision]
  rfl

end LogProducer

theorem LogTables.project_created {p : LogProducer} {e : LogEmission F} {record : SpoolRecord}
    {event : StoredLogEvent} (t : LogTables F) (h : p.createRecord e = .ok record)
    (hd : (Json.obj e.payload).Distinct) (hjson : event.payloadJson = record.payloadJson)
    (hsession : p.sessionId ≠ "") :
    t.projectEvent event = t.projectPayload event p.sessionId e.payload.received := by
  have hpayload : (p.envelopeFields e).received.field "payload" (.obj []) =
      .obj e.payload.received := JsonFields.field_received (LogProducer.envelope_keys p e) rfl rfl
  have hid : (p.envelopeFields e).received.field "session_id" (.str "") =
      .str p.sessionId := JsonFields.field_received (LogProducer.envelope_keys p e) rfl rfl
  unfold projectEvent
  rw [hjson, LogProducer.loads_record h hd]
  simp only [bind, Except.bind, Json.fields?, hpayload, hid, Json.toStr]
  exact if_neg hsession

/-! ### The Log node takes what a producer publishes -/

omit [Runtime F] [LawfulRuntime F] in
theorem JsonFields.field?_received {fields : JsonFields F} {key : String} {value : Json F}
    (h : (fields.map Prod.fst).Nodup) (hvalue : fields.field? key = some value) :
    fields.received.field? key = some value.canonical := by
  have hsorted := Json.field?_sorted h key
  rw [hvalue] at hsorted
  exact hsorted

omit [LawfulRuntime F] in
theorem matching_text {envelope : JsonFields F} {field text : String}
    (h : envelope.field? field = some (.str text)) :
    requireMatchingField envelope field text = .ok () := by
  simp [requireMatchingField, h, Json.toStr]

/-- The identity of an event that Log asks for. -/
structure LogProducer.Names (p : LogProducer) (e : LogEmission F) : Prop where
  logId : e.logId ≠ ""
  eventType : e.eventType ≠ ""
  nodeId : p.nodeId ≠ ""
  nodeInstanceId : p.nodeInstanceId ≠ ""
  occurred : 0 ≤ e.occurredAtNs

/-- A message that a producer publishes of its own record passes every check of the Log node. -/
theorem published_event_valid {p : LogProducer} {e : LogEmission F} {record : SpoolRecord}
    {message : LogEventMessage} (h : p.createRecord e = .ok record)
    (hd : (Json.obj e.payload).Distinct) (hnames : p.Names e)
    (hpublish : p.publish e record = some message) :
    validateEvent F message.toEvent = .ok () := by
  rw [LogProducer.publish_created h hd] at hpublish
  obtain rfl := Option.some.inj hpublish
  have hdigest : Runtime.sha256Text F record.payloadJson = record.payloadDigest := by
    unfold LogProducer.createRecord at h
    obtain ⟨text, -, h⟩ := bind_ok.mp h
    cases h
    rfl
  have hread := fun key value (hvalue : (p.envelopeFields e).field? key = some value) =>
    JsonFields.field?_received (LogProducer.envelope_keys p e) hvalue
  have hversion : (p.envelopeFields e).received.field "schema_version" .null = .int 2 :=
    JsonFields.field_received (LogProducer.envelope_keys p e) rfl rfl
  unfold validateEvent
  simp only [LogEventMessage.toEvent, LogProducer.loads_record h hd, Json.fields?, hversion,
    matching_text (hread "event_type" (.str e.eventType) rfl),
    matching_text (hread "source_node" (.str p.nodeId) rfl),
    matching_text (hread "producer_instance_id" (.str p.nodeInstanceId) rfl),
    matching_text (hread "product_id" (.str e.productId) rfl),
    hread "severity" (.int e.severity) rfl, hread "payload" (.obj e.payload) rfl]
  simp [require, hnames.logId, hnames.eventType, hnames.nodeId, hnames.nodeInstanceId,
    hnames.occurred, hdigest, Json.equalsInt, Json.canonical, Json.toInt, bind, Except.bind]

end InspectionLine
