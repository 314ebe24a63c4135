import InspectionLine.EventProjection
import InspectionLine.GuardedUpdates
import InspectionLine.LogIdempotency
import InspectionLine.VisionEvents
import InspectionLine.WholeRuntime

/-! # The GPU metrics of a session

A Vision process reports its samples every ten seconds, and once more when it is shut down. The
Log node keeps one row a session, which a report replaces unless it has fewer samples or takes
back a normal shutdown. -/
namespace InspectionLine

open GuardedUpdates

/-! ### Reports of the Vision node -/

structure GpuSnapshot (F : Type) where
  available : Bool
  sampleCount : ℕ
  meanUtilizationPct : F
  meanVramUsedMib : F
  peakVramUsedMib : F
  totalVramMib : F

namespace GpuSnapshot

variable {F : Type}

def numbers (s : GpuSnapshot F) : JsonFields F := [
  ("gpu_sample_count", .int s.sampleCount),
  ("mean_gpu_utilization_pct", .float s.meanUtilizationPct),
  ("mean_vram_used_mib", .float s.meanVramUsedMib),
  ("peak_vram_used_mib", .float s.peakVramUsedMib),
  ("total_vram_mib", .float s.totalVramMib)]

/-- The event of `_stop_workers_and_flush`. -/
def shutdownEmission (s : GpuSnapshot F) (reason : String) (context : CallbackContext F) :
    LogEmission F :=
  context.emission "VISION_SESSION_METRICS" "" logInfo ([
    ("shutdown_reason", .str reason),
    ("normal_shutdown", .bool true),
    ("gpu_available", .bool s.available)] ++ s.numbers)

/-- The event of `_emit_gpu_metrics_snapshot`. -/
def periodicEmission (s : GpuSnapshot F) (context : CallbackContext F) : LogEmission F :=
  context.emission "VISION_GPU_METRICS_SNAPSHOT" "" logInfo
    (("normal_shutdown", .bool false) :: s.numbers)

end GpuSnapshot

namespace LogProducer

variable {F : Type} [Runtime F]

/-- The metrics are emitted once a session. -/
def emitSessionMetrics (p : LogProducer) (emitted : Bool) (s : GpuSnapshot F) (reason : String)
    (context : CallbackContext F) : Bool × LogProducer :=
  if p.sessionId ≠ "" ∧ emitted = false then
    (true, (p.emitDurableEvent (s.shutdownEmission reason context)).2)
  else (emitted, p)

def emitGpuMetricsSnapshot (p : LogProducer) (s : GpuSnapshot F) (context : CallbackContext F) :
    LogProducer :=
  if p.sessionId = "" ∨ s.sampleCount < 1 then p
  else (p.emitDurableEvent (s.periodicEmission context)).2

end LogProducer

/-! ### The row of an event -/

section
variable {F : Type} [Runtime F]

def LogTables.metricsRow (event : StoredLogEvent) (payload : JsonFields F) :
    Except PyError (GpuMetricsRow F) := do
  let real := fun name => do bindReal (← (payload.field name (.float Runtime.zero)).toFloat)
  return {
    normalShutdown := (payload.field "normal_shutdown" (.bool false)).truthy
    sampleCount := ← bindInt (← (payload.field "gpu_sample_count" (.int 0)).toInt)
    meanGpuUtilizationPct := ← real "mean_gpu_utilization_pct"
    meanVramUsedMib := ← real "mean_vram_used_mib"
    peakVramUsedMib := ← real "peak_vram_used_mib"
    totalVramMib := ← real "total_vram_mib"
    payloadJson := event.payloadJson }

def metricsTypes : List String := ["VISION_SESSION_METRICS", "VISION_GPU_METRICS_SNAPSHOT"]

/-- The session of a metrics event and the row it stands for, if it can be projected. -/
def StoredLogEvent.metrics? (event : StoredLogEvent) : Option (String × GpuMetricsRow F) :=
  if event.eventType ∈ metricsTypes then do
    let decoded : Json F ← (Json.loads event.payloadJson).toOption
    let envelope ← decoded.fields?
    let payload ← (envelope.field "payload" (.obj [])).fields?
    let sessionId := (envelope.field "session_id" (.str "")).toStr
    if sessionId = "" then none
    else (LogTables.metricsRow event payload).toOption.map (sessionId, ·)
  else none

structure MetricsEvent (F : Type) [Runtime F] (sessionId : String) where
  event : StoredLogEvent
  row : GpuMetricsRow F
  metrics : event.metrics? = some (sessionId, row)
  revision : bindInt event.revision = .ok event.revision
  severity : bindInt event.severity = .ok event.severity
  occurredAtNs : bindInt event.occurredAtNs = .ok event.occurredAtNs

namespace LogTables

theorem project_gpu_metrics_eq (t : LogTables F) (event : StoredLogEvent) (sessionId : String)
    (payload : JsonFields F) : t.projectGpuMetrics event sessionId payload =
      (metricsRow event payload).map (t.upsertGpuMetrics sessionId) := by
  unfold projectGpuMetrics metricsRow
  simp only [bind, Except.bind, pure, Except.pure]
  repeat' split
  all_goals rfl

omit [Runtime F] in
theorem ok_of_to_option {α : Type} {r : Except PyError α} {a : α} (h : r.toOption = some a) :
    r = .ok a := by
  cases r with
  | error e => cases h
  | ok b =>
    cases h
    rfl

theorem project_metrics {event : StoredLogEvent} {sessionId : String} {row : GpuMetricsRow F}
    (t : LogTables F) (h : event.metrics? = some (sessionId, row)) :
    t.projectEvent event = .ok (t.upsertGpuMetrics sessionId row) := by
  unfold StoredLogEvent.metrics? at h
  split at h
  · rename_i htype
    simp only [Option.bind_eq_bind, Option.bind_eq_some_iff] at h
    obtain ⟨decoded, hdecoded, envelope, henvelope, payload, hpayload, h⟩ := h
    split at h
    · cases h
    · rename_i hsession
      obtain ⟨found, hrow, heq⟩ := Option.map_eq_some_iff.mp h
      cases heq
      have hmetrics : ∀ sessionId, t.projectGpuMetrics event sessionId payload =
          .ok (t.upsertGpuMetrics sessionId row) := by
        intro sessionId
        rw [project_gpu_metrics_eq, ok_of_to_option hrow]
        rfl
      unfold projectEvent
      simp only [ok_of_to_option hdecoded, bind, Except.bind, henvelope, hpayload]
      rw [if_neg hsession]
      unfold projectPayload
      simp only [metricsTypes, List.mem_cons, List.not_mem_nil, or_false] at htype
      rcases htype with htype | htype <;> rw [htype] <;> exact hmetrics _
  · cases h

end LogTables

/-! ### The reports are metrics events -/

namespace GpuSnapshot

def row (s : GpuSnapshot F) (normalShutdown : Bool) (payloadJson : String) : GpuMetricsRow F where
  normalShutdown := normalShutdown
  sampleCount := s.sampleCount
  meanGpuUtilizationPct := s.meanUtilizationPct
  meanVramUsedMib := s.meanVramUsedMib
  peakVramUsedMib := s.peakVramUsedMib
  totalVramMib := s.totalVramMib
  payloadJson := payloadJson

structure Storable (s : GpuSnapshot F) : Prop where
  sampleCount : bindInt s.sampleCount = .ok s.sampleCount
  meanUtilizationPct : Runtime.isNaN s.meanUtilizationPct = false
  meanVramUsedMib : Runtime.isNaN s.meanVramUsedMib = false
  peakVramUsedMib : Runtime.isNaN s.peakVramUsedMib = false
  totalVramMib : Runtime.isNaN s.totalVramMib = false

inductive Reports (s : GpuSnapshot F) : Bool → LogEmission F → Prop where
  | shutdown (reason : String) (context : CallbackContext F) :
    s.Reports true (s.shutdownEmission reason context)
  | periodic (context : CallbackContext F) : s.Reports false (s.periodicEmission context)

theorem bind_real_eq {x : F} (h : Runtime.isNaN x = false) : bindReal x = .ok x := by
  unfold bindReal bindFloat
  rw [h]
  rfl

theorem bind_of_ok {α β : Type} (a : α) (f : α → Except PyError β) :
    (Except.ok a >>= f) = f a := rfl

omit [Runtime F] in
theorem Reports.keys_nodup {s : GpuSnapshot F} {normal : Bool} {e : LogEmission F}
    (h : s.Reports normal e) : (e.payload.map Prod.fst).Nodup := by
  cases h <;> simp only [shutdownEmission, periodicEmission, CallbackContext.emission, numbers,
    List.map_append, List.map_cons, List.map_nil] <;> decide

theorem metrics_row_received [LawfulRuntime F] {s : GpuSnapshot F} {normal : Bool}
    {e : LogEmission F} (h : s.Reports normal e) (hs : s.Storable) (event : StoredLogEvent) :
    LogTables.metricsRow event e.payload.received = .ok (s.row normal event.payloadJson) := by
  have hread := fun key default value (hvalue : e.payload.field key default = value) hdefault =>
    JsonFields.field_received h.keys_nodup hvalue hdefault
  have hnormal := hread "normal_shutdown" (.bool false) (.bool normal) (by cases h <;> rfl) rfl
  have hcount := hread "gpu_sample_count" (.int 0) (.int s.sampleCount) (by cases h <;> rfl) rfl
  have hreal : ∀ name x, e.payload.field name (.float Runtime.zero) = .float x →
      Runtime.isNaN x = false →
      (e.payload.received.field name (.float Runtime.zero)).toFloat >>= bindReal = .ok x := by
    intro name x hfield hnumber
    rw [hread name _ _ hfield rfl]
    exact bind_real_eq hnumber
  have hutilization := hreal "mean_gpu_utilization_pct" _ (by cases h <;> rfl)
    hs.meanUtilizationPct
  have hmean := hreal "mean_vram_used_mib" _ (by cases h <;> rfl) hs.meanVramUsedMib
  have hpeak := hreal "peak_vram_used_mib" _ (by cases h <;> rfl) hs.peakVramUsedMib
  have htotal := hreal "total_vram_mib" _ (by cases h <;> rfl) hs.totalVramMib
  unfold LogTables.metricsRow
  rw [hnormal, hcount]
  simp only [Json.canonical, Json.toInt, Json.truthy, hutilization, hmean, hpeak, htotal]
  rw [bind_of_ok, hs.sampleCount, bind_of_ok, bind_of_ok, bind_of_ok, bind_of_ok, bind_of_ok]
  exact rfl

def reportedEvent (p : LogProducer) (e : LogEmission F) (record : SpoolRecord) :
    StoredLogEvent where
  logId := e.logId
  revision := 1
  severity := e.severity
  eventType := e.eventType
  sourceNode := p.nodeId
  producerInstanceId := p.nodeInstanceId
  productId := e.productId
  payloadJson := record.payloadJson
  payloadDigest := record.payloadDigest
  occurredAtNs := e.occurredAtNs

omit [Runtime F] in
theorem Reports.distinct {s : GpuSnapshot F} {normal : Bool} {e : LogEmission F}
    (h : s.Reports normal e) : (Json.obj e.payload).Distinct := by
  refine ⟨h.keys_nodup, ?_⟩
  cases h
  · exact ⟨trivial, trivial, trivial, trivial, trivial, trivial, trivial, trivial, trivial⟩
  · exact ⟨trivial, trivial, trivial, trivial, trivial, trivial, trivial⟩

theorem metrics_reported [LawfulRuntime F] {s : GpuSnapshot F} {normal : Bool} {p : LogProducer}
    {e : LogEmission F} {record : SpoolRecord} (h : s.Reports normal e) (hs : s.Storable)
    (hsession : p.sessionId ≠ "") (hrecord : p.createRecord e = .ok record) :
    (reportedEvent p e record).metrics? =
      some (p.sessionId, s.row normal record.payloadJson) := by
  have htype : e.eventType ∈ metricsTypes := by
    cases h
    · exact List.mem_cons_self
    · exact List.mem_cons_of_mem _ List.mem_cons_self
  have hpayload : (p.envelopeFields e).received.field "payload" (.obj []) =
      .obj e.payload.received := JsonFields.field_received (LogProducer.envelope_keys p e) rfl rfl
  have hid : (p.envelopeFields e).received.field "session_id" (.str "") = .str p.sessionId :=
    JsonFields.field_received (LogProducer.envelope_keys p e) rfl rfl
  unfold StoredLogEvent.metrics?
  rw [if_pos (show (reportedEvent p e record).eventType ∈ metricsTypes from htype)]
  change (Json.loads record.payloadJson : Except PyError (Json F)).toOption.bind _ = _
  rw [LogProducer.loads_record hrecord h.distinct]
  simp only [Except.toOption, Option.bind_some, Json.fields?, hpayload, hid, Json.toStr,
    Option.bind_eq_bind]
  rw [if_neg hsession, metrics_row_received h hs]
  rfl

def metricsEvent [LawfulRuntime F] {s : GpuSnapshot F} {normal : Bool} {p : LogProducer}
    {e : LogEmission F} {record : SpoolRecord} (h : s.Reports normal e) (hs : s.Storable)
    (hsession : p.sessionId ≠ "") (hclock : bindInt e.occurredAtNs = .ok e.occurredAtNs)
    (hrecord : p.createRecord e = .ok record) : MetricsEvent F p.sessionId where
  event := reportedEvent p e record
  row := s.row normal record.payloadJson
  metrics := metrics_reported h hs hsession hrecord
  revision := rfl
  severity := by cases h <;> rfl
  occurredAtNs := hclock

theorem published_metrics_event [LawfulRuntime F] {s : GpuSnapshot F} {normal : Bool}
    {p : LogProducer} {e : LogEmission F} {record : SpoolRecord} (h : s.Reports normal e)
    (hs : s.Storable) (hsession : p.sessionId ≠ "")
    (hclock : bindInt e.occurredAtNs = .ok e.occurredAtNs)
    (hrecord : p.createRecord e = .ok record) :
    (p.publish e record).map LogEventMessage.toEvent =
      some (metricsEvent h hs hsession hclock hrecord).event := by
  rw [LogProducer.publish_created hrecord h.distinct]
  rfl

end GpuSnapshot

/-! ### The row of a session -/

namespace LogTables

omit [Runtime F] in
theorem metrics_update_iff {a b : GpuMetricsRow F} : metricsUpdate a b = true ↔
    a.sampleCount ≤ b.sampleCount ∧ (a.normalShutdown = true → b.normalShutdown = true) := by
  unfold metricsUpdate
  cases a.normalShutdown <;> simp

end LogTables

/-- The rows by what may overwrite what. -/
instance : Preorder (GpuMetricsRow F) where
  le a b := LogTables.metricsUpdate a b = true
  le_refl a := LogTables.metrics_update_iff.mpr ⟨le_refl _, id⟩
  le_trans a b c hab hbc := by
    obtain ⟨hcount, hnormal⟩ := LogTables.metrics_update_iff.mp hab
    obtain ⟨hcount', hnormal'⟩ := LogTables.metrics_update_iff.mp hbc
    exact LogTables.metrics_update_iff.mpr
      ⟨hcount.trans hcount', fun h => hnormal' (hnormal h)⟩

instance : DecidableLE (GpuMetricsRow F) :=
  fun a b => inferInstanceAs (Decidable (LogTables.metricsUpdate a b = true))

omit [Runtime F] in
theorem GpuMetricsRow.le_iff {a b : GpuMetricsRow F} : a ≤ b ↔
    a.sampleCount ≤ b.sampleCount ∧ (a.normalShutdown = true → b.normalShutdown = true) :=
  LogTables.metrics_update_iff

namespace LogTables

def gpuMetrics (t : LogTables F) (sessionId : String) : Option (GpuMetricsRow F) :=
  t.visionSessionGpuMetrics.get? sessionId

omit [Runtime F] in
theorem gpu_metrics_upsert (t : LogTables F) (sessionId : String) (row : GpuMetricsRow F) :
    (t.upsertGpuMetrics sessionId row).gpuMetrics sessionId =
      update (t.gpuMetrics sessionId) row := by
  unfold gpuMetrics upsertGpuMetrics
  cases hrow : t.visionSessionGpuMetrics.get? sessionId with
  | none => exact OrderedDict.get?_insert_self _ _ _
  | some stored =>
    simp only [Option.all_some, update]
    by_cases hle : metricsUpdate stored row = true
    · rw [if_pos hle, if_pos (show stored ≤ row from hle)]
      exact OrderedDict.get?_insert_self _ _ _
    · rw [if_neg hle, if_neg (show ¬ stored ≤ row from hle)]
      exact hrow

omit [Runtime F] in
theorem log_events_upsert (t : LogTables F) (sessionId : String) (row : GpuMetricsRow F) :
    (t.upsertGpuMetrics sessionId row).logEvents = t.logEvents := by
  unfold upsertGpuMetrics
  split <;> rfl

variable {sessionId : String}

/-- A metrics event that is delivered again changes nothing, whatever its digest. -/
theorem deliver_metrics_again {t : LogTables F} {m : MetricsEvent F sessionId} {row : LogEventRow}
    (committedAt : String) (h : t.logEvents.get? m.event.key = some row) :
    (t.deliver ⟨committedAt, m.event⟩).2 = t := by
  unfold deliver appendEvent transaction appendBody
  have hlogged : t.logEvents.get? (m.event.logId, m.event.revision) = some row := h
  simp only [m.revision, bind, Except.bind, hlogged]
  split
  · rename_i heq
    split at heq
    · cases heq
    · cases heq
      rfl
  · rfl

theorem deliver_metrics_new {t : LogTables F} {m : MetricsEvent F sessionId}
    (committedAt : String) (h : t.logEvents.get? m.event.key = none) :
    (t.deliver ⟨committedAt, m.event⟩).2 =
      (t.logged committedAt m.event).upsertGpuMetrics sessionId m.row := by
  unfold deliver appendEvent transaction appendBody
  have hnew : t.logEvents.get? (m.event.logId, m.event.revision) = none := h
  simp only [m.revision, m.severity, m.occurredAtNs, bind, Except.bind, hnew,
    project_metrics _ m.metrics]

end LogTables

/-! ### All orders of delivery -/

abbrev MetricsDelivery (F : Type) [Runtime F] (sessionId : String) :=
  String × MetricsEvent F sessionId

namespace MetricsEvent

variable {sessionId : String}

/-- The metrics of the session after the deliveries, each with its time of commit. -/
def storedAfter (t : LogTables F) (ds : List (MetricsDelivery F sessionId)) :
    Option (GpuMetricsRow F) :=
  (t.deliverAll (ds.map fun d => ⟨d.1, d.2.event⟩)).gpuMetrics sessionId

/-- In any order and any number of times, but each at least once. -/
def Delivers (ds : List (MetricsDelivery F sessionId)) (events : List (MetricsEvent F sessionId)) :
    Prop := ∀ m, m ∈ ds.map Prod.snd ↔ m ∈ events

/-- The order does not matter, and a normal shutdown is not forgotten. -/
structure OrderIrrelevant (t : LogTables F) (events : List (MetricsEvent F sessionId)) : Prop where
  same : ∀ ds ds', Delivers ds events → Delivers ds' events →
    storedAfter t ds = storedAfter t ds'
  shutdown : ∀ ds, Delivers ds events → ∀ m ∈ events, m.row.normalShutdown = true →
    ∃ row, storedAfter t ds = some row ∧ row.normalShutdown = true

/-- One event has as many samples as any, a normal shutdown if any has one, and the only row
with this count and this flag. -/
def Dominated (events : List (MetricsEvent F sessionId)) : Prop :=
  events = [] ∨ ∃ m ∈ events, ∀ n ∈ events,
    n.row.sampleCount ≤ m.row.sampleCount ∧
    (n.row.normalShutdown = true → m.row.normalShutdown = true) ∧
    (n.row.sampleCount = m.row.sampleCount → n.row.normalShutdown = m.row.normalShutdown →
      n.row = m.row)

theorem stored_after_again {t : LogTables F} {d : MetricsDelivery F sessionId} {row : LogEventRow}
    (h : t.logEvents.get? d.2.event.key = some row) (ds : List (MetricsDelivery F sessionId)) :
    storedAfter t (d :: ds) = storedAfter t ds := by
  unfold storedAfter LogTables.deliverAll
  rw [List.map_cons, List.foldl_cons, LogTables.deliver_metrics_again d.1 h]

def projected (t : LogTables F) (d : MetricsDelivery F sessionId) : LogTables F :=
  (t.logged d.1 d.2.event).upsertGpuMetrics sessionId d.2.row

theorem stored_after_new {t : LogTables F} {d : MetricsDelivery F sessionId}
    (h : t.logEvents.get? d.2.event.key = none) (ds : List (MetricsDelivery F sessionId)) :
    storedAfter t (d :: ds) = storedAfter (projected t d) ds := by
  unfold storedAfter LogTables.deliverAll
  rw [List.map_cons, List.foldl_cons, LogTables.deliver_metrics_new d.1 h]
  rfl

theorem gpu_metrics_projected (t : LogTables F) (d : MetricsDelivery F sessionId) :
    (projected t d).gpuMetrics sessionId = update (t.gpuMetrics sessionId) d.2.row :=
  LogTables.gpu_metrics_upsert (t.logged d.1 d.2.event) sessionId d.2.row

theorem not_logged_projected {t : LogTables F} {d : MetricsDelivery F sessionId}
    {key : String × ℤ} (h : t.logEvents.get? key = none) (hne : key ≠ d.2.event.key) :
    (projected t d).logEvents.get? key = none := by
  unfold projected
  rw [LogTables.log_events_upsert]
  by_contra hsome
  obtain ⟨row, hrow⟩ := Option.ne_none_iff_exists'.mp hsome
  rcases OrderedDict.get?_insertOrIgnore_cases hrow with hold | ⟨hkey, _⟩
  · cases h.symm.trans hold
  · exact hne hkey

theorem stored_after_arrivals (t : LogTables F) (ds : List (MetricsDelivery F sessionId)) :
    ∃ first : List (MetricsEvent F sessionId),
      storedAfter t ds = updateAll (t.gpuMetrics sessionId) (first.map (·.row)) ∧
      (∀ m ∈ first, m ∈ ds.map Prod.snd) ∧
      ∀ m ∈ ds.map Prod.snd, t.logEvents.get? m.event.key = none →
        ∃ n ∈ first, n.event.key = m.event.key := by
  induction ds generalizing t with
  | nil =>
    exact ⟨[], rfl, fun m hm => absurd hm List.not_mem_nil,
      fun m hm => absurd hm List.not_mem_nil⟩
  | cons d ds ih =>
    cases hlogged : t.logEvents.get? d.2.event.key with
    | some row =>
      obtain ⟨first, hstored, hfrom, hall⟩ := ih t
      refine ⟨first, (stored_after_again hlogged ds).trans hstored,
        fun m hm => List.mem_cons_of_mem _ (hfrom m hm), fun m hm hnew => ?_⟩
      rcases List.mem_cons.mp hm with rfl | hm
      · cases hnew.symm.trans hlogged
      · exact hall m hm hnew
    | none =>
      obtain ⟨first, hstored, hfrom, hall⟩ := ih (projected t d)
      refine ⟨d.2 :: first, ?_, fun m hm => ?_, fun m hm hnew => ?_⟩
      · rw [stored_after_new hlogged, hstored, gpu_metrics_projected]
        rfl
      · rcases List.mem_cons.mp hm with rfl | hm
        · exact List.mem_cons_self
        · exact List.mem_cons_of_mem _ (hfrom m hm)
      · by_cases hkey : m.event.key = d.2.event.key
        · exact ⟨d.2, List.mem_cons_self, hkey.symm⟩
        · rcases List.mem_cons.mp hm with rfl | hm
          · exact absurd rfl hkey
          · obtain ⟨n, hn, hsame⟩ := hall m hm (not_logged_projected hnew hkey)
            exact ⟨n, List.mem_cons_of_mem _ hn, hsame⟩

theorem stored_after_once (t : LogTables F) {ds : List (MetricsDelivery F sessionId)}
    (hnodup : (ds.map fun d => d.2.event.key).Nodup)
    (hnew : ∀ d ∈ ds, t.logEvents.get? d.2.event.key = none) :
    storedAfter t ds = updateAll (t.gpuMetrics sessionId) (ds.map (·.2.row)) := by
  induction ds generalizing t with
  | nil => rfl
  | cons d ds ih =>
    rw [List.map_cons, List.nodup_cons] at hnodup
    have hothers : ∀ e ∈ ds, (projected t d).logEvents.get? e.2.event.key = none := by
      intro e he
      refine not_logged_projected (hnew e (List.mem_cons_of_mem d he)) fun hkey => ?_
      exact hnodup.1 (List.mem_map.mpr ⟨e, he, hkey⟩)
    rw [stored_after_new (hnew d List.mem_cons_self), ih (projected t d) hnodup.2 hothers,
      gpu_metrics_projected]
    rfl

omit [Runtime F] in
theorem eq_of_row_key {a b : GpuMetricsRow F} (h : a ≤ b) (k : b ≤ a) :
    a.sampleCount = b.sampleCount ∧ a.normalShutdown = b.normalShutdown := by
  obtain ⟨hcount, hnormal⟩ := GpuMetricsRow.le_iff.mp h
  obtain ⟨hcount', hnormal'⟩ := GpuMetricsRow.le_iff.mp k
  exact ⟨le_antisymm hcount hcount', Bool.eq_iff_iff.mpr ⟨hnormal, hnormal'⟩⟩

theorem dominated_iff {events : List (MetricsEvent F sessionId)} :
    Dominated events ↔ events = [] ∨ ∃ row, Summit row (events.map (·.row)) := by
  refine or_congr_right ⟨?_, ?_⟩
  · rintro ⟨m, hm, hdominates⟩
    have habove : ∀ n ∈ events, n.row ≤ m.row := fun n hn =>
      GpuMetricsRow.le_iff.mpr ⟨(hdominates n hn).1, (hdominates n hn).2.1⟩
    refine ⟨m.row, List.mem_map_of_mem hm, ?_, ?_⟩
    · rintro _ hrow
      obtain ⟨n, hn, rfl⟩ := List.mem_map.mp hrow
      exact habove n hn
    · rintro _ hrow hle
      obtain ⟨n, hn, rfl⟩ := List.mem_map.mp hrow
      obtain ⟨hcount, hnormal⟩ := eq_of_row_key (habove n hn) hle
      exact (hdominates n hn).2.2 hcount hnormal
  · rintro ⟨row, hsummit⟩
    obtain ⟨m, hm, rfl⟩ := List.mem_map.mp hsummit.mem
    refine ⟨m, hm, fun n hn => ?_⟩
    have hle := hsummit.above n.row (List.mem_map_of_mem hn)
    refine ⟨(GpuMetricsRow.le_iff.mp hle).1, (GpuMetricsRow.le_iff.mp hle).2,
      fun hcount hnormal => hsummit.alone n.row (List.mem_map_of_mem hn) ?_⟩
    exact GpuMetricsRow.le_iff.mpr ⟨hcount.ge, fun h => hnormal.trans h⟩

/-- Whatever the order, the row is the summit of the events. -/
theorem stored_after_summit {t : LogTables F} {events : List (MetricsEvent F sessionId)}
    {ds : List (MetricsDelivery F sessionId)} {row : GpuMetricsRow F}
    (hkeys : (events.map (·.event.key)).Nodup) (hempty : t.gpuMetrics sessionId = none)
    (hnew : ∀ m ∈ events, t.logEvents.get? m.event.key = none)
    (hsummit : Summit row (events.map (·.row))) (hds : Delivers ds events) :
    storedAfter t ds = some row := by
  obtain ⟨first, hstored, hfrom, hall⟩ := stored_after_arrivals t ds
  obtain ⟨m, hm, rfl⟩ := List.mem_map.mp hsummit.mem
  obtain ⟨n, hn, hkey⟩ := hall m ((hds m).mpr hm) (hnew m hm)
  have hsame : n = m := List.inj_on_of_nodup_map hkeys ((hds n).mp (hfrom n hn)) hm hkey
  have hrows : ∀ x ∈ first.map (·.row), x ∈ events.map (·.row) := by
    intro x hx
    obtain ⟨k, hk, rfl⟩ := List.mem_map.mp hx
    exact List.mem_map_of_mem ((hds k).mp (hfrom k hk))
  have hfirst : Summit m.row (first.map (·.row)) :=
    ⟨List.mem_map.mpr ⟨n, hn, by rw [hsame]⟩, fun x hx => hsummit.above x (hrows x hx),
      fun x hx => hsummit.alone x (hrows x hx)⟩
  rw [hstored, hempty, hfirst.wins]

/-- The stored metrics are the same for every order, and keep a normal shutdown, if and only
if one of the events dominates them all. -/
theorem order_irrelevant_iff_dominated {t : LogTables F}
    {events : List (MetricsEvent F sessionId)}
    (hkeys : (events.map (·.event.key)).Nodup) (hempty : t.gpuMetrics sessionId = none)
    (hnew : ∀ m ∈ events, t.logEvents.get? m.event.key = none) :
    OrderIrrelevant t events ↔ Dominated events := by
  rw [dominated_iff]
  constructor
  · intro h
    refine (order_irrelevant_iff (·.row) events).mp fun ys hys => ?_
    have hstored : ∀ zs : List (MetricsEvent F sessionId), zs.Perm events →
        storedAfter t (zs.map fun m => ("", m)) = updateAll none (zs.map (·.row)) := by
      intro zs hzs
      rw [stored_after_once, hempty, List.map_map]
      · rfl
      · rw [List.map_map]
        exact ((hzs.map _).nodup_iff).mpr hkeys
      · intro d hd
        obtain ⟨m, hm, rfl⟩ := List.mem_map.mp hd
        exact hnew m (hzs.mem_iff.mp hm)
    have hdelivers : ∀ zs : List (MetricsEvent F sessionId), zs.Perm events →
        Delivers (zs.map fun m => ("", m)) events := by
      intro zs hzs m
      rw [List.map_map, ← hzs.mem_iff]
      simp
    rw [← hstored ys hys, ← hstored events (List.Perm.refl _)]
    exact h.same _ _ (hdelivers ys hys) (hdelivers events (List.Perm.refl _))
  · rintro (rfl | ⟨row, hsummit⟩)
    · refine ⟨fun ds ds' hds hds' => ?_, fun ds _ m hm => absurd hm List.not_mem_nil⟩
      have hnil : ∀ es : List (MetricsDelivery F sessionId), Delivers es [] → es = [] := by
        intro es hes
        refine List.eq_nil_iff_forall_not_mem.mpr fun d hd => ?_
        cases (hes d.2).mp (List.mem_map_of_mem hd)
      rw [hnil ds hds, hnil ds' hds']
    · refine ⟨fun ds ds' hds hds' => ?_, fun ds hds m hm hnormal => ⟨row, ?_, ?_⟩⟩
      · rw [stored_after_summit hkeys hempty hnew hsummit hds,
          stored_after_summit hkeys hempty hnew hsummit hds']
      · exact stored_after_summit hkeys hempty hnew hsummit hds
      · have hle := hsummit.above m.row (List.mem_map_of_mem hm)
        exact (GpuMetricsRow.le_iff.mp hle).2 hnormal

/-- A session that one process serves to its end: the last report has the most samples. -/
theorem dominated_of_shutdown {events : List (MetricsEvent F sessionId)}
    {m : MetricsEvent F sessionId} (hm : m ∈ events) (hnormal : m.row.normalShutdown = true)
    (hothers : ∀ n ∈ events, n = m ∨ n.row.normalShutdown = false)
    (hcount : ∀ n ∈ events, n.row.sampleCount ≤ m.row.sampleCount) : Dominated events := by
  refine .inr ⟨m, hm, fun n hn => ⟨hcount n hn, fun _ => hnormal, fun _ hsame => ?_⟩⟩
  rcases hothers n hn with rfl | hperiodic
  · rfl
  · rw [hperiodic, hnormal] at hsame
    cases hsame

end MetricsEvent

end

section

def sampledGpu (sampleCount : ℕ) : GpuSnapshot ℤ where
  available := true
  sampleCount := sampleCount
  meanUtilizationPct := 40
  meanVramUsedMib := 2048
  peakVramUsedMib := 4096
  totalVramMib := 8151

def visionProcess (nodeInstanceId : String) : LogProducer where
  nodeId := "vision"
  nodeInstanceId := nodeInstanceId
  sessionId := "session-1"

def reportContext (logId : String) : CallbackContext ℤ where
  logId := logId
  createdAt := ""
  occurredAtNs := 0

def reportDigests : List (String × String) := [
  ((visionProcess "instance-1").payloadText
      ((sampledGpu 50).periodicEmission (reportContext "log-1")),
    "3a4852d503d8f15873cea1149b7a44d2a2497f9134111cd4966bab978b99cb4a"),
  ((visionProcess "instance-1").payloadText
      ((sampledGpu 60).shutdownEmission "node destroy" (reportContext "log-2")),
    "522ea3c511c0ed79843520667038ef0b7eff26589eb484e3fb47c82f55477a0f"),
  ((visionProcess "instance-2").payloadText
      ((sampledGpu 10).shutdownEmission "node destroy" (reportContext "log-3")),
    "43e0424d17589eabe9b4940e01621c56b927f24205a593e7b6c1ce9c842e1ee3")]

local instance wholeNumbers : Runtime ℤ := .whole reportDigests

local instance : LawfulRuntime ℤ := Runtime.whole_lawful reportDigests

theorem sampled_gpu_storable {sampleCount : ℕ}
    (h : bindInt sampleCount = .ok (sampleCount : ℤ)) : (sampledGpu sampleCount).Storable :=
  ⟨h, rfl, rfl, rfl, rfl⟩

theorem session_named (nodeInstanceId : String) :
    (visionProcess nodeInstanceId).sessionId ≠ "" := by
  change "session-1" ≠ ""
  decide

/-- The record of a process, whose text is not needed here. -/
def reportRecord (p : LogProducer) (e : LogEmission ℤ) : SpoolRecord :=
  (p.createRecord e).toOption.getD ⟨"", 0, "", ""⟩

theorem report_record_created {p : LogProducer} {e : LogEmission ℤ}
    (h : (p.createRecord e).isOk = true) : p.createRecord e = .ok (reportRecord p e) := by
  unfold reportRecord
  cases hrecord : p.createRecord e with
  | error err =>
    rw [hrecord] at h
    cases h
  | ok record => rfl

/-- A process of the session reports its samples, in operation or at its shutdown. -/
def report (nodeInstanceId : String) (sampleCount : ℕ) {normal : Bool} {e : LogEmission ℤ}
    (h : (sampledGpu sampleCount).Reports normal e)
    (hcount : bindInt sampleCount = .ok (sampleCount : ℤ))
    (hclock : bindInt e.occurredAtNs = .ok e.occurredAtNs)
    (hrecord : ((visionProcess nodeInstanceId).createRecord e).isOk = true) :
    MetricsEvent ℤ "session-1" :=
  GpuSnapshot.metricsEvent h (sampled_gpu_storable hcount) (session_named nodeInstanceId)
    hclock (report_record_created hrecord)

def fiftySamples : MetricsEvent ℤ "session-1" :=
  report "instance-1" 50 (.periodic (reportContext "log-1")) rfl rfl (by decide +kernel)

def sixtySamples : MetricsEvent ℤ "session-1" :=
  report "instance-1" 60 (.shutdown "node destroy" (reportContext "log-2")) rfl rfl
    (by decide +kernel)

def tenSamples : MetricsEvent ℤ "session-1" :=
  report "instance-2" 10 (.shutdown "node destroy" (reportContext "log-3")) rfl rfl
    (by decide +kernel)

open MetricsEvent

/-- One process, from a periodic report to its shutdown. -/
theorem one_process_order_irrelevant :
    OrderIrrelevant ({} : LogTables ℤ) [fiftySamples, sixtySamples] := by
  refine (order_irrelevant_iff_dominated (by decide +kernel) rfl fun _ _ => rfl).mpr ?_
  refine dominated_of_shutdown (m := sixtySamples) (by simp) rfl (fun n hn => ?_) fun n hn => ?_
  · rcases List.mem_pair.mp hn with rfl | rfl
    · exact .inr rfl
    · exact .inl rfl
  · rcases List.mem_pair.mp hn with rfl | rfl <;> decide

/-- The second process of a session is shut down after ten samples, the first one reported fifty:
the shutdown is forgotten. -/
theorem second_shutdown_forgotten :
    ¬ ∀ events : List (MetricsEvent ℤ "session-1"), (events.map (·.event.key)).Nodup →
      OrderIrrelevant ({} : LogTables ℤ) events := by
  intro h
  have hkeys : ([fiftySamples, tenSamples].map (·.event.key)).Nodup := by decide +kernel
  have hdelivers : Delivers [("", fiftySamples), ("", tenSamples)] [fiftySamples, tenSamples] :=
    fun m => Iff.rfl
  have hstored : storedAfter {} [("", fiftySamples), ("", tenSamples)] = some fiftySamples.row :=
    stored_after_once {} hkeys fun _ _ => rfl
  obtain ⟨row, hrow, hnormal⟩ := (h _ hkeys).shutdown _ hdelivers tenSamples (by simp) rfl
  cases hstored.symm.trans hrow
  cases hnormal

end

end InspectionLine
