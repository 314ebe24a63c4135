import InspectionLine.LogIdempotency
import InspectionLine.LogNode
import InspectionLine.InputRuns
import InspectionLine.SuccessfulRuns

/-! # Log records between producer and Log node

Published messages and acknowledgements stay in the network for good: losing one is never
delivering it, and it can be delivered at any later time, to any node, any number of times. -/
namespace InspectionLine

open InputRuns SuccessfulRuns

namespace LogSpool

variable {spool : LogSpool} {record : SpoolRecord}

theorem enqueue_spec {createdAt : String} {spool' : LogSpool}
    (h : spool.enqueue createdAt record = (.ok (), spool')) :
    (∃ row, spool'.get? record.key = some row ∧ row.payloadDigest = record.payloadDigest) ∧
    (∀ key row, spool.get? key = some row → spool'.get? key = some row) ∧
    ∀ key row, spool'.get? key = some row → spool.get? key = some row ∨
      key = record.key ∧ row.payloadDigest = record.payloadDigest := by
  unfold enqueue transaction at h
  split at h
  · rename_i result hbody
    cases h
    unfold enqueueBody at hbody
    obtain ⟨revision, hrevision, hbody⟩ := bind_ok.mp hbody
    obtain rfl := bind_int_eq hrevision
    split at hbody
    · cases hbody
    · rename_i hsame
      cases hbody
      refine ⟨?_, fun key row hrow => OrderedDict.get?_insertOrIgnore_of_some hrow _ _, ?_⟩
      · cases hold : spool.get? record.key with
        | none => exact ⟨_, OrderedDict.get?_insertOrIgnore_self hold _, rfl⟩
        | some row =>
          refine ⟨row, OrderedDict.get?_insertOrIgnore_of_some hold _ _, ?_⟩
          have hold : spool.get? (record.logId, record.revision) = some row := hold
          simpa [hold] using hsame
      · intro key row hrow
        rcases OrderedDict.get?_insertOrIgnore_cases hrow with hold | ⟨rfl, rfl⟩
        · exact .inl hold
        · exact .inr ⟨rfl, rfl⟩
  · cases h

theorem mem_pending {limit : ℕ} (h : record ∈ spool.pending limit) :
    ∃ row, spool.get? record.key = some row ∧ row.payloadDigest = record.payloadDigest := by
  obtain ⟨entry, hentry, rfl⟩ := List.mem_map.mp h
  have hmem : entry ∈ spool.entries := (List.mem_insertionSort _).mp (List.mem_of_mem_take hentry)
  exact ⟨entry.2, OrderedDict.get?_eq_some.mpr hmem, rfl⟩

theorem acknowledge_fold {identities : List (String × ℤ)} {result : LogSpool}
    (h : acknowledgeBody identities spool = .ok result) (key : String × ℤ) :
    result.get? key = if key ∈ identities then none else spool.get? key := by
  induction identities generalizing spool with
  | nil =>
    cases h
    simp
  | cons id identities ih =>
    rw [acknowledgeBody, List.foldlM_cons] at h
    obtain ⟨erased, herased, h⟩ := bind_ok.mp h
    obtain ⟨revision, hrevision, herased⟩ := bind_ok.mp herased
    obtain rfl := bind_int_eq hrevision
    cases herased
    rw [ih h, OrderedDict.get?_erase]
    by_cases hkey : key = id
    · subst hkey
      simp
    · simp [hkey]

theorem acknowledge_spec (identities : List (String × ℤ)) (key : String × ℤ) :
    (spool.acknowledge identities).2.get? key = spool.get? key ∨
      key ∈ identities ∧ (spool.acknowledge identities).2.get? key = none := by
  unfold acknowledge transaction
  split
  · rename_i result hfold
    rw [acknowledge_fold hfold]
    by_cases hkey : key ∈ identities
    · exact .inr ⟨hkey, if_pos hkey⟩
    · exact .inl (if_neg hkey)
  · exact .inl rfl

end LogSpool

namespace LogProducer

variable {F : Type} [Runtime F] {p : LogProducer}

theorem publish_spool_record_key {occurredAtNs : ℤ} {record : SpoolRecord}
    {message : LogEventMessage}
    (h : p.publishSpoolRecord F occurredAtNs record = .ok (some message)) :
    message.key = record.key ∧ message.payloadDigest = record.payloadDigest := by
  unfold publishSpoolRecord at h
  split at h
  · split at h <;> cases h
  · split at h
    · cases h
    · obtain ⟨severity, -, h⟩ := bind_ok.mp h
      cases h
      exact ⟨rfl, rfl⟩

theorem publish_key {e : LogEmission F} {record : SpoolRecord} {message : LogEventMessage}
    (h : p.publish e record = some message) :
    message.key = record.key ∧ message.payloadDigest = record.payloadDigest := by
  unfold publish at h
  cases hpublish : p.publishSpoolRecord F e.occurredAtNs record with
  | error error => simp [hpublish, Except.toOption] at h
  | ok published =>
    simp only [hpublish, Except.toOption, Option.join_some] at h
    exact publish_spool_record_key (h ▸ hpublish)

theorem mem_publish_all {occurredAtNs : ℤ} {records : List SpoolRecord} {message : LogEventMessage}
    (h : message ∈ p.publishAll F occurredAtNs records) :
    ∃ record ∈ records, message.key = record.key ∧
      message.payloadDigest = record.payloadDigest := by
  induction records with
  | nil => cases h
  | cons record records ih =>
    unfold publishAll at h
    split at h
    · cases h
    · rename_i published hpublished
      rcases List.mem_append.mp h with hnow | hlater
      · obtain rfl := Option.mem_def.mp (Option.mem_toList.mp hnow)
        exact ⟨record, List.mem_cons_self, publish_spool_record_key hpublished⟩
      · obtain ⟨other, hother, hsame⟩ := ih hlater
        exact ⟨other, List.mem_cons_of_mem _ hother, hsame⟩

theorem mem_flush_spool {occurredAtNs : ℤ} {message : LogEventMessage}
    (h : message ∈ p.flushSpool F occurredAtNs) :
    ∃ row, p.spool.get? message.key = some row ∧ row.payloadDigest = message.payloadDigest := by
  unfold flushSpool at h
  split at h
  · obtain ⟨record, hrecord, hkey, hdigest⟩ := mem_publish_all h
    rw [hkey, hdigest]
    exact LogSpool.mem_pending hrecord
  · cases h

/-- What an emission made: a record with the new id, whose message is published if any, and
which is stored or leaves the producer as it was. -/
structure EmitSpec (p : LogProducer) (e : LogEmission F) (record : SpoolRecord)
    (result : Emitted × LogProducer) : Prop where
  made : result.1.record = some record
  logId : record.logId = e.logId
  published : ∀ message, result.1.published = some message →
    message.key = record.key ∧ message.payloadDigest = record.payloadDigest
  stored : if result.1.stored then p.spool.enqueue e.createdAt record = (.ok (), result.2.spool)
    else result.2 = p

theorem emit_event_spec (p : LogProducer) (publishesUnstored : Bool) (e : LogEmission F) :
    p.emitEvent publishesUnstored e = ({}, p) ∨
    ∃ record, EmitSpec p e record (p.emitEvent publishesUnstored e) := by
  unfold emitEvent
  split
  · exact .inl rfl
  · rename_i record hrecord
    have hid : record.logId = e.logId := by
      unfold createRecord at hrecord
      obtain ⟨text, -, hrecord⟩ := bind_ok.mp hrecord
      cases hrecord
      rfl
    have hunstored : EmitSpec p e record
        ({ record, published := if publishesUnstored then p.publish e record else none }, p) := by
      refine ⟨rfl, hid, fun message hmessage => ?_, rfl⟩
      cases publishesUnstored
      · cases hmessage
      · exact publish_key hmessage
    refine .inr ⟨record, ?_⟩
    simp only
    split
    · exact hunstored
    · split
      · exact hunstored
      · rename_i spool henqueue
        exact ⟨rfl, hid, fun _ hmessage => publish_key hmessage, henqueue⟩

theorem handle_log_persisted_ack_spec (p : LogProducer) (ack : LogPersistedAck)
    (key : String × ℤ) :
    (p.handleLogPersistedAck ack).spool.get? key = p.spool.get? key ∨
      key ∈ ack.ackedLogIds.zip ack.ackedRevisions ∧
        (p.handleLogPersistedAck ack).spool.get? key = none := by
  unfold handleLogPersistedAck
  split
  · exact .inl rfl
  · rcases p.spool.acknowledge_spec _ key with hsame | ⟨hmem, hnone⟩
    · exact .inl hsame
    · exact .inr ⟨List.mem_of_mem_filter hmem, hnone⟩

end LogProducer

namespace LogNode

variable {F : Type}

/-- The commit comes before the acknowledgement. -/
structure LogSpec (n : LogNode F) (message : LogEventMessage)
    (result : Option LogPersistedAck × LogNode F) : Prop where
  kept : ∀ key row, n.tables.logEvents.get? key = some row →
    result.2.tables.logEvents.get? key = some row
  added : ∀ key row, result.2.tables.logEvents.get? key = some row →
    n.tables.logEvents.get? key = some row ∨
      key = message.key ∧ row.event.payloadDigest = message.payloadDigest
  acked : ∀ ack, result.1 = some ack →
    ack.ackedLogIds.zip ack.ackedRevisions = [message.key] ∧
      ∃ row, result.2.tables.logEvents.get? message.key = some row

theorem log_spec_silent (n : LogNode F) (message : LogEventMessage) :
    LogSpec n message (none, n) where
  kept _ _ h := h
  added _ _ h := .inl h
  acked _ h := by cases h

theorem log_events_retention (n : LogNode F) (storage : Storage) :
    (n.enforceImageRetention storage).tables.logEvents = n.tables.logEvents := by
  unfold enforceImageRetention
  split <;> rfl

variable [Runtime F]

/-- A call that returns has committed, one that raises has changed nothing. -/
theorem persist_cases (n : LogNode F) (storage : Storage) (event : StoredLogEvent) :
    (∃ e, n.persist storage event = (.error e, n)) ∨
    ∃ tables, n.tables.appendEvent storage.committedAt event = (.ok (), tables) ∧
      n.persist storage event = (.ok (), { n with tables }) := by
  unfold persist
  split
  · exact .inl ⟨_, rfl⟩
  · split
    · exact .inl ⟨_, rfl⟩
    · rcases LogTables.append_event_cases n.tables storage.committedAt event with ⟨e, he⟩ |
        ⟨_, _, _, he⟩ | ⟨tables, _, _, he⟩
      · exact .inl ⟨e, by rw [he]⟩
      · exact .inr ⟨_, he, by rw [he]⟩
      · exact .inr ⟨tables, he, by rw [he]⟩

/-- The row of an event after a successful call, and what the call did to the other rows. -/
theorem append_event_rows {t t' : LogTables F} {committedAt : String} {event : StoredLogEvent}
    (h : t.appendEvent committedAt event = (.ok (), t')) :
    (∃ row, t'.logEvents.get? event.key = some row) ∧
    (∀ key row, t.logEvents.get? key = some row → t'.logEvents.get? key = some row) ∧
    ∀ key row, t'.logEvents.get? key = some row → t.logEvents.get? key = some row ∨
      key = event.key ∧ row.event.payloadDigest = event.payloadDigest := by
  rcases LogTables.append_event_cases t committedAt event with ⟨e, he⟩ | ⟨row, hrow, _, he⟩ |
    ⟨tables, hnone, hgrows, he⟩
  · rw [he] at h
    cases h
  · rw [he] at h
    cases h
    exact ⟨⟨row, hrow⟩, fun _ _ hold => hold, fun _ _ hold => .inl hold⟩
  · rw [he] at h
    cases h
    refine ⟨⟨_, LogTables.logged_row hnone hgrows⟩, fun key row hold => ?_, fun key row hnew => ?_⟩
    · rw [hgrows.logEvents]
      exact OrderedDict.get?_insertOrIgnore_of_some hold _ _
    · rw [hgrows.logEvents] at hnew
      rcases OrderedDict.get?_insertOrIgnore_cases hnew with hold | ⟨rfl, rfl⟩
      · exact .inl hold
      · exact .inr ⟨rfl, rfl⟩

theorem handle_log_event_spec (n : LogNode F) (storage : Storage) (message : LogEventMessage) :
    LogSpec n message (n.handleLogEvent storage message) := by
  unfold handleLogEvent
  split
  · exact log_spec_silent n message
  · rcases persist_cases n storage message.toEvent with ⟨e, he⟩ | ⟨tables, happend, he⟩
    · rw [he]
      exact log_spec_silent n message
    · rw [he]
      obtain ⟨hrow, hkept, hadded⟩ := append_event_rows happend
      constructor
      · intro key row hold
        simp only [log_events_retention]
        exact hkept key row hold
      · intro key row hnew
        simp only [log_events_retention] at hnew
        exact hadded key row hnew
      · intro ack hack
        cases hack
        simp only [log_events_retention]
        exact ⟨rfl, hrow⟩

end LogNode

inductive ProducerId where
  | master | vision
  deriving DecidableEq, Repr

def ProducerId.nodeId : ProducerId → String
  | .master => "master"
  | .vision => "vision"

structure LogNetwork (F : Type) where
  producers : ProducerId → LogProducer
  log : LogNode F
  events : List LogEventMessage := []
  acks : List LogPersistedAck := []
  /-- Every record that was made, and those among them whose enqueue has returned. -/
  created : List SpoolRecord := []
  stored : List (ProducerId × SpoolRecord) := []

inductive NetworkStep (F : Type) where
  | emit (p : ProducerId) (e : LogEmission F)
  | flush (p : ProducerId) (occurredAtNs : ℤ)
  | deliverEvent (message : LogEventMessage) (storage : Storage)
  | deliverAck (p : ProducerId) (ack : LogPersistedAck)
  | openSpool (p : ProducerId)
  | closeSpool (p : ProducerId)
  | restart (p : ProducerId) (nodeInstanceId : String)
  | startSession (p : ProducerId) (sessionId : String)
  | startLogSession (sessionId : String)
  | initializeLog
  | restartLog

namespace LogNetwork

variable {F : Type}

def setProducer (w : LogNetwork F) (p : ProducerId) (producer : LogProducer) : LogNetwork F :=
  { w with producers := Function.update w.producers p producer }

def Spooled (w : LogNetwork F) (p : ProducerId) (record : SpoolRecord) : Prop :=
  ∃ row, (w.producers p).spool.get? record.key = some row ∧
    row.payloadDigest = record.payloadDigest

def Committed (w : LogNetwork F) (record : SpoolRecord) : Prop :=
  ∃ row, w.log.tables.logEvents.get? record.key = some row ∧
    row.event.payloadDigest = record.payloadDigest

/-- Whoever knows a key knows the digest that was made with it, and an acknowledgement is sent
for what is in the log only. -/
structure Evidence (w : LogNetwork F) : Prop where
  unique : (w.created.map (·.logId)).Nodup
  stored : ∀ p record, (p, record) ∈ w.stored → record ∈ w.created
  spooled : ∀ p key row, (w.producers p).spool.get? key = some row →
    ∃ record ∈ w.created, record.key = key ∧ record.payloadDigest = row.payloadDigest
  events : ∀ message ∈ w.events,
    ∃ record ∈ w.created, record.key = message.key ∧ record.payloadDigest = message.payloadDigest
  committed : ∀ key row, w.log.tables.logEvents.get? key = some row →
    ∃ record ∈ w.created, record.key = key ∧ record.payloadDigest = row.event.payloadDigest
  acks : ∀ ack ∈ w.acks, ∀ key ∈ ack.ackedLogIds.zip ack.ackedRevisions,
    ∃ row, w.log.tables.logEvents.get? key = some row
  kept : ∀ p record, (p, record) ∈ w.stored → w.Spooled p record ∨ w.Committed record

variable {w : LogNetwork F}

/-- The log ids are unique, so a key stands for one record. -/
theorem Evidence.same_record (h : Evidence w) {record other : SpoolRecord}
    (hrecord : record ∈ w.created) (hother : other ∈ w.created) (hkey : other.key = record.key) :
    other = record :=
  List.inj_on_of_nodup_map h.unique hother hrecord (congrArg Prod.fst hkey)

theorem spool_set_producer (w : LogNetwork F) (p q : ProducerId) (producer : LogProducer) :
    ((w.setProducer p producer).producers q).spool =
      if q = p then producer.spool else (w.producers q).spool := by
  unfold setProducer
  by_cases hq : q = p
  · subst hq
    simp
  · simp [hq]

theorem evidence_set_producer (h : Evidence w) {p : ProducerId} {producer : LogProducer}
    (hspool : producer.spool = (w.producers p).spool) : Evidence (w.setProducer p producer) := by
  have hsame : ∀ q, ((w.setProducer p producer).producers q).spool = (w.producers q).spool := by
    intro q
    rw [spool_set_producer]
    split
    · rename_i hq
      rw [hspool, hq]
    · rfl
  refine ⟨h.unique, h.stored, ?_, h.events, h.committed, h.acks, ?_⟩
  · intro q key row hrow
    rw [hsame] at hrow
    exact h.spooled q key row hrow
  · intro q record hstored
    rcases h.kept q record hstored with ⟨row, hrow⟩ | hcommitted
    · exact .inl ⟨row, by rw [hsame]; exact hrow⟩
    · exact .inr hcommitted

/-- What an emission does to the spools: at most the new record is added. -/
theorem emit_spools {p : ProducerId} {e : LogEmission F} {record : SpoolRecord} {stored : Bool}
    {producer : LogProducer}
    (hstored : if stored then
      (w.producers p).spool.enqueue e.createdAt record = (.ok (), producer.spool)
      else producer = w.producers p) (q : ProducerId) (key : String × ℤ) (row : SpoolRow) :
    ((w.producers q).spool.get? key = some row →
      ((w.setProducer p producer).producers q).spool.get? key = some row) ∧
    (((w.setProducer p producer).producers q).spool.get? key = some row →
      (w.producers q).spool.get? key = some row ∨
        key = record.key ∧ row.payloadDigest = record.payloadDigest) := by
  rw [spool_set_producer]
  split
  · rename_i hq
    subst hq
    cases stored
    · simp only [Bool.false_eq_true, if_false] at hstored
      rw [hstored]
      exact ⟨id, .inl⟩
    · simp only [if_true] at hstored
      obtain ⟨_, hkept, hadded⟩ := LogSpool.enqueue_spec hstored
      exact ⟨hkept key row, hadded key row⟩
  · exact ⟨id, .inl⟩

variable [Runtime F]

def emitAs : ProducerId → LogProducer → LogEmission F → Emitted × LogProducer
  | .master => LogProducer.emitLogEvent
  | .vision => LogProducer.emitDurableEvent

def next (w : LogNetwork F) : NetworkStep F → LogNetwork F
  | .emit p e =>
    let (emitted, producer) := emitAs p (w.producers p) e
    { w.setProducer p producer with
      events := w.events ++ emitted.published.toList
      created := w.created ++ emitted.record.toList
      stored := w.stored ++ if emitted.stored then emitted.record.toList.map (p, ·) else [] }
  | .flush p occurredAtNs =>
    { w with events := w.events ++ (w.producers p).flushSpool F occurredAtNs }
  | .deliverEvent message storage =>
    let (ack, log) := w.log.handleLogEvent storage message
    { w with log, acks := w.acks ++ ack.toList }
  | .deliverAck p ack => w.setProducer p ((w.producers p).handleLogPersistedAck ack)
  | .openSpool p => w.setProducer p { w.producers p with spoolOpen := true }
  | .closeSpool p => w.setProducer p { w.producers p with spoolOpen := false }
  | .restart p nodeInstanceId =>
    w.setProducer p { w.producers p with nodeInstanceId, spoolOpen := false }
  | .startSession p sessionId => w.setProducer p { w.producers p with sessionId }
  | .startLogSession sessionId => { w with log := { w.log with sessionId } }
  | .initializeLog => { w with log := { w.log with initialized := true } }
  | .restartLog => { w with log := { w.log with initialized := false } }

/-- A new record has an id that was never used, and only what was sent is delivered. -/
def Admits (w : LogNetwork F) : NetworkStep F → Prop
  | .emit _ e => e.logId ∉ w.created.map (·.logId)
  | .deliverEvent message _ => message ∈ w.events
  | .deliverAck _ ack => ack ∈ w.acks
  | _ => True

instance (w : LogNetwork F) (e : NetworkStep F) : Decidable (Admits w e) := by
  cases e <;> dsimp only [Admits] <;> infer_instance

theorem emit_as_spec (p : ProducerId) (producer : LogProducer) (e : LogEmission F) :
    emitAs p producer e = ({}, producer) ∨
    ∃ record, LogProducer.EmitSpec producer e record (emitAs p producer e) := by
  cases p
  · exact LogProducer.emit_event_spec producer true e
  · exact LogProducer.emit_event_spec producer false e

theorem evidence_emit (h : Evidence w) {p : ProducerId} {e : LogEmission F}
    (hfresh : e.logId ∉ w.created.map (·.logId)) : Evidence (w.next (.emit p e)) := by
  rcases emit_as_spec p (w.producers p) e with hnone | ⟨record, hspec⟩
  · have hsame : w.next (.emit p e) = w := by
      simp only [next, hnone, setProducer, Function.update_eq_self, Option.toList_none,
        List.append_nil, Bool.false_eq_true, if_false]
    rw [hsame]
    exact h
  · obtain ⟨hmade, hid, hpublished, hstored⟩ := hspec
    generalize hresult : emitAs p (w.producers p) e = result at *
    obtain ⟨emitted, producer⟩ := result
    have hnext : w.next (.emit p e) = { w.setProducer p producer with
        events := w.events ++ emitted.published.toList
        created := w.created ++ [record]
        stored := w.stored ++ if emitted.stored then [(p, record)] else [] } := by
      simp only at hmade
      simp only [next, hresult, hmade, Option.toList_some, List.map_cons, List.map_nil]
    rw [hnext]
    have hspools := emit_spools (w := w) hstored
    constructor
    case unique =>
      rw [List.map_append, List.nodup_append]
      refine ⟨h.unique, List.nodup_singleton _, ?_⟩
      intro a ha b hb
      rw [List.map_singleton, List.mem_singleton] at hb
      rw [hb, hid]
      rintro rfl
      exact hfresh ha
    case stored =>
      intro q other hother
      rcases List.mem_append.mp hother with hold | hnew
      · exact List.mem_append_left _ (h.stored q other hold)
      · cases hemitted : emitted.stored <;> simp only [hemitted] at hnew
        · cases hnew
        · cases List.mem_singleton.mp hnew
          exact List.mem_append_right _ (List.mem_singleton_self _)
    case spooled =>
      intro q key row hrow
      rcases (hspools q key row).2 hrow with hold | ⟨hkey, hdigest⟩
      · obtain ⟨other, hother, hsame⟩ := h.spooled q key row hold
        exact ⟨other, List.mem_append_left _ hother, hsame⟩
      · exact ⟨record, List.mem_append_right _ (List.mem_singleton_self _), hkey.symm, hdigest.symm⟩
    case events =>
      intro message hmessage
      rcases List.mem_append.mp hmessage with hold | hnew
      · obtain ⟨other, hother, hsame⟩ := h.events message hold
        exact ⟨other, List.mem_append_left _ hother, hsame⟩
      · obtain ⟨hkey, hdigest⟩ := hpublished message (Option.mem_toList.mp hnew)
        exact ⟨record, List.mem_append_right _ (List.mem_singleton_self _), hkey.symm, hdigest.symm⟩
    case committed =>
      intro key row hrow
      obtain ⟨other, hother, hsame⟩ := h.committed key row hrow
      exact ⟨other, List.mem_append_left _ hother, hsame⟩
    case acks => exact h.acks
    case kept =>
      intro q other hother
      rcases List.mem_append.mp hother with hold | hnew
      · rcases h.kept q other hold with ⟨row, hrow, hdigest⟩ | hcommitted
        · exact .inl ⟨row, (hspools q other.key row).1 hrow, hdigest⟩
        · exact .inr hcommitted
      · cases hemitted : emitted.stored <;> simp only [hemitted] at hnew hstored
        · cases hnew
        · cases List.mem_singleton.mp hnew
          obtain ⟨⟨row, hrow, hdigest⟩, _⟩ := LogSpool.enqueue_spec hstored
          refine .inl ⟨row, ?_, hdigest⟩
          change ((w.setProducer p producer).producers p).spool.get? record.key = some row
          rw [spool_set_producer, if_pos rfl]
          exact hrow

theorem evidence_flush (h : Evidence w) (p : ProducerId) (occurredAtNs : ℤ) :
    Evidence (w.next (.flush p occurredAtNs)) := by
  refine ⟨h.unique, h.stored, h.spooled, ?_, h.committed, h.acks, h.kept⟩
  intro message hmessage
  rcases List.mem_append.mp hmessage with hold | hnew
  · exact h.events message hold
  · obtain ⟨row, hrow, hdigest⟩ := LogProducer.mem_flush_spool hnew
    obtain ⟨record, hrecord, hkey, hsame⟩ := h.spooled p _ row hrow
    exact ⟨record, hrecord, hkey, hsame.trans hdigest⟩

theorem evidence_deliver_event (h : Evidence w) {message : LogEventMessage} {storage : Storage}
    (hmessage : message ∈ w.events) : Evidence (w.next (.deliverEvent message storage)) := by
  obtain ⟨hkept, hadded, hacked⟩ := LogNode.handle_log_event_spec w.log storage message
  refine ⟨h.unique, h.stored, h.spooled, h.events, ?_, ?_, ?_⟩
  · intro key row hrow
    rcases hadded key row hrow with hold | ⟨rfl, hdigest⟩
    · exact h.committed key row hold
    · obtain ⟨record, hrecord, hkey, hsame⟩ := h.events message hmessage
      exact ⟨record, hrecord, hkey, hsame.trans hdigest.symm⟩
  · intro ack hack key hkey
    rcases List.mem_append.mp hack with hold | hnew
    · obtain ⟨row, hrow⟩ := h.acks ack hold key hkey
      exact ⟨row, hkept key row hrow⟩
    · obtain ⟨hidentities, hrow⟩ := hacked ack (Option.mem_toList.mp hnew)
      rw [hidentities, List.mem_singleton] at hkey
      exact hkey ▸ hrow
  · intro p record hstored
    rcases h.kept p record hstored with hspooled | ⟨row, hrow, hdigest⟩
    · exact .inl hspooled
    · exact .inr ⟨row, hkept _ row hrow, hdigest⟩

/-- The row that an acknowledgement deletes belongs to a record of the log with its digest. -/
theorem evidence_deliver_ack (h : Evidence w) {p : ProducerId} {ack : LogPersistedAck}
    (hack : ack ∈ w.acks) : Evidence (w.next (.deliverAck p ack)) := by
  have hspool : ∀ q key,
      ((w.next (.deliverAck p ack)).producers q).spool.get? key = (w.producers q).spool.get? key ∨
      key ∈ ack.ackedLogIds.zip ack.ackedRevisions ∧
        ((w.next (.deliverAck p ack)).producers q).spool.get? key = none := by
    intro q key
    simp only [next]
    rw [spool_set_producer]
    split
    · rename_i hq
      rw [hq]
      exact LogProducer.handle_log_persisted_ack_spec _ ack key
    · exact .inl rfl
  refine ⟨h.unique, h.stored, ?_, h.events, h.committed, h.acks, ?_⟩
  · intro q key row hrow
    rcases hspool q key with hsame | ⟨_, hnone⟩
    · exact h.spooled q key row (hsame ▸ hrow)
    · rw [hnone] at hrow
      cases hrow
  · intro q record hstored
    rcases h.kept q record hstored with ⟨row, hrow, hdigest⟩ | hcommitted
    · rcases hspool q record.key with hsame | ⟨hmem, _⟩
      · exact .inl ⟨row, hsame.trans hrow, hdigest⟩
      · obtain ⟨logged, hlogged⟩ := h.acks ack hack _ hmem
        obtain ⟨other, hother, hkey, hsame⟩ := h.committed _ logged hlogged
        cases h.same_record (h.stored q record hstored) hother hkey
        exact .inr ⟨logged, hlogged, hsame.symm⟩
    · exact .inr hcommitted

theorem evidence_next {e : NetworkStep F} (h : Evidence w) (hadmits : Admits w e) :
    Evidence (w.next e) := by
  cases e with
  | emit p e => exact evidence_emit h hadmits
  | flush p occurredAtNs => exact evidence_flush h p occurredAtNs
  | deliverEvent message storage => exact evidence_deliver_event h hadmits
  | deliverAck p ack => exact evidence_deliver_ack h hadmits
  | openSpool p => exact evidence_set_producer h rfl
  | closeSpool p => exact evidence_set_producer h rfl
  | restart p nodeInstanceId => exact evidence_set_producer h rfl
  | startSession p sessionId => exact evidence_set_producer h rfl
  | startLogSession sessionId =>
    exact ⟨h.unique, h.stored, h.spooled, h.events, h.committed, h.acks, h.kept⟩
  | initializeLog => exact ⟨h.unique, h.stored, h.spooled, h.events, h.committed, h.acks, h.kept⟩
  | restartLog => exact ⟨h.unique, h.stored, h.spooled, h.events, h.committed, h.acks, h.kept⟩

/-- Two producers with empty spools and a Log node with an empty database. -/
def start (instanceIds sessionIds : ProducerId → String) (logSession : String) :
    LogNetwork F where
  producers p := {
    nodeId := p.nodeId, nodeInstanceId := instanceIds p, sessionId := sessionIds p }
  log := { sessionId := logSession }

/-- Whatever is lost, doubled, late or out of order: a record whose enqueue has returned is in
the spool of its producer or in the log. -/
theorem no_log_record_lost {instanceIds sessionIds : ProducerId → String} {logSession : String}
    {w : LogNetwork F}
    (hrun : Execution next Admits (start instanceIds sessionIds logSession) w) (p : ProducerId)
    (record : SpoolRecord) (hstored : (p, record) ∈ w.stored) :
    w.Spooled p record ∨ w.Committed record := by
  have hstart : Evidence (start instanceIds sessionIds logSession : LogNetwork F) := by
    constructor <;> simp [start]
  exact (hrun.invariant (P := Evidence) (fun _ _ h he => evidence_next h he) hstart).kept p record
    hstored

section

def exchangeRecord : SpoolRecord where
  logId := "log-1"
  revision := 1
  payloadJson := "\x7b\"event_type\":\"LINE_CLEAR_CONFIRMED\",\"payload\":\x7b\"removed\":0\x7d," ++
    "\"producer_instance_id\":\"instance-1\",\"product_id\":\"\",\"schema_version\":2," ++
    "\"session_id\":\"session-1\",\"severity\":20,\"source_node\":\"master\"\x7d"
  payloadDigest := "289e989f8f0c80bf94335966059db462865af1edbbbadfca3ef0743c34b3848c"

local instance exchangeRuntime : Runtime Unit :=
  .withDigests [(exchangeRecord.payloadJson, exchangeRecord.payloadDigest)]

def exchangeMessage : LogEventMessage where
  sessionId := "session-1"
  logId := "log-1"
  revision := 1
  severity := 20
  eventType := "LINE_CLEAR_CONFIRMED"
  sourceNode := "master"
  producerInstanceId := "instance-1"
  productId := ""
  payloadJson := exchangeRecord.payloadJson
  payloadDigest := exchangeRecord.payloadDigest
  occurredAtNs := 0

/-- A record is committed and acknowledged, and both messages come twice. -/
def exchange : List (NetworkStep Unit) :=
  let ack : LogPersistedAck := {
    sessionId := "session-1", producerNode := "master", producerInstanceId := "instance-1"
    ackedLogIds := ["log-1"], ackedRevisions := [1] }
  [.openSpool .master, .initializeLog,
    .emit .master {
      logId := "log-1", severity := 20, eventType := "LINE_CLEAR_CONFIRMED", productId := ""
      payload := [("removed", .int 0)], createdAt := "2025-01-01 00:00:00", occurredAtNs := 0 },
    .deliverEvent exchangeMessage { committedAt := "2025-01-01 00:00:01" },
    .deliverAck .master ack,
    .deliverEvent exchangeMessage { committedAt := "2025-01-01 00:00:02" },
    .deliverAck .master ack]

theorem exchanged_record_kept :
    let w := runTrace next
      (start (fun _ => "instance-1") (fun _ => "session-1") "session-1") exchange
    w.Spooled .master exchangeRecord ∨ w.Committed exchangeRecord :=
  no_log_record_lost (valid_trace_execution (by decide +kernel)) .master exchangeRecord
    (by decide +kernel)

end

end LogNetwork

end InspectionLine
