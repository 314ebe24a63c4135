import InspectionLine.LogSpool
import InspectionLine.SortedPrefix

/-! # The order in which a spool republishes

A spool recovers the order of its records from the second in which they were stored and from
their ids. What it promises is the order in which they were enqueued. -/
namespace InspectionLine

open SortedPrefix

/-- `pending` with its check of the limit. -/
def LogSpool.pendingRecords (spool : LogSpool) (limit : ℤ) : Except PyError (List SpoolRecord) :=
  if limit < 1 then .error { kind := .valueError, text := "limit must be positive" }
  else do
    let limit ← bindInt limit
    return spool.pending limit.toNat

inductive SpoolCall where
  | enqueue (createdAt : String) (record : SpoolRecord)
  | acknowledge (identities : List (String × ℤ))
  deriving DecidableEq, Repr

def LogSpool.call (spool : LogSpool) : SpoolCall → LogSpool
  | .enqueue createdAt record => (spool.enqueue createdAt record).2
  | .acknowledge identities => (spool.acknowledge identities).2

def LogSpool.afterCalls (calls : List SpoolCall) : LogSpool := calls.foldl LogSpool.call .empty

/-! ### The records that wait, in the order of their enqueues -/

structure Enqueued where
  createdAt : String
  record : SpoolRecord
  deriving DecidableEq, Repr

def Enqueued.entry (e : Enqueued) : (String × ℤ) × SpoolRow :=
  (e.record.key, {
    payloadJson := e.record.payloadJson, payloadDigest := e.record.payloadDigest
    createdAt := e.createdAt })

def Enqueued.stamp (e : Enqueued) : String ×ₗ String ×ₗ ℤ :=
  toLex (e.createdAt, toLex (e.record.logId, e.record.revision))

def FitsInteger (n : ℤ) : Prop := -2 ^ 63 ≤ n ∧ n < 2 ^ 63

instance (n : ℤ) : Decidable (FitsInteger n) := inferInstanceAs (Decidable (_ ∧ _))

local instance instLawfulBEqRecordKey : LawfulBEq (String × ℤ) := inferInstance

/-- A record joins at the end unless one of its identity waits already; an acknowledgement
takes away what it names. A call with a number that the database cannot take has no effect. -/
def SpoolCall.waiting (waiting : List Enqueued) : SpoolCall → List Enqueued
  | .enqueue createdAt record =>
    if FitsInteger record.revision ∧ ∀ e ∈ waiting, e.record.key ≠ record.key then
      waiting ++ [{ createdAt, record }]
    else waiting
  | .acknowledge identities =>
    if ∀ id ∈ identities, FitsInteger id.2 then
      waiting.filter fun e => e.record.key ∉ identities
    else waiting

def unacknowledged (calls : List SpoolCall) : List Enqueued := calls.foldl SpoolCall.waiting []

/-- Among the first `n` that wait, a later second comes later, and within a second a greater
id; and nothing after them belongs before one of them. -/
def InStampOrder (n : ℕ) (waiting : List Enqueued) : Prop := FrontInOrder Enqueued.stamp n waiting

theorem bind_int_of_fits {n : ℤ} (h : FitsInteger n) : bindInt n = .ok n := if_pos h

theorem bind_int_of_not_fits {n : ℤ} (h : ¬ FitsInteger n) : ∃ e, bindInt n = .error e :=
  ⟨_, if_neg h⟩

/-! ### What a call does to the entries -/

namespace LogSpool

theorem insert_or_ignore_entries (spool : LogSpool) (k : String × ℤ) (row : SpoolRow) :
    (spool.insertOrIgnore k row).entries =
      if k ∈ spool.keys then spool.entries else spool.entries ++ [(k, row)] := by
  unfold OrderedDict.insertOrIgnore
  split <;> rfl

theorem enqueue_entries (spool : LogSpool) (createdAt : String) (record : SpoolRecord) :
    (spool.enqueue createdAt record).2.entries =
      if FitsInteger record.revision ∧ record.key ∉ spool.keys then
        spool.entries ++ [(Enqueued.mk createdAt record).entry]
      else spool.entries := by
  unfold enqueue transaction enqueueBody
  by_cases hfits : FitsInteger record.revision
  · rw [bind_int_of_fits hfits]
    by_cases hkey : record.key ∈ spool.keys
    · rw [if_neg fun h => h.2 hkey]
      simp only [bind, Except.bind, pure, Except.pure]
      split
      · next h =>
        split at h
        · cases h
        · cases h
          rw [insert_or_ignore_entries, if_pos hkey]
      · rfl
    · have hnone : spool.get? (record.logId, record.revision) = none :=
        OrderedDict.get?_eq_none.mpr hkey
      simp only [bind, Except.bind, pure, Except.pure, hnone, Option.any_none, Bool.false_eq_true,
        if_false, insert_or_ignore_entries, hkey, hfits, true_and, not_false_eq_true, if_true]
      rfl
  · obtain ⟨e, he⟩ := bind_int_of_not_fits hfits
    rw [he, if_neg fun h => hfits h.1]
    rfl

theorem acknowledge_body_of_fits (identities : List (String × ℤ))
    (h : ∀ id ∈ identities, FitsInteger id.2) (spool : LogSpool) :
    ∃ left, acknowledgeBody identities spool = .ok left ∧
      left.entries = spool.entries.filter fun e => e.1 ∉ identities := by
  induction identities generalizing spool with
  | nil => exact ⟨spool, rfl, by simp⟩
  | cons id identities ih =>
    obtain ⟨left, hleft, hentries⟩ :=
      ih (fun i hi => h i (List.mem_cons_of_mem _ hi)) (spool.erase id)
    refine ⟨left, ?_, ?_⟩
    · rw [acknowledgeBody, List.foldlM_cons, bind_int_of_fits (h id List.mem_cons_self)]
      exact hleft
    · rw [hentries, OrderedDict.erase, List.filter_filter]
      refine List.filter_congr fun e _ => ?_
      simp only [List.mem_cons, ne_eq, not_or, Bool.decide_and, decide_not, Bool.and_comm]

theorem acknowledge_body_of_not_fits (identities : List (String × ℤ))
    (h : ¬ ∀ id ∈ identities, FitsInteger id.2) (spool : LogSpool) :
    ∃ e, acknowledgeBody identities spool = .error e := by
  induction identities generalizing spool with
  | nil => exact absurd (fun id hid => absurd hid List.not_mem_nil) h
  | cons id identities ih =>
    by_cases hid : FitsInteger id.2
    · have hrest : ¬ ∀ i ∈ identities, FitsInteger i.2 := fun hall =>
        h fun i hi => (List.mem_cons.mp hi).elim (fun heq => heq ▸ hid) (hall i)
      obtain ⟨e, he⟩ := ih hrest (spool.erase id)
      refine ⟨e, ?_⟩
      rw [acknowledgeBody, List.foldlM_cons, bind_int_of_fits hid]
      exact he
    · obtain ⟨e, he⟩ := bind_int_of_not_fits hid
      refine ⟨e, ?_⟩
      rw [acknowledgeBody, List.foldlM_cons, he]
      rfl

theorem acknowledge_entries (spool : LogSpool) (identities : List (String × ℤ)) :
    (spool.acknowledge identities).2.entries =
      if ∀ id ∈ identities, FitsInteger id.2 then
        spool.entries.filter fun e => e.1 ∉ identities
      else spool.entries := by
  unfold acknowledge transaction
  by_cases h : ∀ id ∈ identities, FitsInteger id.2
  · obtain ⟨left, hleft, hentries⟩ := acknowledge_body_of_fits identities h spool
    rw [hleft, if_pos h]
    exact hentries
  · obtain ⟨e, he⟩ := acknowledge_body_of_not_fits identities h spool
    rw [he, if_neg h]

theorem call_entries {spool : LogSpool} {waiting : List Enqueued}
    (h : spool.entries = waiting.map Enqueued.entry) (call : SpoolCall) :
    (spool.call call).entries = (call.waiting waiting).map Enqueued.entry := by
  have hkeys : spool.keys = waiting.map fun e => e.record.key := by
    rw [OrderedDict.keys, h, List.map_map]
    rfl
  cases call with
  | enqueue createdAt record =>
    have hmem : record.key ∉ spool.keys ↔ ∀ e ∈ waiting, e.record.key ≠ record.key := by
      simp [hkeys]
    simp only [call, SpoolCall.waiting, enqueue_entries, hmem]
    split
    · rw [h, List.map_append, List.map_singleton]
    · exact h
  | acknowledge identities =>
    simp only [call, SpoolCall.waiting, acknowledge_entries]
    split
    · rw [h, List.filter_map]
      rfl
    · exact h

/-- The table holds the records that wait, in the order of their enqueues. -/
theorem after_calls_entries (calls : List SpoolCall) :
    (afterCalls calls).entries = (unacknowledged calls).map Enqueued.entry := by
  induction calls using List.reverseRecOn with
  | nil => rfl
  | append_singleton calls call ih =>
    unfold afterCalls unacknowledged at ih ⊢
    rw [List.foldl_append, List.foldl_append]
    exact call_entries ih call

end LogSpool

/-! ### Republishing -/

theorem unacknowledged_keys_nodup (calls : List SpoolCall) :
    ((unacknowledged calls).map fun e => e.record.key).Nodup := by
  have h := (LogSpool.afterCalls calls).nodup
  rw [LogSpool.after_calls_entries, List.map_map] at h
  exact h

theorem stamps_nodup {waiting : List Enqueued} (h : (waiting.map fun e => e.record.key).Nodup) :
    (waiting.map Enqueued.stamp).Nodup := by
  have hkey : (waiting.map Enqueued.stamp).map (fun stamp => ofLex (ofLex stamp).2) =
      waiting.map fun e => e.record.key := by
    rw [List.map_map]
    rfl
  exact List.Nodup.of_map _ (hkey ▸ h)

theorem sort_on_map {waiting : List Enqueued} :
    sortOn LogSpool.pendingOrder (waiting.map Enqueued.entry) =
      (sortOn Enqueued.stamp waiting).map Enqueued.entry :=
  (List.map_insertionSort _ _ Enqueued.entry waiting fun _ _ _ _ => Iff.rfl).symm

theorem pending_of_entries {spool : LogSpool} {waiting : List Enqueued}
    (h : spool.entries = waiting.map Enqueued.entry) (n : ℕ) :
    spool.pending n = ((sortOn Enqueued.stamp waiting).take n).map Enqueued.record := by
  change ((sortOn LogSpool.pendingOrder spool.entries).take n).map LogSpool.record = _
  rw [h, sort_on_map, ← List.map_take, List.map_map]
  rfl

theorem eq_of_map_record {l m waiting : List Enqueued}
    (hkeys : (waiting.map fun e => e.record.key).Nodup) (hl : ∀ e ∈ l, e ∈ waiting)
    (hm : ∀ e ∈ m, e ∈ waiting) (h : l.map Enqueued.record = m.map Enqueued.record) : l = m := by
  induction l generalizing m with
  | nil => exact (List.map_eq_nil_iff.mp h.symm).symm
  | cons a l ih =>
    cases m with
    | nil => cases h
    | cons b m =>
      rw [List.map_cons, List.map_cons] at h
      obtain ⟨hab, hrest⟩ := List.cons.inj h
      have heq : a = b := List.inj_on_of_nodup_map hkeys (hl a List.mem_cons_self)
        (hm b List.mem_cons_self) (congrArg SpoolRecord.key hab)
      rw [heq, ih (fun e he => hl e (List.mem_cons_of_mem _ he))
        (fun e he => hm e (List.mem_cons_of_mem _ he)) hrest]

/-- The oldest records come out, each once and in the order of their enqueues, exactly when the
stamps have that order too. -/
theorem pending_oldest_iff (calls : List SpoolCall) (limit : ℤ) :
    (LogSpool.afterCalls calls).pendingRecords limit =
        .ok (((unacknowledged calls).take limit.toNat).map Enqueued.record) ↔
      1 ≤ limit ∧ limit < 2 ^ 63 ∧ InStampOrder limit.toNat (unacknowledged calls) := by
  have hkeys := unacknowledged_keys_nodup calls
  unfold LogSpool.pendingRecords
  by_cases hone : limit < 1
  · rw [if_pos hone]
    exact ⟨nofun, fun h => absurd h.1 (by omega)⟩
  rw [if_neg hone]
  by_cases hfits : FitsInteger limit
  · rw [bind_int_of_fits hfits]
    simp only [bind, Except.bind, pure, Except.pure, Except.ok.injEq]
    rw [pending_of_entries (LogSpool.after_calls_entries calls)]
    have htake : (sortOn Enqueued.stamp (unacknowledged calls)).take limit.toNat =
        (unacknowledged calls).take limit.toNat ↔ InStampOrder limit.toNat (unacknowledged calls) :=
      take_sort_on_iff (stamps_nodup hkeys) limit.toNat
    constructor
    · intro h
      refine ⟨by omega, hfits.2, htake.mp (eq_of_map_record hkeys ?_ ?_ h)⟩
      · intro e he
        exact (sort_on_perm Enqueued.stamp _).mem_iff.mp (List.mem_of_mem_take he)
      · intro e he
        exact List.mem_of_mem_take he
    · rintro ⟨_, _, horder⟩
      rw [htake.mpr horder]
  · obtain ⟨e, he⟩ := bind_int_of_not_fits hfits
    rw [he]
    refine ⟨nofun, fun h => absurd ⟨?_, h.2.1⟩ hfits⟩
    omega

/-- Two records of one second, the later one with the smaller id. -/
def sameSecond : List SpoolCall := [
  .enqueue "2026-05-01 08:00:00" {
    logId := "b", revision := 1, payloadJson := "\x7b\x7d", payloadDigest := "d" },
  .enqueue "2026-05-01 08:00:00" {
    logId := "a", revision := 1, payloadJson := "\x7b\x7d", payloadDigest := "d" }]

theorem same_second_overtaken :
    ((unacknowledged sameSecond).take 100).map (fun e => e.record.logId) = ["b", "a"] ∧
      ((LogSpool.afterCalls sameSecond).pendingRecords 100).map
        (fun records => records.map SpoolRecord.logId) = .ok ["a", "b"] ∧
      (LogSpool.afterCalls sameSecond).pendingRecords 100 ≠
        .ok (((unacknowledged sameSecond).take 100).map Enqueued.record) := by
  decide +kernel

end InspectionLine
