import InspectionLine.Idempotency
import InspectionLine.InputRuns
import InspectionLine.RecentKeys

/-! # What the store of results still remembers

A history keeps the calls of a store with their answers. Which keys are retained, and what they are
answered with, is read off that log. -/
namespace InspectionLine

open InputRuns OrderedDict

inductive StoreCall (α : Type*) where
  | inspect (commandId digest : String)
  | remember (commandId digest : String) (result : α)

inductive StoreAnswer (α : Type*) where
  | decided (decision : ReplayDecision α)
  | remembered
  | raised

/-- The key that a call makes the most recent one. -/
def touched? {α : Type*} : StoreCall α × StoreAnswer α → Option String
  | (.inspect commandId _, .decided decision) =>
    if decision.kind = .new then none else some commandId
  | (.remember commandId _ _, .remembered) => some commandId
  | _ => none

def stored? {α : Type*} (commandId : String) :
    StoreCall α × StoreAnswer α → Option (String × α)
  | (.remember id digest result, .remembered) =>
    if id = commandId then some (digest, result) else none
  | _ => none

structure StoreHistory (α : Type*) where
  store : IdempotencyStore α
  log : List (StoreCall α × StoreAnswer α) := []

namespace StoreHistory

variable {α : Type*}

def next (h : StoreHistory α) (call : StoreCall α) : StoreHistory α :=
  match call with
  | .inspect commandId digest =>
    let (decision, store) := h.store.inspect commandId digest
    ⟨store, h.log ++ [(call, .decided decision)]⟩
  | .remember commandId digest result =>
    match h.store.remember commandId digest result with
    | some store => ⟨store, h.log ++ [(call, .remembered)]⟩
    | none => { h with log := h.log ++ [(call, .raised)] }

abbrev Run : StoreHistory α → StoreHistory α → Prop := Execution next fun _ _ => True

def touches (h : StoreHistory α) : List String := h.log.filterMap touched?

/-- The last remembered digest and result of a key. -/
def lastStored? (h : StoreHistory α) (commandId : String) : Option (String × α) :=
  (h.log.filterMap (stored? commandId)).getLast?

abbrev Kept (commandId : String) : StoreHistory α → StoreHistory α → Prop :=
  Execution next fun h call => commandId ∈ (h.next call).store.entries.keys

structure Exact (h : StoreHistory α) : Prop where
  keys : h.store.entries.keys = recent h.store.capacity h.touches
  stored : ∀ commandId entry, h.store.get? commandId = some entry →
    h.lastStored? commandId = some entry

end StoreHistory

namespace IdempotencyStore

variable {α : Type*}

theorem get?_of_remember {store next : IdempotencyStore α} {commandId digest : String} {result : α}
    (h : store.remember commandId digest result = some next) {other : String} {e : String × α}
    (he : next.get? other = some e) :
    (if other = commandId then some (digest, result) else store.get? other) = some e := by
  unfold remember at h
  split at h
  · cases h
  · cases h
    have hkept : (store.entries.touch commandId (digest, result)).get? other = some e :=
      OrderedDict.get?_of_trim he
    rw [OrderedDict.get?_touch] at hkept
    exact hkept

theorem remember_eq_none {store : IdempotencyStore α} {commandId digest : String} {result : α} :
    store.remember commandId digest result = none ↔
      ∃ d r, store.get? commandId = some (d, r) ∧ d ≠ digest := by
  unfold remember get?
  cases store.entries.get? commandId with
  | none => simp
  | some e => simp [Prod.ext_iff]

end IdempotencyStore

namespace StoreHistory

variable {α : Type*}

theorem rtake_keys (store : IdempotencyStore α) :
    store.entries.keys.rtake store.capacity = store.entries.keys := by
  have hbounded : store.entries.keys.length ≤ store.capacity :=
    store.entries.size_eq_keys ▸ store.bounded
  rw [List.rtake, Nat.sub_eq_zero_of_le hbounded, List.drop_zero]

theorem inspect_kind (store : IdempotencyStore α) (commandId digest : String) :
    (store.inspect commandId digest).1.kind = .new ↔ commandId ∉ store.entries.keys := by
  have hnone : store.get? commandId = none ↔ commandId ∉ store.entries.keys :=
    OrderedDict.get?_eq_none
  rw [← hnone]
  rcases store.inspect_cases commandId digest with
    ⟨hget, hdecision⟩ | ⟨d, r, hget, -, hdecision⟩ | ⟨r, hget, hdecision⟩ <;>
  simp [hget, hdecision]

theorem inspect_exact {h : StoreHistory α} (hexact : Exact h) (commandId digest : String) :
    Exact (h.next (.inspect commandId digest)) := by
  have hcapacity := h.store.capacity_inspect commandId digest
  have hkeys := h.store.keys_inspect commandId digest
  have hnext : h.next (.inspect commandId digest) = ⟨(h.store.inspect commandId digest).2,
      h.log ++ [(.inspect commandId digest, .decided (h.store.inspect commandId digest).1)]⟩ := rfl
  rw [hnext]
  refine ⟨?_, fun id entry hget => ?_⟩
  · rw [touches, List.filterMap_append, hcapacity]
    by_cases hmem : commandId ∈ h.store.entries.keys
    · have hkind : (h.store.inspect commandId digest).1.kind ≠ .new := fun hnew =>
        (inspect_kind ..).mp hnew hmem
      have htouched : [(StoreCall.inspect (α := α) commandId digest,
          StoreAnswer.decided (h.store.inspect commandId digest).1)].filterMap touched? =
            [commandId] := by
        simp [touched?, hkind]
      have hrtake := rtake_keys (h.store.inspect commandId digest).2
      rw [if_pos hmem] at hkeys
      rw [hcapacity, hkeys, hexact.keys] at hrtake
      rw [htouched, recent_append, hkeys, hexact.keys]
      exact hrtake.symm
    · have htouched : [(StoreCall.inspect (α := α) commandId digest,
          StoreAnswer.decided (h.store.inspect commandId digest).1)].filterMap touched? = [] := by
        simp [touched?, (inspect_kind h.store commandId digest).mpr hmem]
      rw [htouched, List.append_nil, hkeys, if_neg hmem]
      exact hexact.keys
  · rw [lastStored?, List.filterMap_append]
    refine (congrArg List.getLast? (List.append_nil _)).trans ?_
    exact hexact.stored id entry ((h.store.get?_inspect commandId digest id).symm.trans hget)

theorem remember_exact {h : StoreHistory α} (hexact : Exact h) (commandId digest : String)
    (result : α) : Exact (h.next (.remember commandId digest result)) := by
  cases hstore : h.store.remember commandId digest result with
  | none =>
    have hnext : h.next (.remember commandId digest result) =
        { h with log := h.log ++ [(.remember commandId digest result, .raised)] } := by
      simp only [next, hstore]
    have htouches : (h.log ++ [(StoreCall.remember commandId digest result,
        StoreAnswer.raised)]).filterMap touched? = h.touches := by
      rw [List.filterMap_append]
      exact List.append_nil _
    have hlast : ∀ id, (h.log ++ [(StoreCall.remember commandId digest result,
        StoreAnswer.raised)]).filterMap (stored? id) = h.log.filterMap (stored? id) := by
      intro id
      rw [List.filterMap_append]
      exact List.append_nil _
    rw [hnext]
    refine ⟨?_, fun id entry hget => ?_⟩
    · rw [touches, htouches]
      exact hexact.keys
    · rw [lastStored?, hlast]
      exact hexact.stored id entry hget
  | some store =>
    have hnext : h.next (.remember commandId digest result) =
        ⟨store, h.log ++ [(.remember commandId digest result, .remembered)]⟩ := by
      simp only [next, hstore]
    have htouches : (h.log ++ [(StoreCall.remember commandId digest result,
        StoreAnswer.remembered)]).filterMap touched? = h.touches ++ [commandId] := by
      rw [List.filterMap_append]
      rfl
    obtain ⟨hcapacity, hkeys⟩ := IdempotencyStore.keys_remember hstore
    rw [hnext]
    refine ⟨?_, fun id entry hget => ?_⟩
    · rw [touches, htouches, hcapacity, recent_append, hkeys, hexact.keys]
    · have hentry := IdempotencyStore.get?_of_remember hstore hget
      rw [lastStored?, List.filterMap_append, List.filterMap_cons, List.filterMap_nil, stored?]
      by_cases hid : id = commandId
      · rw [if_pos hid] at hentry
        rw [if_pos hid.symm, hentry]
        exact List.getLast?_concat
      · rw [if_neg hid] at hentry
        rw [if_neg fun heq => hid heq.symm, List.append_nil]
        exact hexact.stored id entry hentry

theorem run_exact {capacity : ℕ} {hcapacity : 0 < capacity} {h : StoreHistory α}
    (hrun : Run ⟨.new capacity hcapacity, []⟩ h) : h.store.capacity = capacity ∧ Exact h := by
  refine hrun.invariant (P := fun h => h.store.capacity = capacity ∧ Exact h) ?_ ?_
  · rintro h (⟨commandId, digest⟩ | ⟨commandId, digest, result⟩) ⟨hsame, hexact⟩ -
    · exact ⟨(h.store.capacity_inspect ..).trans hsame, inspect_exact hexact commandId digest⟩
    · refine ⟨?_, remember_exact hexact commandId digest result⟩
      simp only [next]
      split
      · rename_i hstore
        exact (IdempotencyStore.keys_remember hstore).1.trans hsame
      · exact hsame
  · refine ⟨rfl, ⟨?_, fun id entry hget => nomatch hget⟩⟩
    simp [touches, recent, IdempotencyStore.new, OrderedDict.keys, OrderedDict.empty]

theorem digest_kept {commandId digest : String} {result : α} {h later : StoreHistory α}
    (hget : h.store.get? commandId = some (digest, result)) (hrun : Kept commandId h later) :
    ∃ r, later.store.get? commandId = some (digest, r) := by
  refine hrun.invariant (P := fun later => ∃ r, later.store.get? commandId = some (digest, r)) ?_
    ⟨result, hget⟩
  rintro h (⟨id, d⟩ | ⟨id, d, r⟩) ⟨r', hget⟩ hkept
  · exact ⟨r', (h.store.get?_inspect id d commandId).trans hget⟩
  · obtain ⟨e, he⟩ := OrderedDict.mem_keys.mp hkept
    cases hstore : h.store.remember id d r with
    | none =>
      simp only [next, hstore]
      exact ⟨r', hget⟩
    | some store =>
      simp only [next, hstore] at he ⊢
      have hentry := IdempotencyStore.get?_of_remember hstore he
      by_cases hid : commandId = id
      · subst hid
        have hdigest : digest = d := by
          by_contra hne
          have hnone : h.store.remember commandId d r = none :=
            IdempotencyStore.remember_eq_none.mpr ⟨digest, r', hget, hne⟩
          cases hstore.symm.trans hnone
        rw [if_pos rfl] at hentry
        exact ⟨r, hdigest ▸ he.trans hentry.symm⟩
      · rw [if_neg hid] at hentry
        exact ⟨r', he.trans (hentry.symm.trans hget)⟩

/-- A retained key holds what was remembered last. -/
theorem get?_iff {h : StoreHistory α} (hexact : Exact h) {commandId : String}
    {entry : String × α} : h.store.get? commandId = some entry ↔
      commandId ∈ h.store.entries.keys ∧ h.lastStored? commandId = some entry := by
  constructor
  · exact fun hget => ⟨OrderedDict.mem_keys.mpr ⟨entry, hget⟩, hexact.stored commandId entry hget⟩
  · rintro ⟨hmem, hlast⟩
    obtain ⟨e, he⟩ := OrderedDict.mem_keys.mp hmem
    exact he.trans ((hexact.stored commandId e he).symm.trans hlast)

theorem inspect_iff {h : StoreHistory α} (hexact : Exact h) (commandId digest : String) :
    (∀ result, (h.store.inspect commandId digest).1 = ⟨.replay, some result⟩ ↔
      commandId ∈ h.store.entries.keys ∧ h.lastStored? commandId = some (digest, result)) ∧
    ((h.store.inspect commandId digest).1.kind = .conflict ↔ commandId ∈ h.store.entries.keys ∧
      ∃ d r, h.lastStored? commandId = some (d, r) ∧ d ≠ digest) := by
  have hconflict : (∃ d r, h.store.get? commandId = some (d, r) ∧ d ≠ digest) ↔
      commandId ∈ h.store.entries.keys ∧
        ∃ d r, h.lastStored? commandId = some (d, r) ∧ d ≠ digest := by
    simp only [get?_iff hexact]
    constructor
    · rintro ⟨d, r, ⟨hmem, hlast⟩, hne⟩
      exact ⟨hmem, d, r, hlast, hne⟩
    · rintro ⟨hmem, d, r, hlast, hne⟩
      exact ⟨d, r, ⟨hmem, hlast⟩, hne⟩
  rw [← hconflict]
  simp only [← get?_iff hexact]
  rcases h.store.inspect_cases commandId digest with
    ⟨hget, hdecision⟩ | ⟨d, r, hget, hne, hdecision⟩ | ⟨r, hget, hdecision⟩
  · simp [hget, hdecision]
  · simp [hget, hdecision, hne]
  · simp [hget, hdecision]

/-- In every run the store holds the keys that were touched last, answers with the last remembered
result, keeps the digest of a retained key, and is left alone by a `remember` that raises. -/
theorem store_exact {capacity : ℕ} {hcapacity : 0 < capacity} {h : StoreHistory α}
    (hrun : Run ⟨.new capacity hcapacity, []⟩ h) :
    (h.store.entries.keys = recent capacity h.touches ∧
      ∀ commandId, commandId ∈ h.store.entries.keys ↔ ∃ earlier used,
        h.touches = earlier ++ commandId :: used ∧ commandId ∉ used ∧
          used.dedup.length < capacity) ∧
    (∀ commandId digest,
      (∀ result, (h.store.inspect commandId digest).1 = ⟨.replay, some result⟩ ↔
        commandId ∈ h.store.entries.keys ∧ h.lastStored? commandId = some (digest, result)) ∧
      ((h.store.inspect commandId digest).1.kind = .conflict ↔
        commandId ∈ h.store.entries.keys ∧
          ∃ d r, h.lastStored? commandId = some (d, r) ∧ d ≠ digest) ∧
      ((h.store.inspect commandId digest).1.kind = .new ↔ commandId ∉ h.store.entries.keys)) ∧
    (∀ commandId digest result later, h.store.get? commandId = some (digest, result) →
      Kept commandId h later → ∃ r, later.store.get? commandId = some (digest, r)) ∧
    ∀ commandId digest result, h.store.remember commandId digest result = none →
      (∃ d r, h.lastStored? commandId = some (d, r) ∧ d ≠ digest) ∧
        (h.next (.remember commandId digest result)).store = h.store := by
  obtain ⟨rfl, hexact⟩ := run_exact hrun
  refine ⟨⟨hexact.keys, fun commandId => ?_⟩, fun commandId digest => ?_,
    fun commandId digest result later => digest_kept, fun commandId digest result hnone => ?_⟩
  · rw [hexact.keys]
    exact mem_recent_iff
  · obtain ⟨hreplay, hconflict⟩ := inspect_iff hexact commandId digest
    exact ⟨hreplay, hconflict, inspect_kind h.store commandId digest⟩
  · obtain ⟨d, r, hget, hne⟩ := IdempotencyStore.remember_eq_none.mp hnone
    refine ⟨⟨d, r, ((get?_iff hexact).mp hget).2, hne⟩, ?_⟩
    simp only [next, hnone]

/-- Room for two commands: a replay of the first one saves it when a third one comes. -/
def threeCommands : List (StoreCall ℕ) := [
  .remember "command-1" "a" 1, .remember "command-2" "b" 2, .inspect "command-1" "a",
  .remember "command-3" "c" 3, .remember "command-1" "x" 4]

theorem replayed_command_retained :
    let h := runTrace next ⟨.new 2 (Nat.succ_pos _), []⟩ threeCommands
    h.store.entries.keys = recent 2 h.touches ∧ recent 2 h.touches = ["command-1", "command-3"] :=
  ⟨(store_exact (valid_trace_execution (valid_trace_of_total _ threeCommands))).1.1,
    by decide +kernel⟩

end StoreHistory

end InspectionLine
