import InspectionLine.OrderedDict

/-! # The bounded store of command results

The store tells a retransmission from a conflict. A command that is asked for or stored again
becomes the most recent one, and the oldest ones are dropped beyond the capacity. -/
namespace InspectionLine

inductive ReplayKind where
  | new | replay | conflict
  deriving DecidableEq, Repr

structure ReplayDecision (α : Type*) where
  kind : ReplayKind
  result : Option α := none
  deriving DecidableEq

structure IdempotencyStore (α : Type*) where
  capacity : ℕ
  entries : OrderedDict String (String × α)
  capacity_pos : 0 < capacity
  bounded : entries.size ≤ capacity

namespace IdempotencyStore

theorem default_capacity_pos : 0 < 4096 := Nat.succ_pos _

theorem operator_capacity_pos : 0 < 512 := Nat.succ_pos _

variable {α : Type*}

def new (capacity : ℕ) (h : 0 < capacity) : IdempotencyStore α :=
  ⟨capacity, .empty, h, Nat.zero_le _⟩

/-- An entry that is found moves to the end. -/
def inspect (store : IdempotencyStore α) (commandId digest : String) :
    ReplayDecision α × IdempotencyStore α :=
  match h : store.entries.get? commandId with
  | none => ({ kind := .new }, store)
  | some (storedDigest, result) =>
    let store := { store with
      entries := store.entries.touch commandId (storedDigest, result)
      bounded := (OrderedDict.size_touch_of_some h _).trans_le store.bounded }
    if storedDigest ≠ digest then ({ kind := .conflict }, store)
    else ({ kind := .replay, result := some result }, store)

/-- `none` is the raised ValueError: the same command_id with another digest. -/
def remember (store : IdempotencyStore α) (commandId digest : String) (result : α) :
    Option (IdempotencyStore α) :=
  if (store.entries.get? commandId).any fun existing => existing.1 ≠ digest then none
  else some { store with
    entries := (store.entries.touch commandId (digest, result)).trim store.capacity
    bounded := OrderedDict.size_trim_le _ _ }

def get? (store : IdempotencyStore α) (commandId : String) : Option (String × α) :=
  store.entries.get? commandId

/-- The command is stored already or there is room for one more. -/
def HasRoom (store : IdempotencyStore α) (commandId : String) : Prop :=
  (store.get? commandId).isSome ∨ store.entries.size < store.capacity

instance (store : IdempotencyStore α) (commandId : String) :
    Decidable (store.HasRoom commandId) := by
  unfold HasRoom
  infer_instance

@[simp] theorem get?_inspect (store : IdempotencyStore α) (commandId digest other : String) :
    (store.inspect commandId digest).2.get? other = store.get? other := by
  unfold inspect get?
  split
  · rfl
  · rename_i d r hsome
    split <;> simp only [OrderedDict.get?_touch] <;> split
    · rename_i hk
      rw [hk, hsome]
    · rfl
    · rename_i hk
      rw [hk, hsome]
    · rfl

theorem inspect_cases (store : IdempotencyStore α) (commandId digest : String) :
    (store.get? commandId = none ∧ (store.inspect commandId digest).1 = { kind := .new }) ∨
      (∃ d r, store.get? commandId = some (d, r) ∧ d ≠ digest ∧
        (store.inspect commandId digest).1 = { kind := .conflict }) ∨
      ∃ r, store.get? commandId = some (digest, r) ∧
        (store.inspect commandId digest).1 = { kind := .replay, result := some r } := by
  unfold inspect get?
  split
  · rename_i hnone
    exact .inl ⟨hnone, rfl⟩
  · rename_i d r hsome
    split
    · rename_i hne
      exact .inr (.inl ⟨d, r, hsome, hne, rfl⟩)
    · rename_i heq
      rw [ne_eq, not_not] at heq
      subst heq
      exact .inr (.inr ⟨r, hsome, rfl⟩)

theorem get?_remember_cases {store next : IdempotencyStore α} {commandId digest : String}
    {result : α} (h : store.remember commandId digest result = some next) {other : String}
    {e : String × α} (he : next.get? other = some e) :
    other = commandId ∧ e = (digest, result) ∨ store.get? other = some e := by
  unfold remember at h
  split at h
  · cases h
  · cases h
    have hkept : (store.entries.touch commandId (digest, result)).get? other = some e :=
      OrderedDict.get?_of_trim he
    rw [OrderedDict.get?_touch] at hkept
    split at hkept
    · rename_i hsame
      cases hkept
      exact .inl ⟨hsame, rfl⟩
    · exact .inr hkept

/-- With room in the store nothing is dropped. -/
theorem get?_remember {store next : IdempotencyStore α} {commandId digest : String} {result : α}
    (h : store.remember commandId digest result = some next) (hroom : store.HasRoom commandId)
    (other : String) :
    next.get? other = if other = commandId then some (digest, result) else store.get? other := by
  unfold remember at h
  split at h
  · cases h
  · cases h
    have hsize : (store.entries.touch commandId (digest, result)).size ≤ store.capacity := by
      cases hget : store.entries.get? commandId with
      | none =>
        rw [OrderedDict.size_touch_of_none hget]
        rcases hroom with hsome | hlt
        · simp [get?, hget] at hsome
        · exact hlt
      | some v =>
        rw [OrderedDict.size_touch_of_some hget]
        exact store.bounded
    simp only [get?, OrderedDict.trim_of_size_le hsize, OrderedDict.get?_touch]

theorem remember_of_absent {store : IdempotencyStore α} {commandId : String}
    (h : store.get? commandId = none) (digest : String) (result : α) :
    ∃ next, store.remember commandId digest result = some next := by
  have hget : store.entries.get? commandId = none := h
  exact ⟨_, by simp [remember, hget]; rfl⟩

theorem keys_inspect (store : IdempotencyStore α) (commandId digest : String) :
    (store.inspect commandId digest).2.entries.keys =
      if commandId ∈ store.entries.keys then
        store.entries.keys.filter (· ≠ commandId) ++ [commandId] else store.entries.keys := by
  unfold inspect
  split
  · rename_i hnone
    rw [if_neg (OrderedDict.get?_eq_none.mp hnone)]
  · rename_i hsome
    rw [if_pos (OrderedDict.mem_keys.mpr ⟨_, hsome⟩)]
    split <;> exact OrderedDict.keys_touch ..

theorem capacity_inspect (store : IdempotencyStore α) (commandId digest : String) :
    (store.inspect commandId digest).2.capacity = store.capacity := by
  unfold inspect
  split
  · rfl
  · split <;> rfl

theorem inspect_absent {store : IdempotencyStore α} {commandId : String}
    (h : commandId ∉ store.entries.keys) (digest : String) :
    store.inspect commandId digest = ({ kind := .new }, store) := by
  unfold inspect
  split
  · rfl
  · rename_i hsome
    exact absurd (OrderedDict.mem_keys.mpr ⟨_, hsome⟩) h

theorem keys_remember {store next : IdempotencyStore α} {commandId digest : String}
    {result : α} (h : store.remember commandId digest result = some next) :
    next.capacity = store.capacity ∧ next.entries.keys =
      (store.entries.keys.filter (· ≠ commandId) ++ [commandId]).rtake store.capacity := by
  unfold remember at h
  split at h
  · exact absurd h (Option.some_ne_none _).symm
  · cases h
    exact ⟨rfl, by rw [OrderedDict.keys_trim, OrderedDict.keys_touch]⟩

end IdempotencyStore

end InspectionLine
