import Mathlib.Data.List.Basic
import Mathlib.Data.List.Dedup
import Mathlib.Data.List.DropRight
import Mathlib.Data.List.Nodup
import Mathlib.Data.List.Lookmap

/-! # Dictionaries in insertion order

Entries keep the order in which their keys were first stored. Keys are distinct by
construction, so lookup and membership describe the same relation. -/

@[ext] structure OrderedDict (κ ν : Type*) where
  entries : List (κ × ν)
  nodup : (entries.map Prod.fst).Nodup

namespace OrderedDict

variable {κ ν : Type*}

instance [DecidableEq κ] [DecidableEq ν] : DecidableEq (OrderedDict κ ν) := fun a b =>
  decidable_of_iff (a.entries = b.entries) (by cases a; cases b; simp)

def empty : OrderedDict κ ν := ⟨[], List.nodup_nil⟩

instance : Inhabited (OrderedDict κ ν) := ⟨empty⟩

def keys (d : OrderedDict κ ν) : List κ := d.entries.map Prod.fst

def values (d : OrderedDict κ ν) : List ν := d.entries.map Prod.snd

def size (d : OrderedDict κ ν) : ℕ := d.entries.length

variable [DecidableEq κ]

def get? (d : OrderedDict κ ν) (k : κ) : Option ν := d.entries.lookup k

def contains (d : OrderedDict κ ν) (k : κ) : Bool := (d.get? k).isSome

/-- Replaces the value in place; a key that is absent stays absent. -/
def modify (d : OrderedDict κ ν) (k : κ) (f : ν → ν) : OrderedDict κ ν where
  entries := d.entries.map fun p => if p.1 = k then (p.1, f p.2) else p
  nodup := by
    have hkeys : (d.entries.map fun p => if p.1 = k then (p.1, f p.2) else p).map Prod.fst =
        d.entries.map Prod.fst := by
      rw [List.map_map]
      refine List.map_congr_left fun p _ => ?_
      simp only [Function.comp_apply]
      split <;> rfl
    rw [hkeys]
    exact d.nodup

def erase (d : OrderedDict κ ν) (k : κ) : OrderedDict κ ν where
  entries := d.entries.filter fun p => p.1 ≠ k
  nodup := d.nodup.sublist (List.filter_sublist.map _)

def append (d : OrderedDict κ ν) (k : κ) (v : ν) (h : k ∉ d.keys) : OrderedDict κ ν where
  entries := d.entries ++ [(k, v)]
  nodup := by
    rw [List.map_append]
    refine List.nodup_append.mpr ⟨d.nodup, List.nodup_singleton _, ?_⟩
    intro a ha b hb
    rw [List.map_singleton, List.mem_singleton] at hb
    rintro rfl
    subst hb
    exact h ha

/-- Assignment: a present key keeps its place, a new key goes to the end. -/
def insert (d : OrderedDict κ ν) (k : κ) (v : ν) : OrderedDict κ ν :=
  if h : k ∈ d.keys then d.modify k fun _ => v else d.append k v h

/-- A present key keeps its value, a new key goes to the end. -/
def insertOrIgnore (d : OrderedDict κ ν) (k : κ) (v : ν) : OrderedDict κ ν :=
  if h : k ∈ d.keys then d else d.append k v h

/-- Assignment followed by a move to the end. -/
def touch (d : OrderedDict κ ν) (k : κ) (v : ν) : OrderedDict κ ν :=
  (d.erase k).append k v (by simp [erase, keys])

/-- An assignment for each element of a list, in its order. -/
def collect {α : Type*} (key : α → κ) (value : α → ν) (l : List α) : OrderedDict κ ν :=
  l.foldl (fun d x => d.insert (key x) (value x)) empty

/-- Drops entries from the front until at most `n` remain. -/
def trim (d : OrderedDict κ ν) (n : ℕ) : OrderedDict κ ν where
  entries := d.entries.drop (d.entries.length - n)
  nodup := d.nodup.sublist ((List.drop_sublist _ _).map _)

theorem get?_eq_some {d : OrderedDict κ ν} {k : κ} {v : ν} :
    d.get? k = some v ↔ (k, v) ∈ d.entries := by
  obtain ⟨l, hl⟩ := d
  unfold get?
  induction l with
  | nil => simp
  | cons p l ih =>
    obtain ⟨q, w⟩ := p
    rw [List.map_cons, List.nodup_cons] at hl
    by_cases hq : k = q
    · subst hq
      have habs : ∀ u, (k, u) ∉ l := fun u hu => hl.1 (List.mem_map.mpr ⟨(k, u), hu, rfl⟩)
      simp [habs, eq_comm]
    · have hb : (k == q) = false := beq_false_of_ne hq
      rw [List.lookup_cons, hb, List.mem_cons]
      simpa [hq] using ih hl.2

theorem get?_eq_none {d : OrderedDict κ ν} {k : κ} : d.get? k = none ↔ k ∉ d.keys := by
  rw [Option.eq_none_iff_forall_ne_some]
  simp only [ne_eq, get?_eq_some, keys, List.mem_map, Prod.exists, exists_and_right,
    exists_eq_right, not_exists]

theorem mem_keys {d : OrderedDict κ ν} {k : κ} : k ∈ d.keys ↔ ∃ v, d.get? k = some v := by
  rw [← not_iff_not, ← get?_eq_none, Option.eq_none_iff_forall_ne_some]
  simp

theorem contains_iff {d : OrderedDict κ ν} {k : κ} : d.contains k = true ↔ k ∈ d.keys := by
  rw [mem_keys, contains, Option.isSome_iff_exists]

@[simp] theorem get?_empty (k : κ) : (empty : OrderedDict κ ν).get? k = none := rfl

omit [DecidableEq κ] in
@[simp] theorem entries_empty : (empty : OrderedDict κ ν).entries = [] := rfl

@[simp] theorem keys_modify (d : OrderedDict κ ν) (k : κ) (f : ν → ν) :
    (d.modify k f).keys = d.keys := by
  unfold keys modify
  rw [List.map_map]
  refine List.map_congr_left fun p _ => ?_
  simp only [Function.comp_apply]
  split <;> rfl

theorem get?_modify (d : OrderedDict κ ν) (k j : κ) (f : ν → ν) :
    (d.modify k f).get? j = if j = k then (d.get? j).map f else d.get? j := by
  ext v
  rw [get?_eq_some]
  simp only [modify, List.mem_map, Prod.exists]
  split
  · rename_i hj
    subst hj
    simp only [Option.map_eq_some_iff, get?_eq_some]
    constructor
    · rintro ⟨a, b, hm, he⟩
      split at he
      · rename_i ha
        obtain ⟨rfl, rfl⟩ := Prod.mk.inj he
        exact ⟨b, hm, rfl⟩
      · rename_i ha
        exact absurd (Prod.mk.inj he).1 ha
    · rintro ⟨b, hm, rfl⟩
      exact ⟨j, b, hm, by simp⟩
  · rename_i hj
    rw [get?_eq_some]
    constructor
    · rintro ⟨a, b, hm, he⟩
      split at he
      · rename_i ha
        exact absurd ((Prod.mk.inj he).1.symm.trans ha) hj
      · exact he ▸ hm
    · intro hm
      exact ⟨j, v, hm, by simp [hj]⟩

/-- One update over a duplicate-free list of keys updates exactly those keys. -/
theorem modify_eq_self {d : OrderedDict κ ν} {k : κ} {f : ν → ν}
    (h : ∀ v, d.get? k = some v → f v = v) : d.modify k f = d := by
  have hentries : ∀ p ∈ d.entries, (if p.1 = k then (p.1, f p.2) else p) = p := by
    rintro ⟨q, v⟩ hp
    split
    · rename_i hq
      have hv : f v = v := h v (get?_eq_some.mpr (hq ▸ hp))
      rw [hv]
    · rfl
  refine OrderedDict.ext ?_
  exact (List.map_congr_left hentries).trans (List.map_id' _)

theorem get?_foldl_modify (ks : List κ) (hk : ks.Nodup) (d : OrderedDict κ ν) (f : ν → ν) (j : κ) :
    (ks.foldl (fun d k => d.modify k f) d).get? j =
      if j ∈ ks then (d.get? j).map f else d.get? j := by
  induction ks generalizing d with
  | nil => simp
  | cons k ks ih =>
    obtain ⟨hnot, hnodup⟩ := List.nodup_cons.mp hk
    rw [List.foldl_cons, ih hnodup, get?_modify]
    by_cases hj : j = k
    · subst hj
      simp [hnot]
    · simp [hj]

theorem get?_erase (d : OrderedDict κ ν) (k j : κ) :
    (d.erase k).get? j = if j = k then none else d.get? j := by
  ext v
  rw [get?_eq_some]
  simp only [erase, List.mem_filter, ne_eq, decide_not, Bool.not_eq_true', decide_eq_false_iff_not]
  split
  · rename_i hj
    simp [hj]
  · rename_i hj
    simp [get?_eq_some, hj]

@[simp] theorem get?_erase_self (d : OrderedDict κ ν) (k : κ) : (d.erase k).get? k = none := by
  simp [get?_erase]

theorem get?_foldl_erase (ks : List κ) (d : OrderedDict κ ν) (j : κ) :
    (ks.foldl erase d).get? j = if j ∈ ks then none else d.get? j := by
  induction ks generalizing d with
  | nil => simp
  | cons k ks ih =>
    rw [List.foldl_cons, ih, get?_erase]
    by_cases hj : j = k
    · simp [hj]
    · simp [hj]

theorem get?_append (d : OrderedDict κ ν) (k j : κ) (v : ν) (h : k ∉ d.keys) :
    (d.append k v h).get? j = if j = k then some v else d.get? j := by
  ext w
  rw [get?_eq_some]
  simp only [append, List.mem_append, List.mem_singleton, Prod.mk.injEq]
  split
  · rename_i hj
    subst hj
    have habs : (j, w) ∉ d.entries := fun hm => h (List.mem_map.mpr ⟨(j, w), hm, rfl⟩)
    simp [habs, eq_comm]
  · rename_i hj
    simp [get?_eq_some, hj]

theorem entries_insert_of_not_mem {d : OrderedDict κ ν} {k : κ} (h : k ∉ d.keys) (v : ν) :
    (d.insert k v).entries = d.entries ++ [(k, v)] := by
  rw [insert, dif_neg h]
  rfl

theorem entries_collect {α : Type*} {key : α → κ} (value : α → ν) {l : List α}
    (h : (l.map key).Nodup) : (collect key value l).entries = l.map fun x => (key x, value x) := by
  have hall : ∀ (rest : List α) (d : OrderedDict κ ν), (rest.map key).Nodup →
      (∀ x ∈ rest, key x ∉ d.keys) →
        (rest.foldl (fun d x => d.insert (key x) (value x)) d).entries =
          d.entries ++ rest.map fun x => (key x, value x) := by
    intro rest
    induction rest with
    | nil => intros; simp
    | cons x rest ih =>
      intro d hnodup hnew
      obtain ⟨hfirst, hrest⟩ := List.nodup_cons.mp hnodup
      have hinsert := entries_insert_of_not_mem (hnew x List.mem_cons_self) (value x)
      rw [List.foldl_cons, ih _ hrest, hinsert, List.map_cons, List.append_assoc,
        List.singleton_append]
      intro y hy hmem
      rw [keys, hinsert, List.map_append, List.mem_append] at hmem
      rcases hmem with hmem | hmem
      · exact hnew y (List.mem_cons_of_mem _ hy) hmem
      · rw [List.map_singleton, List.mem_singleton] at hmem
        exact hfirst (List.mem_map.mpr ⟨y, hy, hmem⟩)
  exact hall l empty h fun x _ => List.not_mem_nil

theorem get?_insert (d : OrderedDict κ ν) (k j : κ) (v : ν) :
    (d.insert k v).get? j = if j = k then some v else d.get? j := by
  unfold insert
  split
  · rename_i hk
    rw [get?_modify]
    split
    · rename_i hj
      subst hj
      obtain ⟨w, hw⟩ := mem_keys.mp hk
      simp [hw]
    · rfl
  · exact get?_append _ _ _ _ _

@[simp] theorem get?_insert_self (d : OrderedDict κ ν) (k : κ) (v : ν) :
    (d.insert k v).get? k = some v := by simp [get?_insert]

theorem get?_insert_of_ne (d : OrderedDict κ ν) {k j : κ} (v : ν) (h : j ≠ k) :
    (d.insert k v).get? j = d.get? j := by simp [get?_insert, h]

theorem get?_collect {α : Type*} {key : α → κ} {value : α → ν} {l : List α} {k : κ} {v : ν}
    (h : (collect key value l).get? k = some v) : ∃ x ∈ l, key x = k ∧ value x = v := by
  induction l using List.reverseRecOn with
  | nil => cases h
  | append_singleton l x ih =>
    rw [collect, List.foldl_append] at h
    change ((collect key value l).insert (key x) (value x)).get? k = some v at h
    rw [get?_insert] at h
    split at h
    · rename_i hk
      exact ⟨x, List.mem_append_right _ List.mem_cons_self, hk.symm, Option.some.inj h⟩
    · obtain ⟨y, hy, hkey⟩ := ih h
      exact ⟨y, List.mem_append_left _ hy, hkey⟩

theorem mem_keys_collect {α : Type*} {key : α → κ} {value : α → ν} {l : List α} {k : κ} :
    k ∈ (collect key value l).keys ↔ k ∈ l.map key := by
  induction l using List.reverseRecOn with
  | nil => rfl
  | append_singleton l x ih =>
    rw [List.map_append, List.mem_append, ← ih, List.map_singleton, List.mem_singleton, mem_keys,
      mem_keys, collect, List.foldl_append]
    change (∃ v, ((collect key value l).insert (key x) (value x)).get? k = some v) ↔ _
    by_cases hk : k = key x
    · subst hk
      exact ⟨fun _ => .inr rfl, fun _ => ⟨value x, get?_insert_self ..⟩⟩
    · rw [get?_insert_of_ne _ _ hk]
      exact ⟨.inl, fun h => h.resolve_right hk⟩

theorem get?_insertOrIgnore_of_some {d : OrderedDict κ ν} {j : κ} {w : ν} (h : d.get? j = some w)
    (k : κ) (v : ν) : (d.insertOrIgnore k v).get? j = some w := by
  unfold insertOrIgnore
  split
  · exact h
  · rename_i hk
    rw [get?_append, if_neg, h]
    rintro rfl
    exact hk (mem_keys.mpr ⟨w, h⟩)

theorem get?_insertOrIgnore_self {d : OrderedDict κ ν} {k : κ} (h : d.get? k = none) (v : ν) :
    (d.insertOrIgnore k v).get? k = some v := by
  unfold insertOrIgnore
  rw [dif_neg (get?_eq_none.mp h), get?_append, if_pos rfl]

theorem get?_insertOrIgnore_cases {d : OrderedDict κ ν} {k j : κ} {v w : ν}
    (h : (d.insertOrIgnore k v).get? j = some w) : d.get? j = some w ∨ (j = k ∧ w = v) := by
  unfold insertOrIgnore at h
  split at h
  · exact .inl h
  · rw [get?_append] at h
    split at h
    · rename_i hj
      exact .inr ⟨hj, (Option.some.inj h).symm⟩
    · exact .inl h

theorem keys_insertOrIgnore_of_none {d : OrderedDict κ ν} {k : κ} (h : d.get? k = none) (v : ν) :
    (d.insertOrIgnore k v).keys = d.keys ++ [k] := by
  unfold insertOrIgnore
  rw [dif_neg (get?_eq_none.mp h)]
  simp [append, keys]

theorem get?_touch (d : OrderedDict κ ν) (k j : κ) (v : ν) :
    (d.touch k v).get? j = if j = k then some v else d.get? j := by
  unfold touch
  rw [get?_append, get?_erase]
  split <;> rfl

@[simp] theorem keys_erase (d : OrderedDict κ ν) (k : κ) :
    (d.erase k).keys = d.keys.filter (· ≠ k) := by
  simp only [keys, erase, List.filter_map]
  rfl

@[simp] theorem keys_touch (d : OrderedDict κ ν) (k : κ) (v : ν) :
    (d.touch k v).keys = d.keys.filter (· ≠ k) ++ [k] := by
  rw [← keys_erase]
  simp [touch, append, keys]

omit [DecidableEq κ] in
@[simp] theorem keys_trim (d : OrderedDict κ ν) (n : ℕ) :
    (d.trim n).keys = d.keys.rtake n := by
  simp [keys, trim, List.rtake, List.map_drop]

theorem filter_ne_eq_erase {l : List κ} (h : l.Nodup) (k : κ) :
    l.filter (· ≠ k) = l.erase k := by
  rw [h.erase_eq_filter]
  exact List.filter_congr fun a _ => by simp [bne, BEq.beq]

omit [DecidableEq κ] in
theorem size_eq_keys (d : OrderedDict κ ν) : d.size = d.keys.length := by
  simp [size, keys]

omit [DecidableEq κ] in
theorem size_trim_le (d : OrderedDict κ ν) (n : ℕ) : (d.trim n).size ≤ n := by
  unfold size trim
  rw [List.length_drop]
  omega

theorem size_touch_of_some {d : OrderedDict κ ν} {k : κ} {v : ν} (h : d.get? k = some v) (w : ν) :
    (d.touch k w).size = d.size := by
  have hk : k ∈ d.keys := mem_keys.mpr ⟨v, h⟩
  have hpos : 0 < d.keys.length := List.length_pos_of_mem hk
  have hnodup : d.keys.Nodup := d.nodup
  rw [size_eq_keys, size_eq_keys, keys_touch, filter_ne_eq_erase hnodup, List.length_append,
    List.length_erase_of_mem hk, List.length_singleton]
  omega

theorem size_touch_of_none {d : OrderedDict κ ν} {k : κ} (h : d.get? k = none) (v : ν) :
    (d.touch k v).size = d.size + 1 := by
  have hfilter : d.keys.filter (· ≠ k) = d.keys := by
    refine List.filter_eq_self.mpr fun a ha => ?_
    have hne : a ≠ k := by
      rintro rfl
      exact get?_eq_none.mp h ha
    simpa using hne
  rw [size_eq_keys, size_eq_keys, keys_touch, hfilter, List.length_append, List.length_singleton]

theorem size_erase_of_some {d : OrderedDict κ ν} {k : κ} {v : ν} (h : d.get? k = some v) :
    (d.erase k).size + 1 = d.size := by
  have hk : k ∈ d.keys := mem_keys.mpr ⟨v, h⟩
  have hpos : 0 < d.keys.length := List.length_pos_of_mem hk
  have hnodup : d.keys.Nodup := d.nodup
  rw [size_eq_keys, size_eq_keys, keys_erase, filter_ne_eq_erase hnodup,
    List.length_erase_of_mem hk]
  omega

theorem get?_of_trim {d : OrderedDict κ ν} {n : ℕ} {k : κ} {v : ν}
    (h : (d.trim n).get? k = some v) : d.get? k = some v := by
  rw [get?_eq_some] at h ⊢
  exact List.mem_of_mem_drop h

omit [DecidableEq κ] in
theorem trim_of_size_le {d : OrderedDict κ ν} {n : ℕ} (h : d.size ≤ n) : d.trim n = d := by
  have hzero : d.entries.length - n = 0 := Nat.sub_eq_zero_of_le h
  ext1
  simp only [trim, hzero, List.drop_zero]

/-- The keys a table keeps when every use of a key moves it to the end and the front is
dropped beyond `n`: the last `n` distinct keys of the log, by their last use. -/
def recent (n : ℕ) (log : List κ) : List κ := log.dedup.rtake n

theorem dedup_append_singleton (l : List κ) (k : κ) :
    (l ++ [k]).dedup = l.dedup.filter (· ≠ k) ++ [k] := by
  induction l with
  | nil => rfl
  | cons a l ih =>
    rw [List.cons_append, List.dedup_cons, List.dedup_cons, ih]
    by_cases ha : a ∈ l
    · simp [ha]
    · by_cases hk : a = k
      · subst hk
        simp [ha]
      · simp [ha, hk]

omit [DecidableEq κ] in
theorem rtake_append_of_le {l m : List κ} {n : ℕ} (h : n ≤ m.length) :
    (l ++ m).rtake n = m.rtake n := by
  have hlen : (l ++ m).length - n = l.length + (m.length - n) := by
    rw [List.length_append]
    omega
  rw [List.rtake, hlen, List.drop_append, List.drop_eq_nil_of_le (by omega), List.nil_append,
    Nat.add_sub_cancel_left, List.rtake]

omit [DecidableEq κ] in
theorem rtake_concat (l : List κ) (n : ℕ) (k : κ) :
    (l.rtake n ++ [k]).rtake n = (l ++ [k]).rtake n := by
  rcases Nat.lt_or_ge l.length n with hlt | hge
  · have hall : l.rtake n = l := by simp [List.rtake, Nat.sub_eq_zero_of_le hlt.le]
    rw [hall]
  · have hsplit : l = l.take (l.length - n) ++ l.rtake n := (List.take_append_drop _ l).symm
    have hlen : n ≤ (l.rtake n ++ [k]).length := by
      rw [List.length_append, List.rtake, List.length_drop, List.length_singleton]
      omega
    conv_rhs => rw [hsplit, List.append_assoc]
    exact (rtake_append_of_le hlen).symm

theorem rtake_touch {l : List κ} (hl : l.Nodup) (n : ℕ) (k : κ) :
    ((l.rtake n).filter (· ≠ k) ++ [k]).rtake n = (l.filter (· ≠ k) ++ [k]).rtake n := by
  have hsplit : l = l.take (l.length - n) ++ l.rtake n := (List.take_append_drop _ l).symm
  rcases Nat.lt_or_ge l.length n with hlt | hge
  · have hall : l.rtake n = l := by simp [List.rtake, Nat.sub_eq_zero_of_le hlt.le]
    rw [hall]
  · have hlen : (l.rtake n).length = n := by
      rw [List.rtake, List.length_drop]
      omega
    have hfilter : n ≤ ((l.rtake n).filter (· ≠ k) ++ [k]).length := by
      have hnodup : (l.rtake n).Nodup := hl.sublist (List.drop_sublist _ _)
      rw [filter_ne_eq_erase hnodup, List.length_append, List.length_erase, List.length_singleton]
      split <;> omega
    conv_rhs => rw [hsplit, List.filter_append, List.append_assoc]
    exact (rtake_append_of_le hfilter).symm

theorem recent_append (n : ℕ) (log : List κ) (k : κ) :
    recent n (log ++ [k]) = ((recent n log).filter (· ≠ k) ++ [k]).rtake n := by
  rw [recent, dedup_append_singleton, recent, rtake_touch (List.nodup_dedup log)]

theorem rtake_recent (n : ℕ) (log : List κ) : (recent n log).rtake n = recent n log := by
  have hlen : (recent n log).length ≤ n := by
    rw [recent, List.rtake, List.length_drop]
    omega
  rw [List.rtake, Nat.sub_eq_zero_of_le hlen, List.drop_zero]

/-- What stands before `n` later keys of a log without repetitions is forgotten. -/
theorem not_mem_recent {log pre rest : List κ} (hlog : log = pre ++ rest) (hnodup : log.Nodup)
    {n : ℕ} (hn : n ≤ rest.length) {k : κ} (hk : k ∈ pre) : k ∉ recent n log := by
  rw [recent, List.dedup_eq_self.mpr hnodup, hlog, rtake_append_of_le hn]
  intro hm
  have hrest : k ∈ rest := (List.drop_sublist _ _).mem hm
  rw [hlog] at hnodup
  exact (List.nodup_append.mp hnodup).2.2 k hk k hrest rfl

/-- Several uses with one trim at the end keep the most recent keys too. -/
theorem keys_trim_touch_all {d : OrderedDict κ ν} {n : ℕ} {log : List κ}
    (h : d.keys.rtake n = recent n log) (ks : List κ) (v : ν) :
    ((ks.foldl (fun d k => d.touch k v) d).trim n).keys = recent n (log ++ ks) := by
  induction ks generalizing d log with
  | nil => simpa using h
  | cons k ks ih =>
    rw [List.foldl_cons, List.append_cons]
    refine ih ?_
    rw [recent_append, ← h, keys_touch]
    exact (rtake_touch d.nodup n k).symm
end OrderedDict
