import Mathlib.Algebra.Order.Field.Basic
import Mathlib.Algebra.Order.Floor.Semiring
import Mathlib.Data.List.Forall2
import Mathlib.Data.List.GetD
import Mathlib.Data.List.Sort
import Mathlib.Tactic.Linarith

/-! # Order statistics

The entries of a list in ascending order, what lies between two of them, and the sum of the
largest. Each of these grows with the entries of the list, however they change places. -/
namespace OrderStatistics

/-! ### Sorting is monotone -/

section
variable {K : Type*} [LinearOrder K]

def sorted (l : List K) : List K := l.insertionSort (· ≤ ·)

theorem sorted_perm (l : List K) : (sorted l).Perm l := List.perm_insertionSort _ l

theorem sorted_pairwise (l : List K) : (sorted l).Pairwise (· ≤ ·) :=
  List.pairwise_insertionSort (· ≤ ·) l

@[simp] theorem length_sorted (l : List K) : (sorted l).length = l.length :=
  (sorted_perm l).length_eq

theorem ordered_insert_of_forall_le {a : K} {l : List K} (h : ∀ b ∈ l, a ≤ b) :
    l.orderedInsert (· ≤ ·) a = a :: l := by
  cases l with
  | nil => rfl
  | cons b l => exact List.orderedInsert_cons_of_le _ l (h b List.mem_cons_self)

/-- Inserting a greater element into a greater list; the two may go to different places. -/
theorem ordered_insert_mono {a b : K} {l m : List K} (hl : l.Pairwise (· ≤ ·))
    (hm : m.Pairwise (· ≤ ·)) (hab : a ≤ b) (h : List.Forall₂ (· ≤ ·) l m) :
    List.Forall₂ (· ≤ ·) (l.orderedInsert (· ≤ ·) a) (m.orderedInsert (· ≤ ·) b) := by
  induction h generalizing a b with
  | nil => exact .cons hab .nil
  | @cons x y l m hxy hlm ih =>
    obtain ⟨hx, hl⟩ := List.pairwise_cons.mp hl
    obtain ⟨hy, hm⟩ := List.pairwise_cons.mp hm
    by_cases hax : a ≤ x
    · rw [List.orderedInsert_cons_of_le _ l hax]
      by_cases hby : b ≤ y
      · rw [List.orderedInsert_cons_of_le _ m hby]
        exact .cons hab (.cons hxy hlm)
      · rw [List.orderedInsert_of_not_le _ m hby]
        have hxb : x ≤ b := hxy.trans (le_of_not_ge hby)
        have hrest := ih hl hm hxb
        rw [ordered_insert_of_forall_le hx] at hrest
        exact .cons (hax.trans hxy) hrest
    · rw [List.orderedInsert_of_not_le _ l hax]
      by_cases hby : b ≤ y
      · rw [List.orderedInsert_cons_of_le _ m hby]
        have hrest := ih hl hm (hab.trans hby)
        rw [ordered_insert_of_forall_le hy] at hrest
        exact .cons ((le_of_not_ge hax).trans hab) hrest
      · rw [List.orderedInsert_of_not_le _ m hby]
        exact .cons hxy (ih hl hm hab)

theorem sorted_mono {l m : List K} (h : List.Forall₂ (· ≤ ·) l m) :
    List.Forall₂ (· ≤ ·) (sorted l) (sorted m) := by
  induction h with
  | nil => exact .nil
  | cons hab _ ih => exact ordered_insert_mono (sorted_pairwise _) (sorted_pairwise _) hab ih

end

/-! ### Entries -/

section
variable {K : Type*} [Zero K] [LinearOrder K]

/-- An entry of a list that goes on with its last one. -/
def entry (s : List K) (i : ℕ) : K := s.getD (min i (s.length - 1)) 0

omit [LinearOrder K] in
theorem entry_of_lt {s : List K} {i : ℕ} (h : i < s.length) : entry s i = s.getD i 0 := by
  rw [entry, Nat.min_eq_left (by omega)]

omit [LinearOrder K] in
theorem entry_mem {s : List K} (hs : s ≠ []) (i : ℕ) : entry s i ∈ s := by
  have hlt : min i (s.length - 1) < s.length := by
    have := List.length_pos_iff.mpr hs
    omega
  rw [entry, List.getD_eq_getElem _ _ hlt]
  exact List.getElem_mem hlt

theorem entry_mono {s : List K} (hs : s.Pairwise (· ≤ ·)) {i j : ℕ} (h : i ≤ j) :
    entry s i ≤ entry s j := by
  cases s with
  | nil => exact le_refl _
  | cons a s =>
    have hj : min j ((a :: s).length - 1) < (a :: s).length := by
      rw [List.length_cons]
      omega
    have hij : min i ((a :: s).length - 1) ≤ min j ((a :: s).length - 1) := by omega
    have hi := hij.trans_lt hj
    rw [entry, entry, List.getD_eq_getElem _ _ hi, List.getD_eq_getElem _ _ hj]
    rcases hij.eq_or_lt with heq | hlt
    · simp only [heq, le_refl]
    · exact List.pairwise_iff_getElem.mp hs _ _ hi hj hlt

theorem entry_mono_list {s t : List K} (h : List.Forall₂ (· ≤ ·) s t) (i : ℕ) :
    entry s i ≤ entry t i := by
  have hlen := h.length_eq
  rw [entry, entry, hlen]
  generalize min i (t.length - 1) = j
  induction h generalizing j with
  | nil => exact le_refl _
  | cons hab _ ih =>
    cases j with
    | zero => exact hab
    | succ j => exact ih (Nat.succ.inj hlen) j

end

/-! ### Between two entries -/

section
variable {K : Type*} [Field K]

def lerp (a b t : K) : K := a + (b - a) * t

@[simp] theorem lerp_zero (a b : K) : lerp a b 0 = a := by rw [lerp, mul_zero, add_zero]

variable [LinearOrder K] [IsStrictOrderedRing K]

theorem lerp_mono {a b a' b' t : K} (ha : a ≤ a') (hb : b ≤ b') (h0 : 0 ≤ t) (h1 : t ≤ 1) :
    lerp a b t ≤ lerp a' b' t := by
  have hleft := mul_le_mul_of_nonneg_right ha (sub_nonneg.mpr h1)
  have hright := mul_le_mul_of_nonneg_right hb h0
  rw [lerp, lerp]
  linarith

theorem lerp_mono_weight {a b t t' : K} (hab : a ≤ b) (h : t ≤ t') : lerp a b t ≤ lerp a b t' := by
  have := mul_le_mul_of_nonneg_left h (sub_nonneg.mpr hab)
  rw [lerp, lerp]
  linarith

theorem le_lerp {a b t : K} (hab : a ≤ b) (h0 : 0 ≤ t) : a ≤ lerp a b t := by
  have := mul_nonneg (sub_nonneg.mpr hab) h0
  rw [lerp]
  linarith

theorem lerp_le {a b t : K} (hab : a ≤ b) (h1 : t ≤ 1) : lerp a b t ≤ b := by
  have := mul_le_mul_of_nonneg_left h1 (sub_nonneg.mpr hab)
  rw [lerp]
  linarith

def percentileRank (n : ℕ) (p : K) : K := (n - 1 : ℕ) * (p / 100)

theorem percentile_rank_nonneg (n : ℕ) {p : K} (h : 0 ≤ p) : 0 ≤ percentileRank n p :=
  mul_nonneg (Nat.cast_nonneg _) (div_nonneg h (by norm_num))

theorem percentile_rank_mono (n : ℕ) {p q : K} (h : p ≤ q) :
    percentileRank n p ≤ percentileRank n q :=
  mul_le_mul_of_nonneg_left (div_le_div_of_nonneg_right h (by norm_num)) (Nat.cast_nonneg _)

variable [FloorSemiring K]

/-- The value at a rank that need not be whole. -/
def valueAt (s : List K) (r : K) : K :=
  lerp (entry s ⌊r⌋₊) (entry s (⌊r⌋₊ + 1)) (r - ⌊r⌋₊)

theorem value_at_nat (s : List K) (n : ℕ) : valueAt s (n : K) = entry s n := by
  rw [valueAt, Nat.floor_natCast, sub_self, lerp_zero]

/-- It does not matter whether the next entry is the following one or that of the rank rounded
up. -/
theorem value_at_ceil (s : List K) {r : K} (h : 0 ≤ r) :
    valueAt s r = lerp (entry s ⌊r⌋₊) (entry s ⌈r⌉₊) (r - ⌊r⌋₊) := by
  rcases (Nat.floor_le h).eq_or_lt with heq | hlt
  · rw [valueAt, heq, sub_self, lerp_zero, lerp_zero]
  · have hceil : ⌈r⌉₊ = ⌊r⌋₊ + 1 := by
      refine Nat.le_antisymm (Nat.ceil_le_floor_add_one r) ?_
      exact Nat.cast_lt.mp (hlt.trans_le (Nat.le_ceil r))
    rw [valueAt, hceil]

theorem weight_nonneg {r : K} (h : 0 ≤ r) : 0 ≤ r - ⌊r⌋₊ := sub_nonneg.mpr (Nat.floor_le h)

theorem weight_le_one (r : K) : r - ⌊r⌋₊ ≤ 1 :=
  sub_le_iff_le_add'.mpr (Nat.lt_floor_add_one r).le

theorem value_at_mono_list {s t : List K} (h : List.Forall₂ (· ≤ ·) s t) {r : K} (hr : 0 ≤ r) :
    valueAt s r ≤ valueAt t r :=
  lerp_mono (entry_mono_list h _) (entry_mono_list h _) (weight_nonneg hr) (weight_le_one r)

theorem value_at_mono {s : List K} (hs : s.Pairwise (· ≤ ·)) {r r' : K} (hr : 0 ≤ r)
    (h : r ≤ r') : valueAt s r ≤ valueAt s r' := by
  have hsteps : ∀ i, entry s i ≤ entry s (i + 1) := fun i => entry_mono hs (Nat.le_succ i)
  rcases (Nat.floor_mono h).eq_or_lt with heq | hlt
  · rw [valueAt, valueAt, heq]
    exact lerp_mono_weight (hsteps _) (sub_le_sub_right h _)
  · calc
      valueAt s r ≤ entry s (⌊r⌋₊ + 1) := lerp_le (hsteps _) (weight_le_one r)
      _ ≤ entry s ⌊r'⌋₊ := entry_mono hs hlt
      _ ≤ valueAt s r' := le_lerp (hsteps _) (weight_nonneg (hr.trans h))

/-! ### Percentiles -/

def percentile (l : List K) (p : K) : K := valueAt (sorted l) (percentileRank l.length p)

theorem percentile_mono_list {l m : List K} (h : List.Forall₂ (· ≤ ·) l m) {p : K} (hp : 0 ≤ p) :
    percentile l p ≤ percentile m p := by
  rw [percentile, percentile, h.length_eq]
  exact value_at_mono_list (sorted_mono h) (percentile_rank_nonneg _ hp)

theorem percentile_mono (l : List K) {p q : K} (hp : 0 ≤ p) (h : p ≤ q) :
    percentile l p ≤ percentile l q :=
  value_at_mono (sorted_pairwise l) (percentile_rank_nonneg _ hp) (percentile_rank_mono _ h)

theorem percentile_nonneg {l : List K} {p : K} (hp : 0 ≤ p) (h : ∀ a ∈ l, 0 ≤ a) :
    0 ≤ percentile l p := by
  have hentry : ∀ i, 0 ≤ entry (sorted l) i := by
    intro i
    by_cases hnil : sorted l = []
    · rw [entry, hnil, List.getD_nil]
    · exact h _ ((sorted_perm l).mem_iff.mp (entry_mem hnil i))
  have hnext := entry_mono (sorted_pairwise l) (Nat.le_succ ⌊percentileRank l.length p⌋₊)
  exact (hentry _).trans (le_lerp hnext (weight_nonneg (percentile_rank_nonneg _ hp)))

theorem percentile_hundred (l : List K) :
    percentile l 100 = entry (sorted l) (l.length - 1) := by
  rw [percentile, percentileRank, div_self (by norm_num), mul_one, value_at_nat]

theorem le_percentile_hundred {l : List K} {a : K} (h : a ∈ l) : a ≤ percentile l 100 := by
  obtain ⟨i, hi, rfl⟩ := List.mem_iff_getElem.mp ((sorted_perm l).mem_iff.mpr h)
  have hentry : (sorted l)[i] = entry (sorted l) i := by
    rw [entry_of_lt hi, List.getD_eq_getElem _ _ hi]
  rw [percentile_hundred, hentry]
  refine entry_mono (sorted_pairwise l) ?_
  rw [length_sorted] at hi
  omega

theorem percentile_hundred_mem {l : List K} (h : l ≠ []) : percentile l 100 ∈ l := by
  rw [percentile_hundred]
  refine (sorted_perm l).mem_iff.mp (entry_mem (fun hnil => h ?_) _)
  exact List.length_eq_zero_iff.mp (by rw [← length_sorted, hnil, List.length_nil])

theorem max_eq_percentile_hundred {l : List K} (h : l ≠ []) : l.max? = some (percentile l 100) :=
  List.max?_eq_some_iff.mpr ⟨percentile_hundred_mem h, fun _ ha => le_percentile_hundred ha⟩

end

/-! ### The largest entries -/

section
variable {K : Type*} [LinearOrder K]

def largest (k : ℕ) (l : List K) : List K := (sorted l).drop (l.length - k)

theorem length_largest {k : ℕ} {l : List K} (h : k ≤ l.length) : (largest k l).length = k := by
  rw [largest, List.length_drop, length_sorted]
  omega

theorem largest_mono {l m : List K} (h : List.Forall₂ (· ≤ ·) l m) (k : ℕ) :
    List.Forall₂ (· ≤ ·) (largest k l) (largest k m) := by
  rw [largest, largest, h.length_eq]
  exact List.forall₂_drop _ (sorted_mono h)

/-- Where a list falls into a lower and an upper part, the upper part has the largest entries. -/
theorem largest_of_split {low high : List K} (h : ∀ a ∈ low, ∀ b ∈ high, a ≤ b) {l : List K}
    (hl : (low ++ high).Perm l) : high.Perm (largest high.length l) := by
  have hsorted : sorted l = sorted low ++ sorted high := by
    refine List.Perm.eq_of_pairwise (fun a b _ _ => le_antisymm) (sorted_pairwise l) ?_ ?_
    · refine List.pairwise_append.mpr ⟨sorted_pairwise low, sorted_pairwise high, ?_⟩
      intro a ha b hb
      exact h a ((sorted_perm low).mem_iff.mp ha) b ((sorted_perm high).mem_iff.mp hb)
    · exact (sorted_perm l).trans (hl.symm.trans
        ((sorted_perm low).append (sorted_perm high)).symm)
  have hlength : l.length - high.length = (sorted low).length := by
    rw [← hl.length_eq, List.length_append, length_sorted, Nat.add_sub_cancel]
  rw [largest, hsorted, hlength, List.drop_left]
  exact (sorted_perm high).symm

end

end OrderStatistics
