import InspectionLine.OffsetPaging
import Mathlib.Order.Lattice

/-! # Row numbers within groups and outer joins

A query numbers the rows of each group in an order, and joins to every row of another table the
rows of rank one that match it. A row has then at most one match, so the join neither drops nor
multiplies rows. -/
namespace RankedRows

open OffsetPaging

variable {α β κ : Type*}

/-- The order of a key; what is equal under it comes in any order (`ties`). -/
def keyBefore [LinearOrder κ] (key : α → κ) (ties : α → α → Bool) (a b : α) : Bool :=
  key a < key b || (key a = key b && ties a b)

theorem insert_by_pairwise [LinearOrder κ] (key : α → κ) (ties : α → α → Bool) (a : α) {l : List α}
    (h : l.Pairwise fun a b => key a ≤ key b) :
    (insertBy (keyBefore key ties) a l).Pairwise fun a b => key a ≤ key b := by
  induction l with
  | nil => exact List.pairwise_singleton _ _
  | cons b l ih =>
    obtain ⟨hb, hl⟩ := List.pairwise_cons.mp h
    unfold insertBy
    split
    · next hab =>
      have hle : key a ≤ key b := by
        simp only [keyBefore, Bool.or_eq_true, decide_eq_true_eq, Bool.and_eq_true] at hab
        exact hab.elim le_of_lt fun h => le_of_eq h.1
      refine List.pairwise_cons.mpr ⟨?_, h⟩
      intro c hc
      rcases List.mem_cons.mp hc with rfl | hc
      · exact hle
      · exact hle.trans (hb c hc)
    · next hab =>
      have hle : key b ≤ key a := by
        simp only [keyBefore, Bool.or_eq_true, decide_eq_true_eq, not_or] at hab
        exact not_lt.mp hab.1
      refine List.pairwise_cons.mpr ⟨?_, ih hl⟩
      intro c hc
      rcases List.mem_cons.mp ((insert_by_perm _ a l).mem_iff.mp hc) with rfl | hc
      · exact hle
      · exact hb c hc

theorem order_by_pairwise [LinearOrder κ] (key : α → κ) (ties : α → α → Bool) (l : List α) :
    (orderBy (keyBefore key ties) l).Pairwise fun a b => key a ≤ key b := by
  induction l using List.reverseRecOn with
  | nil => exact List.Pairwise.nil
  | append_singleton l a ih =>
    rw [order_by_concat]
    exact insert_by_pairwise key ties a ih

section
variable [DecidableEq κ] (group : α → κ)

/-- Numbers the rows that come after those already `seen`. -/
def numberAfter (seen : List α) : List α → List (α × ℕ)
  | [] => []
  | a :: rest =>
    (a, seen.countP (fun b => group b = group a) + 1) :: numberAfter (seen ++ [a]) rest

/-- Every row with its number in its group, in the order of the window. -/
def rowNumbers (before : α → α → Bool) (rows : List α) : List (α × ℕ) :=
  numberAfter group [] (orderBy before rows)

variable {group}

theorem filter_first_number_after (k : κ) (seen l : List α) :
    (numberAfter group seen l).filter (fun r => decide (group r.1 = k) && decide (r.2 = 1)) =
      if ∃ b ∈ seen, group b = k then []
      else (l.find? fun a => group a = k).toList.map (·, 1) := by
  induction l generalizing seen with
  | nil => exact (ite_self _).symm
  | cons a rest ih =>
    rw [numberAfter, List.filter_cons, ih]
    by_cases hk : group a = k
    · have hseen : ∃ b ∈ seen ++ [a], group b = k :=
        ⟨a, List.mem_append_right _ List.mem_cons_self, hk⟩
      rw [if_pos hseen]
      by_cases hold : ∃ b ∈ seen, group b = k
      · have hcount : 0 < seen.countP (fun b => group b = group a) :=
          List.countP_pos_iff.mpr (by simpa [hk] using hold)
        have hlater : ¬ seen.countP (fun b => group b = group a) + 1 = 1 := by omega
        rw [if_neg (by simp only [hlater, decide_false, Bool.and_false, Bool.false_eq_true,
          not_false_eq_true]), if_pos hold]
      · have hcount : seen.countP (fun b => group b = group a) = 0 :=
          List.countP_eq_zero.mpr (by simpa [hk] using hold)
        rw [hcount, if_pos (by simp only [hk, decide_true, Bool.and_self]), if_neg hold,
          List.find?_cons_of_pos (by simp only [hk, decide_true])]
        rfl
    · have hsame : (∃ b ∈ seen ++ [a], group b = k) ↔ ∃ b ∈ seen, group b = k := by
        simp [or_and_right, exists_or, hk]
      rw [if_neg (by simp [hk]), List.find?_cons_of_neg (by simp [hk])]
      simp only [hsame]

theorem filter_first (k : κ) (before : α → α → Bool) (rows : List α) :
    (rowNumbers group before rows).filter (fun r => decide (group r.1 = k) && decide (r.2 = 1)) =
      ((orderBy before rows).find? fun a => group a = k).toList.map (·, 1) := by
  rw [rowNumbers, filter_first_number_after, if_neg]
  exact fun ⟨b, hb, _⟩ => absurd hb List.not_mem_nil

end

/-! ### The outer join -/

/-- Every row with each of its matches, or with none where there is no match. -/
def leftJoin (on : α → β → Bool) (rows : List α) (others : List β) : List (α × Option β) :=
  rows.flatMap fun a =>
    match others.filter (on a) with
    | [] => [(a, none)]
    | b :: matched => (b :: matched).map fun b => (a, some b)

/-- Where a row has at most one match, the join keeps every row once. -/
theorem left_join_eq_map {on : α → β → Bool} {others : List β} {pick : α → Option β}
    (h : ∀ a, others.filter (on a) = (pick a).toList) (rows : List α) :
    leftJoin on rows others = rows.map fun a => (a, pick a) := by
  unfold leftJoin
  induction rows with
  | nil => rfl
  | cons a rows ih =>
    rw [List.flatMap_cons, ih, List.map_cons, h a]
    cases pick a with
    | none => rfl
    | some b => rfl

theorem find_least [LinearOrder κ] {key : α → κ} {l : List α} {p : α → Bool} {a : α}
    (hl : l.Pairwise fun a b => key a ≤ key b) (h : l.find? p = some a) {b : α} (hb : b ∈ l)
    (hp : p b = true) : key a ≤ key b := by
  induction l with
  | nil => cases hb
  | cons c l ih =>
    obtain ⟨hc, hrest⟩ := List.pairwise_cons.mp hl
    by_cases hpc : p c = true
    · rw [List.find?_cons_of_pos hpc] at h
      cases h
      rcases List.mem_cons.mp hb with rfl | hb
      · exact le_refl _
      · exact hc b hb
    · rw [List.find?_cons_of_neg hpc] at h
      rcases List.mem_cons.mp hb with rfl | hb
      · exact absurd hp hpc
      · exact ih hrest h hb

end RankedRows
