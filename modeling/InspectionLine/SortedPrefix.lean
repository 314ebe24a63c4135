import Mathlib.Data.List.Sort
import Mathlib.Order.Basic

/-! # The front of a list and the front of its sorted copy

A list is read in the order of a key. Its first elements come out unmoved if and only if they
are in that order and none of the others belongs before one of them. -/
namespace SortedPrefix

variable {α β : Type*} [LinearOrder β] (key : α → β)

def sortOn (l : List α) : List α := l.insertionSort fun a b => key a ≤ key b

/-- The first `n` elements are in order, and none of the others belongs before one of them. -/
def FrontInOrder (n : ℕ) (l : List α) : Prop :=
  (l.take n).Pairwise (fun a b => key a ≤ key b) ∧
    ∀ a ∈ l.take n, ∀ b ∈ l.drop n, key a ≤ key b

instance (n : ℕ) (l : List α) : Decidable (FrontInOrder key n l) :=
  inferInstanceAs (Decidable (_ ∧ _))

theorem sort_on_perm (l : List α) : (sortOn key l).Perm l := List.perm_insertionSort _ l

theorem sort_on_pairwise (l : List α) : (sortOn key l).Pairwise fun a b => key a ≤ key b := by
  have htrans : IsTrans α fun a b => key a ≤ key b := ⟨fun _ _ _ h k => le_trans h k⟩
  have htotal : Std.Total fun a b : α => key a ≤ key b := ⟨fun a b => le_total (key a) (key b)⟩
  exact List.pairwise_insertionSort _ l

variable {key}

theorem perm_drop_of_take_eq {l m : List α} {n : ℕ} (h : l.Perm m) (ht : l.take n = m.take n) :
    (l.drop n).Perm (m.drop n) := by
  rw [← List.take_append_drop n l, ← List.take_append_drop n m, ht] at h
  exact (List.perm_append_left_iff _).mp h

/-- Lists with the same elements, both in order, are the same where the key tells them apart. -/
theorem eq_of_perm_pairwise {l m : List α} (hkeys : (l.map key).Nodup) (h : l.Perm m)
    (hl : l.Pairwise fun a b => key a ≤ key b) (hm : m.Pairwise fun a b => key a ≤ key b) :
    l = m := by
  refine List.Perm.eq_of_pairwise ?_ hl hm h
  intro a b ha hb hab hba
  exact List.inj_on_of_nodup_map hkeys ha (h.mem_iff.mpr hb) (le_antisymm hab hba)

theorem take_append_take (n : ℕ) (l m : List α) (h : l.drop n = [] → m = []) :
    (l.take n ++ m).take n = l.take n := by
  by_cases hn : n ≤ l.length
  · rw [List.take_append_of_le_length (by rw [List.length_take, Nat.min_eq_left hn]),
      List.take_take, Nat.min_self]
  · rw [h (List.drop_eq_nil_of_le (by omega)), List.append_nil, List.take_take, Nat.min_self]

theorem take_sort_on_iff {l : List α} (hkeys : (l.map key).Nodup) (n : ℕ) :
    (sortOn key l).take n = l.take n ↔ FrontInOrder key n l := by
  constructor
  · intro h
    have hsorted := sort_on_pairwise key l
    rw [← List.take_append_drop n (sortOn key l), List.pairwise_append] at hsorted
    refine ⟨h ▸ hsorted.1, fun a ha b hb => hsorted.2.2 a (h ▸ ha) b ?_⟩
    exact (perm_drop_of_take_eq (sort_on_perm key l) h).mem_iff.mpr hb
  · rintro ⟨hfront, hrest⟩
    have hperm : (l.take n ++ sortOn key (l.drop n)).Perm l := by
      have h := (sort_on_perm key (l.drop n)).append_left (l.take n)
      rwa [List.take_append_drop] at h
    have hsorted : (l.take n ++ sortOn key (l.drop n)).Pairwise fun a b => key a ≤ key b := by
      refine List.pairwise_append.mpr ⟨hfront, sort_on_pairwise key _, fun a ha b hb => ?_⟩
      exact hrest a ha b ((sort_on_perm key _).mem_iff.mp hb)
    have heq : sortOn key l = l.take n ++ sortOn key (l.drop n) :=
      eq_of_perm_pairwise (((sort_on_perm key l).map key).nodup_iff.mpr hkeys)
        ((sort_on_perm key l).trans hperm.symm) (sort_on_pairwise key l) hsorted
    rw [heq]
    refine take_append_take n l _ fun hnil => ?_
    rw [hnil]
    rfl

end SortedPrefix
