import Mathlib.Data.List.Induction
import Mathlib.Data.List.Nodup
import Mathlib.Order.Basic

/-! # Pages of a sorted table that grows

A table is read in a fixed order, page after page, by the number of rows to skip. New rows go
anywhere into that order; rows are never removed. What was there before then only moves
towards the end, so it can be read twice but not be passed over. -/
namespace OffsetPaging

variable {α β : Type*}

/-- Puts an element in front of the first one it goes before. -/
def insertBy (before : α → α → Bool) (a : α) : List α → List α
  | [] => [a]
  | b :: l => if before a b then a :: b :: l else b :: insertBy before a l

variable (before : α → α → Bool)

/-- The elements in their order, those that came later placed among those that were there. -/
def orderBy (l : List α) : List α := l.foldl (fun sorted a => insertBy before a sorted) []

theorem insert_by_perm (a : α) (l : List α) : (insertBy before a l).Perm (a :: l) := by
  induction l with
  | nil => exact .refl _
  | cons b l ih =>
    unfold insertBy
    split
    · exact .refl _
    · exact (ih.cons b).trans (.swap a b l)

theorem sublist_insert_by (a : α) (l : List α) : l.Sublist (insertBy before a l) := by
  induction l with
  | nil => exact List.nil_sublist _
  | cons b l ih =>
    unfold insertBy
    split
    · exact List.sublist_cons_self _ _
    · exact ih.cons_cons b

theorem order_by_concat (l : List α) (a : α) :
    orderBy before (l ++ [a]) = insertBy before a (orderBy before l) := by
  simp [orderBy]

theorem order_by_perm (l : List α) : (orderBy before l).Perm l := by
  induction l using List.reverseRecOn with
  | nil => exact .refl _
  | append_singleton l a ih =>
    rw [order_by_concat]
    exact (insert_by_perm before a _).trans
      ((ih.cons a).trans (List.perm_append_singleton a l).symm)

theorem order_by_sublist (l m : List α) :
    (orderBy before l).Sublist (orderBy before (l ++ m)) := by
  induction m using List.reverseRecOn with
  | nil => rw [List.append_nil]
  | append_singleton m a ih =>
    rw [← List.append_assoc, order_by_concat]
    exact ih.trans (sublist_insert_by before a _)

/-- What is among the first elements of the grown list was among them before. -/
theorem mem_take_of_sublist {l m : List α} (h : l.Sublist m) (hm : m.Nodup) {a : α} (ha : a ∈ l)
    {n : ℕ} (hn : a ∈ m.take n) : a ∈ l.take n := by
  induction h generalizing n with
  | slnil => cases ha
  | cons b h ih =>
    obtain ⟨hb, hrest⟩ := List.nodup_cons.mp hm
    cases n with
    | zero => cases hn
    | succ n =>
      rcases List.mem_cons.mp hn with rfl | hn
      · exact absurd (h.subset ha) hb
      · exact List.take_subset_take_left _ (Nat.le_succ n) (ih hrest ha hn)
  | cons_cons b h ih =>
    obtain ⟨hb, hrest⟩ := List.nodup_cons.mp hm
    cases n with
    | zero => cases hn
    | succ n =>
      rcases List.mem_cons.mp hn with rfl | hn
      · exact List.mem_cons_self
      · rcases List.mem_cons.mp ha with rfl | ha
        · exact List.mem_cons_self
        · exact List.mem_cons_of_mem _ (ih hrest ha hn)

theorem mem_take_add (l : List α) {j k : ℕ} {a : α} (h : a ∈ l.take (j + k)) :
    a ∈ l.take j ∨ a ∈ (l.drop j).take k := by
  rw [List.take_add] at h
  exact List.mem_append.mp h

end OffsetPaging
