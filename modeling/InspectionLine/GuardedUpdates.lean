import Mathlib.Data.List.Perm.Basic
import Mathlib.Order.Basic

/-! # Guarded updates

A cell takes a value unless the one it holds is not below it. The order is a preorder, so two
values can be on one level and still differ, and two values can be incomparable. -/
namespace GuardedUpdates

variable {ρ α : Type*} [Preorder ρ] [DecidableLE ρ]

def update : Option ρ → ρ → Option ρ
  | none, x => some x
  | some r, x => if r ≤ x then some x else some r

def updateAll (cell : Option ρ) (xs : List ρ) : Option ρ := xs.foldl update cell

theorem update_all_append (cell : Option ρ) (xs ys : List ρ) :
    updateAll cell (xs ++ ys) = updateAll (updateAll cell xs) ys := List.foldl_append

/-- A cell that holds a value climbs through the values that come. -/
theorem update_all_some (r : ρ) (xs : List ρ) :
    ∃ s ∈ r :: xs, updateAll (some r) xs = some s ∧ r ≤ s := by
  induction xs generalizing r with
  | nil => exact ⟨r, List.mem_singleton_self r, rfl, le_refl r⟩
  | cons x xs ih =>
    by_cases hx : r ≤ x
    · obtain ⟨s, hs, hcell, hle⟩ := ih x
      refine ⟨s, List.mem_cons_of_mem r hs, ?_, hx.trans hle⟩
      rw [updateAll, List.foldl_cons, update, if_pos hx]
      exact hcell
    · obtain ⟨s, hs, hcell, hle⟩ := ih r
      refine ⟨s, ?_, ?_, hle⟩
      · rcases List.mem_cons.mp hs with rfl | hs
        · exact List.mem_cons_self
        · exact List.mem_cons_of_mem r (List.mem_cons_of_mem x hs)
      · rw [updateAll, List.foldl_cons, update, if_neg hx]
        exact hcell

theorem update_all_none {xs : List ρ} (hne : xs ≠ []) :
    ∃ s ∈ xs, updateAll none xs = some s := by
  obtain ⟨x, xs, rfl⟩ := List.exists_cons_of_ne_nil hne
  obtain ⟨s, hs, hcell, _⟩ := update_all_some x xs
  exact ⟨s, hs, hcell⟩

theorem update_all_kept {m : ρ} {xs : List ρ} (h : ∀ x ∈ xs, m ≤ x → x = m) :
    updateAll (some m) xs = some m := by
  induction xs with
  | nil => rfl
  | cons x xs ih =>
    have hrest := ih fun y hy => h y (List.mem_cons_of_mem x hy)
    rw [updateAll, List.foldl_cons, update]
    split
    · rename_i hx
      rw [h x List.mem_cons_self hx]
      exact hrest
    · exact hrest

/-- A value above all that came before is taken when it comes last. -/
theorem update_all_last {x : ρ} {xs : List ρ} (h : ∀ y ∈ xs, y ≤ x) :
    updateAll none (xs ++ [x]) = some x := by
  rw [update_all_append]
  by_cases hne : xs = []
  · subst hne
    rfl
  · obtain ⟨s, hs, hcell⟩ := update_all_none hne
    rw [hcell, updateAll, List.foldl_cons, List.foldl_nil, update, if_pos (h s hs)]

structure Summit (m : ρ) (xs : List ρ) : Prop where
  mem : m ∈ xs
  above : ∀ x ∈ xs, x ≤ m
  alone : ∀ x ∈ xs, m ≤ x → x = m

theorem Summit.wins {m : ρ} {xs : List ρ} (h : Summit m xs) : updateAll none xs = some m := by
  obtain ⟨before, later, rfl⟩ := List.append_of_mem h.mem
  have hfirst : updateAll none (before ++ [m]) = some m :=
    update_all_last fun y hy => h.above y (List.mem_append_left _ hy)
  rw [List.append_cons, update_all_append, hfirst]
  exact update_all_kept fun x hx => h.alone x
    (List.mem_append_right before (List.mem_cons_of_mem m hx))

/-- The order of the values does not matter if and only if there are none or one of them is
the summit. -/
theorem order_irrelevant_iff (f : α → ρ) (xs : List α) :
    (∀ ys : List α, ys.Perm xs → updateAll none (ys.map f) = updateAll none (xs.map f)) ↔
      xs = [] ∨ ∃ m, Summit m (xs.map f) := by
  constructor
  · intro h
    by_cases hne : xs = []
    · exact .inl hne
    right
    obtain ⟨m, hm, hcell⟩ := update_all_none (show xs.map f ≠ [] from
      fun hnil => hne (List.map_eq_nil_iff.mp hnil))
    rw [hcell] at h
    -- The value that is put first lies below the one that is left.
    have habove : ∀ x ∈ xs.map f, x ≤ m := by
      rintro _ hx
      obtain ⟨a, ha, rfl⟩ := List.mem_map.mp hx
      obtain ⟨before, later, rfl⟩ := List.append_of_mem ha
      have hfirst := h (a :: (before ++ later)) List.perm_middle.symm
      obtain ⟨s, _, hs, hle⟩ := update_all_some (f a) ((before ++ later).map f)
      rw [List.map_cons, updateAll, List.foldl_cons, update] at hfirst
      cases hs.symm.trans hfirst
      exact hle
    -- A value on the level of the summit is taken when it is put last.
    refine ⟨m, hm, habove, fun x hx hle => ?_⟩
    obtain ⟨a, ha, rfl⟩ := List.mem_map.mp hx
    obtain ⟨before, later, rfl⟩ := List.append_of_mem ha
    have hperm : (before ++ later ++ [a]).Perm (before ++ a :: later) := by
      rw [List.append_assoc]
      exact (List.perm_append_singleton a later).append_left before
    have hlast := h _ hperm
    rw [List.map_append, List.map_singleton, update_all_last] at hlast
    · exact Option.some.inj hlast
    · intro y hy
      refine (habove y ?_).trans hle
      rw [List.map_append, List.map_cons]
      rw [List.map_append] at hy
      rcases List.mem_append.mp hy with hy | hy
      · exact List.mem_append_left _ hy
      · exact List.mem_append_right _ (List.mem_cons_of_mem _ hy)
  · rintro (rfl | ⟨m, hm⟩) ys hys
    · rw [List.perm_nil.mp hys]
    · have hmem : ∀ x, x ∈ ys.map f ↔ x ∈ xs.map f := fun x => (hys.map f).mem_iff
      have hsame : Summit m (ys.map f) :=
        ⟨(hmem m).mpr hm.mem, fun x hx => hm.above x ((hmem x).mp hx),
          fun x hx => hm.alone x ((hmem x).mp hx)⟩
      rw [hsame.wins, hm.wins]

end GuardedUpdates
