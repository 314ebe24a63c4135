import Mathlib.Data.List.DropRight
import Mathlib.Data.List.Nodup

/-! # Passes that keep the newest

A list grows at its end. A pass looks at what is not among the last `k` and drops some of it.
Whatever the passes have dropped, the last `k` are the last `k` of all that ever came. -/
namespace NewestKept

variable {α : Type*}

/-- What is not among the last `k`, newest first. -/
def candidates (k : ℕ) (l : List α) : List α := l.reverse.drop k

/-- Of the candidates go those that `drops` says. -/
def pass (k : ℕ) (drops : α → Bool) (l : List α) : List α :=
  (l.take (l.length - k)).filter (!drops ·) ++ l.rtake k

variable {k : ℕ} {drops : α → Bool} {l m : List α} {a : α}

theorem candidates_eq (k : ℕ) (l : List α) :
    candidates k l = (l.take (l.length - k)).reverse := List.drop_reverse

theorem mem_candidates : a ∈ candidates k l ↔ a ∈ l.take (l.length - k) := by
  rw [candidates_eq, List.mem_reverse]

theorem take_append_rtake (k : ℕ) (l : List α) : l.take (l.length - k) ++ l.rtake k = l :=
  List.take_append_drop _ l

theorem mem_of_candidate (h : a ∈ candidates k l) : a ∈ l :=
  List.mem_of_mem_take (mem_candidates.mp h)

theorem candidate_or_newest (h : a ∈ l) : a ∈ candidates k l ∨ a ∈ l.rtake k := by
  rw [← take_append_rtake k l, List.mem_append] at h
  exact h.imp_left mem_candidates.mpr

theorem not_candidate_of_newest (hl : l.Nodup) (h : a ∈ l.rtake k) : a ∉ candidates k l := by
  intro hold
  rw [← take_append_rtake k l] at hl
  exact (List.nodup_append.mp hl).2.2 a (mem_candidates.mp hold) a h rfl

/-- What comes later makes nothing new again. -/
theorem candidate_append (h : a ∈ candidates k l) (m : List α) : a ∈ candidates k (l ++ m) := by
  rw [mem_candidates] at h ⊢
  have hle : l.length - k ≤ (l ++ m).length - k := by
    rw [List.length_append]
    omega
  have hfront : (l ++ m).take (l.length - k) = l.take (l.length - k) :=
    List.take_append_of_le_length (Nat.sub_le _ _)
  rw [← hfront] at h
  exact List.take_subset_take_left _ hle h

theorem length_rtake_le (k : ℕ) (l : List α) : (l.rtake k).length ≤ k := by
  rw [List.rtake, List.length_drop]
  omega

theorem rtake_of_length_le (h : l.length ≤ k) : l.rtake k = l := by
  rw [List.rtake, Nat.sub_eq_zero_of_le h, List.drop_zero]

theorem rtake_append_left (h : k ≤ m.length) : (l ++ m).rtake k = m.rtake k := by
  have hlength : (l ++ m).length - k = l.length + (m.length - k) := by
    rw [List.length_append]
    omega
  rw [List.rtake, hlength, List.drop_append, List.drop_eq_nil_of_le (by omega), List.nil_append,
    Nat.add_sub_cancel_left, List.rtake]

/-- Only the newest have a say in which will be the newest. -/
theorem rtake_append_rtake (k : ℕ) (l m : List α) :
    (l.rtake k ++ m).rtake k = (l ++ m).rtake k := by
  by_cases h : l.length ≤ k
  · rw [rtake_of_length_le h]
  · have hlength : k ≤ (l.rtake k ++ m).length := by
      rw [List.length_append, List.rtake, List.length_drop]
      omega
    conv_rhs => rw [← take_append_rtake k l, List.append_assoc]
    exact (rtake_append_left hlength).symm

theorem rtake_pass (k : ℕ) (drops : α → Bool) (l : List α) :
    (pass k drops l).rtake k = l.rtake k := by
  unfold pass
  by_cases h : l.length ≤ k
  · rw [Nat.sub_eq_zero_of_le h, List.take_zero, List.filter_nil, List.nil_append,
      rtake_of_length_le (length_rtake_le k l)]
  · have hlength : k ≤ (l.rtake k).length := by
      rw [List.rtake, List.length_drop]
      omega
    rw [rtake_append_left hlength, rtake_of_length_le (length_rtake_le k l)]

theorem pass_sublist (k : ℕ) (drops : α → Bool) (l : List α) : (pass k drops l).Sublist l := by
  have h := (List.filter_sublist (p := (!drops ·)) (l := l.take (l.length - k))).append_right
    (l.rtake k)
  rwa [take_append_rtake] at h

theorem dropped (h : a ∈ l) (hgone : a ∉ pass k drops l) :
    a ∈ candidates k l ∧ drops a = true := by
  unfold pass at hgone
  rw [List.mem_append, not_or, List.mem_filter] at hgone
  have hold := (candidate_or_newest h).resolve_right hgone.2
  refine ⟨hold, ?_⟩
  have hdrops := not_and.mp hgone.1 (mem_candidates.mp hold)
  simpa using hdrops

/-- Beyond the newest a pass leaves only what is not dropped. -/
theorem length_filter_pass_le (k : ℕ) (drops : α → Bool) (l : List α) :
    ((pass k drops l).filter drops).length ≤ k := by
  unfold pass
  have hnone : ((l.take (l.length - k)).filter (!drops ·)).filter drops = [] := by
    rw [List.filter_filter]
    exact List.filter_eq_nil_iff.mpr fun a _ => by simp
  rw [List.filter_append, hnone, List.nil_append]
  exact (List.length_filter_le _ _).trans (length_rtake_le k l)

/-- Striking the dropped candidates off the list is a pass over it. -/
theorem filter_eq_pass (hl : l.Nodup) {keeps : α → Bool}
    (hkeeps : ∀ a ∈ l, keeps a = false ↔ a ∈ candidates k l ∧ drops a = true) :
    l.filter keeps = pass k drops l := by
  have hold : ∀ a ∈ l.take (l.length - k), keeps a = !drops a := by
    intro a ha
    have hiff := hkeeps a (List.mem_of_mem_take ha)
    rw [and_iff_right (mem_candidates.mpr ha)] at hiff
    cases hdrops : drops a with
    | true => exact hiff.mpr hdrops
    | false => exact (Bool.not_eq_false _).mp fun h => Bool.false_ne_true (hdrops ▸ hiff.mp h)
  have hnew : ∀ a ∈ l.rtake k, keeps a = true := by
    intro a ha
    refine (Bool.not_eq_false _).mp fun h => ?_
    exact not_candidate_of_newest hl ha ((hkeeps a (List.mem_of_mem_drop ha)).mp h).1
  conv_lhs => rw [← take_append_rtake k l, List.filter_append]
  rw [List.filter_congr hold, List.filter_eq_self.mpr hnew]
  rfl

/-- A table that passes go over, beside all that ever came. -/
structure Kept (k : ℕ) (history table : List α) : Prop where
  sublist : table.Sublist history
  newest : table.rtake k = history.rtake k

namespace Kept

theorem append (h : Kept k l m) (new : List α) : Kept k (l ++ new) (m ++ new) where
  sublist := h.sublist.append_right new
  newest := by rw [← rtake_append_rtake k m, h.newest, rtake_append_rtake]

theorem pass (h : Kept k l m) (drops : α → Bool) : Kept k l (pass k drops m) where
  sublist := (pass_sublist k drops m).trans h.sublist
  newest := (rtake_pass k drops m).trans h.newest

theorem candidate (h : Kept k l m) (hl : l.Nodup) (ha : a ∈ candidates k m) :
    a ∈ candidates k l := by
  refine (candidate_or_newest (h.sublist.subset (mem_of_candidate ha))).resolve_right fun hnew => ?_
  rw [← h.newest] at hnew
  exact not_candidate_of_newest (hl.sublist h.sublist) hnew ha

end Kept

end NewestKept
