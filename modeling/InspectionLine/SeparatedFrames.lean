import Mathlib.Data.List.Basic

/-! # Frames with separators

An entry is a key and a value, each with a separator behind it. The separator does not occur in
keys, but it can occur in values. -/
namespace SeparatedFrames

variable {α : Type*} {sep : α}

def frame (sep : α) (entry : List α × List α) : List α :=
  entry.1 ++ sep :: (entry.2 ++ [sep])

def frames (sep : α) (entries : List (List α × List α)) : List α := entries.flatMap (frame sep)

theorem frames_cons (entry : List α × List α) (entries : List (List α × List α)) :
    frames sep (entry :: entries) = entry.1 ++ sep :: (entry.2 ++ sep :: frames sep entries) := by
  simp [frames, frame]

/-- A value that holds a separated key reads like two entries. -/
theorem frames_merge (entry next : List α × List α) (entries : List (List α × List α)) :
    frames sep ((entry.1, entry.2 ++ sep :: (next.1 ++ sep :: next.2)) :: entries) =
      frames sep (entry :: next :: entries) := by
  simp [frames, frame]

theorem frames_end (entries : List (List α × List α)) :
    ∃ body, sep :: frames sep entries = body ++ [sep] := by
  induction entries with
  | nil => exact ⟨[], rfl⟩
  | cons entry entries ih =>
    obtain ⟨body, hbody⟩ := ih
    refine ⟨sep :: (entry.1 ++ sep :: (entry.2 ++ body)), ?_⟩
    rw [frames_cons, hbody]
    simp

/-- What has no separator in it is told from what stands behind it. -/
theorem separated_injective {key other rest others : List α} (hkey : sep ∉ key)
    (hother : sep ∉ other) (h : key ++ sep :: rest = other ++ sep :: others) :
    key = other ∧ rest = others := by
  rcases List.append_eq_append_iff.mp h with ⟨middle, hlonger, hrest⟩ | ⟨middle, hlonger, hrest⟩
  · cases middle with
    | nil =>
      rw [List.append_nil] at hlonger
      exact ⟨hlonger.symm, (List.cons.inj hrest).2⟩
    | cons x middle =>
      obtain rfl := (List.cons.inj hrest).1
      exact absurd (hlonger ▸ List.mem_append_right _ List.mem_cons_self) hother
  · cases middle with
    | nil =>
      rw [List.append_nil] at hlonger
      exact ⟨hlonger, (List.cons.inj hrest).2.symm⟩
    | cons x middle =>
      obtain rfl := (List.cons.inj hrest).1
      exact absurd (hlonger ▸ List.mem_append_right _ List.mem_cons_self) hkey

/-- The frames of one entry come from that entry, or from a split of its value at a key. -/
theorem frames_single {entry : List α × List α} {first : List α × List α}
    {entries : List (List α × List α)} (hentry : sep ∉ entry.1) (hfirst : sep ∉ first.1)
    (h : frames sep (first :: entries) = frames sep [entry]) :
    first.1 = entry.1 ∧ (entries = [] ∧ first.2 = entry.2 ∨ ∃ next rest tail,
      entries = next :: rest ∧ entry.2 = first.2 ++ sep :: (next.1 ++ sep :: tail)) := by
  rw [frames_cons, frames_cons] at h
  obtain ⟨hkey, hvalue⟩ := separated_injective hfirst hentry h
  have hnil : frames sep ([] : List (List α × List α)) = [] := rfl
  rw [hnil] at hvalue
  refine ⟨hkey, ?_⟩
  cases entries with
  | nil => exact .inl ⟨rfl, List.append_cancel_right hvalue⟩
  | cons next rest =>
    obtain ⟨body, hbody⟩ := @frames_end _ sep rest
    refine .inr ⟨next, rest, next.2 ++ body, rfl, ?_⟩
    refine (@List.append_cancel_right _ _ [sep] _ ?_).symm
    rw [← hvalue, frames_cons, hbody]
    simp

/-- Where no value has a separator in it either, the frames tell the entries. -/
theorem frames_injective {entries others : List (List α × List α)}
    (hentries : ∀ e ∈ entries, sep ∉ e.1 ∧ sep ∉ e.2)
    (hothers : ∀ e ∈ others, sep ∉ e.1 ∧ sep ∉ e.2)
    (h : frames sep entries = frames sep others) : entries = others := by
  induction entries generalizing others with
  | nil =>
    cases others with
    | nil => rfl
    | cons other others => simp [frames, frame] at h
  | cons entry entries ih =>
    cases others with
    | nil => simp [frames, frame] at h
    | cons other others =>
      rw [List.forall_mem_cons] at hentries hothers
      rw [frames_cons, frames_cons] at h
      obtain ⟨hkey, hvalue⟩ := separated_injective hentries.1.1 hothers.1.1 h
      obtain ⟨hvalue, hrest⟩ := separated_injective hentries.1.2 hothers.1.2 hvalue
      rw [Prod.ext hkey hvalue, ih hentries.2 hothers.2 hrest]

end SeparatedFrames
