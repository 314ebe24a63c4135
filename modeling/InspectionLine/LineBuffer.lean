import Mathlib.Data.List.Basic

/-! # Lines through a bounded buffer

A reader collects the characters of a line in a buffer, and hands the buffer over at the end of the
line. A character for which there is no room empties the buffer, so of a long line only what stands
behind the last such character is handed over. -/
namespace LineBuffer

variable {α : Type*} [DecidableEq α]

structure Format (α : Type*) where
  newline : α
  ignored : α
  capacity : ℕ
  distinct : newline ≠ ignored
  positive : 0 < capacity

variable (f : Format α)

def push (buffer : List α) (x : α) : List α × Option (List α) :=
  if x = f.ignored then (buffer, none)
  else if x = f.newline then ([], if buffer = [] then none else some buffer)
  else if buffer.length < f.capacity - 1 then (buffer ++ [x], none)
  else ([], none)

/-- The lines that are handed over while some input comes in. -/
def lines : List α → List α → List (List α)
  | _, [] => []
  | buffer, x :: input => (push f buffer x).2.toList ++ lines (push f buffer x).1 input

/-- The lines of the input that have come to their end. -/
def terminated (input : List α) : List (List α) :=
  ((input.filter (· ≠ f.ignored)).splitOn f.newline).dropLast

def leftover (line : List α) : List α := line.drop (line.length - line.length % f.capacity)

def handedOver (line : List α) : Option (List α) :=
  if leftover f line = [] then none else some (leftover f line)

omit [DecidableEq α] in
theorem leftover_length (line : List α) : (leftover f line).length = line.length % f.capacity := by
  have hle := Nat.mod_le line.length f.capacity
  rw [leftover, List.length_drop]
  omega

omit [DecidableEq α] in
theorem leftover_of_short {line : List α} (h : line.length < f.capacity) :
    leftover f line = line := by
  rw [leftover, Nat.mod_eq_of_lt h, Nat.sub_self, List.drop_zero]

omit [DecidableEq α] in
theorem leftover_concat (line : List α) (x : α) : leftover f (line ++ [x]) =
    if (leftover f line).length < f.capacity - 1 then leftover f line ++ [x] else [] := by
  have hlt := Nat.mod_lt line.length f.positive
  have hle := Nat.mod_le line.length f.capacity
  have hmod : (line.length + 1) % f.capacity = (line.length % f.capacity + 1) % f.capacity :=
    (Nat.mod_add_mod line.length f.capacity 1).symm
  rw [leftover_length]
  split
  · rename_i hroom
    have hnext : (line.length + 1) % f.capacity = line.length % f.capacity + 1 := by
      rw [hmod]
      exact Nat.mod_eq_of_lt (by omega)
    rw [leftover, leftover, List.length_append, List.length_singleton, hnext,
      Nat.add_sub_add_right, List.drop_append_of_le_length (Nat.sub_le _ _)]
  · rename_i hfull
    have hnext : (line.length + 1) % f.capacity = 0 := by
      rw [hmod, show line.length % f.capacity + 1 = f.capacity by omega, Nat.mod_self]
    rw [leftover, List.length_append, List.length_singleton, hnext, Nat.sub_zero]
    exact List.drop_eq_nil_of_le (by simp)

theorem filter_line {line : List α} (h : f.ignored ∉ line) :
    line.filter (· ≠ f.ignored) = line :=
  List.filter_eq_self.mpr fun _ hx => decide_eq_true fun heq => h (heq ▸ hx)

theorem terminated_newline {line : List α} (h : f.newline ∉ line) (hplain : f.ignored ∉ line)
    (input : List α) :
    terminated f (line ++ f.newline :: input) = line :: terminated f input := by
  have hkept : decide (f.newline ≠ f.ignored) = true := decide_eq_true f.distinct
  rw [terminated, List.filter_append, filter_line f hplain, List.filter_cons, if_pos hkept,
    List.splitOn_append_cons_self_of_not_mem h,
    List.dropLast_cons_of_ne_nil (List.splitOn_ne_nil _ _), terminated]

theorem terminated_ignored (line input : List α) :
    terminated f (line ++ f.ignored :: input) = terminated f (line ++ input) := by
  have hdropped : ¬ decide (f.ignored ≠ f.ignored) = true := by simp
  rw [terminated, terminated, List.filter_append, List.filter_cons, if_neg hdropped,
    List.filter_append]

theorem terminated_open {line : List α} (h : f.newline ∉ line) : terminated f line = [] := by
  rw [terminated, List.splitOn_eq_singleton fun hmem => h (List.mem_of_mem_filter hmem)]
  rfl

theorem lines_eq (input : List α) :
    lines f [] input = (terminated f input).filterMap (handedOver f) := by
  have hbuffer : ∀ line, f.newline ∉ line → f.ignored ∉ line →
      lines f (leftover f line) input =
        (terminated f (line ++ input)).filterMap (handedOver f) := by
    induction input with
    | nil =>
      intro line hopen _
      rw [List.append_nil, terminated_open f hopen]
      rfl
    | cons x input ih =>
      intro line hopen hplain
      by_cases hignored : x = f.ignored
      · subst hignored
        rw [terminated_ignored, ← ih line hopen hplain, lines, push, if_pos rfl]
        rfl
      by_cases hnewline : x = f.newline
      · subst hnewline
        have hnext : lines f [] input = (terminated f input).filterMap (handedOver f) :=
          ih [] List.not_mem_nil List.not_mem_nil
        rw [terminated_newline f hopen hplain, List.filterMap_cons, lines, push,
          if_neg hignored, if_pos rfl, hnext]
        unfold handedOver
        split <;> rfl
      · have hnext := ih (line ++ [x]) (by simp [hopen, Ne.symm hnewline])
          (by simp [hplain, Ne.symm hignored])
        rw [List.append_assoc, List.singleton_append, leftover_concat] at hnext
        rw [lines, push, if_neg hignored, if_neg hnewline]
        split at hnext
        · rename_i hroom
          rw [if_pos hroom]
          exact hnext
        · rename_i hfull
          rw [if_neg hfull]
          exact hnext
  exact hbuffer [] List.not_mem_nil List.not_mem_nil

/-- The line has room in the buffer, and something in it. -/
def Fits (line : List α) : Prop := 1 ≤ line.length ∧ line.length < f.capacity

instance (line : List α) : Decidable (Fits f line) := by
  unfold Fits
  infer_instance

omit [DecidableEq α] in
theorem handed_over_of_fits {line : List α} (h : Fits f line) : handedOver f line = some line := by
  rw [handedOver, leftover_of_short f h.2, if_neg (List.length_pos_iff.mp h.1)]

omit [DecidableEq α] in
theorem handed_over_eq_none {line : List α} :
    handedOver f line = none ↔ f.capacity ∣ line.length := by
  rw [handedOver, Nat.dvd_iff_mod_eq_zero, ← leftover_length, List.length_eq_zero_iff]
  split
  · rename_i h
    exact iff_of_true rfl h
  · rename_i h
    exact iff_of_false (Option.some_ne_none _) h

omit [DecidableEq α] in
theorem filter_fits_cons {line : List α} (h : Fits f line) (rest : List (List α)) :
    (line :: rest).filter (Fits f ·) = line :: rest.filter (Fits f ·) :=
  List.filter_cons_of_pos (p := fun line => decide (Fits f line)) (decide_eq_true h)

omit [DecidableEq α] in
theorem filter_fits_skip {line : List α} (h : ¬ Fits f line) (rest : List (List α)) :
    (line :: rest).filter (Fits f ·) = rest.filter (Fits f ·) :=
  List.filter_cons_of_neg (p := fun line => decide (Fits f line)) (by simpa using h)

/-- Nothing is left of the lines for which there is no room. -/
def LongLost (terminated : List (List α)) : Prop :=
  ∀ line ∈ terminated, f.capacity ≤ line.length → f.capacity ∣ line.length

omit [DecidableEq α] in
theorem filter_map_of_lost {terminated : List (List α)} (h : LongLost f terminated) :
    terminated.filterMap (handedOver f) = terminated.filter (Fits f ·) := by
  induction terminated with
  | nil => rfl
  | cons line rest ih =>
    have hrest := ih fun other hother => h other (List.mem_cons_of_mem _ hother)
    by_cases hfits : Fits f line
    · rw [List.filterMap_cons_some (handed_over_of_fits f hfits), hrest,
        filter_fits_cons f hfits]
    · have hnone : handedOver f line = none := by
        rw [handed_over_eq_none]
        by_cases hshort : line.length < f.capacity
        · have hempty : line.length = 0 := by
            simp only [Fits, not_and] at hfits
            by_contra hsome
            exact hfits (by omega) hshort
          rw [hempty]
          exact Nat.dvd_zero _
        · exact h line List.mem_cons_self (by omega)
      rw [List.filterMap_cons_none hnone, hrest, filter_fits_skip f hfits]

omit [DecidableEq α] in
/-- Whatever is left of a long line is handed over besides the lines that fit. -/
theorem lost_of_length {terminated : List (List α)} :
    (terminated.filter (Fits f ·)).length ≤ (terminated.filterMap (handedOver f)).length ∧
      ((terminated.filterMap (handedOver f)).length = (terminated.filter (Fits f ·)).length →
        LongLost f terminated) := by
  induction terminated with
  | nil => exact ⟨Nat.le_refl _, fun _ line hline => absurd hline List.not_mem_nil⟩
  | cons line rest ih =>
    obtain ⟨hle, hlost⟩ := ih
    by_cases hfits : Fits f line
    · rw [List.filterMap_cons_some (handed_over_of_fits f hfits),
        filter_fits_cons f hfits, List.length_cons, List.length_cons]
      refine ⟨by omega, fun heq other hother hlong => ?_⟩
      rcases List.mem_cons.mp hother with rfl | hother
      · exact absurd hfits.2 (by omega)
      · exact hlost (by omega) other hother hlong
    rw [filter_fits_skip f hfits]
    cases hhanded : handedOver f line with
    | none =>
      rw [List.filterMap_cons_none hhanded]
      refine ⟨hle, fun heq other hother hlong => ?_⟩
      rcases List.mem_cons.mp hother with rfl | hother
      · exact (handed_over_eq_none f).mp hhanded
      · exact hlost heq other hother hlong
    | some left =>
      rw [List.filterMap_cons_some hhanded, List.length_cons]
      exact ⟨by omega, fun heq => absurd heq (by omega)⟩

end LineBuffer
