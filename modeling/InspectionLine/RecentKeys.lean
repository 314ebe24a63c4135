import InspectionLine.OrderedDict
import InspectionLine.SeparatedFrames
import Mathlib.Data.List.Perm.Subperm

/-! # Look-ups in a table of recent keys

A table keeps the keys that were used last. A key that is looked up is found, and used by that, or
it is stored, or it is dropped. -/
namespace OrderedDict

inductive LookUp where
  | found
  | stored
  | dropped
  deriving DecidableEq, Repr

variable {κ : Type*} [DecidableEq κ] {capacity : ℕ}

/-- The keys in use after a look-up. -/
def LookUp.log (log : List κ) (k : κ) : LookUp → List κ
  | .found | .stored => log ++ [k]
  | .dropped => log

inductive LookUps (capacity : ℕ) : List κ → List (κ × LookUp) → Prop where
  | nil (log : List κ) : LookUps capacity log []
  | cons (log : List κ) (k : κ) (outcome : LookUp)
      (h : outcome = .found ↔ k ∈ recent capacity log) (rest : List (κ × LookUp))
      (hrest : LookUps capacity (outcome.log log k) rest) :
      LookUps capacity log ((k, outcome) :: rest)

/-- Between two successive look-ups of a key there are fewer other keys than the table holds. -/
def FewBetween (capacity : ℕ) (k : κ) (keys : List κ) : Prop :=
  ∀ earlier between later, keys = earlier ++ k :: between ++ k :: later → k ∉ between →
    between.dedup.length < capacity

theorem mem_recent {log used : List κ} {k : κ} (hk : k ∉ used)
    (h : used.dedup.length < capacity) : k ∈ recent capacity (log ++ k :: used) := by
  have hsuffix : k :: used.dedup <:+ (log ++ k :: used).dedup := by
    rw [List.dedup_append, List.dedup_cons_of_notMem hk]
    exact List.suffix_union_right _ _
  obtain ⟨front, hfront⟩ := hsuffix
  rw [recent, ← hfront, List.rtake, List.drop_append_of_le_length]
  · exact List.mem_append_right _ List.mem_cons_self
  · simp only [List.length_append, List.length_cons]
    omega

/-- A key is retained exactly when fewer other keys than the table holds were used behind it. -/
theorem mem_recent_iff {log : List κ} {k : κ} : k ∈ recent capacity log ↔
    ∃ earlier used, log = earlier ++ k :: used ∧ k ∉ used ∧ used.dedup.length < capacity := by
  constructor
  · intro h
    have hlog : k ∈ log.reverse :=
      List.mem_reverse.mpr (List.mem_dedup.mp ((List.drop_sublist _ _).mem h))
    obtain ⟨later, rest, hsplit, hlater⟩ := List.eq_append_cons_of_mem hlog
    have heq : log = rest.reverse ++ k :: later.reverse := by
      rw [← List.reverse_reverse log, hsplit]
      simp
    have hused : k ∉ later.reverse := fun hk => hlater (List.mem_reverse.mp hk)
    refine ⟨rest.reverse, later.reverse, heq, hused, Nat.lt_of_not_le fun hle => ?_⟩
    have hsuffix : later.reverse.dedup <:+ log.dedup := by
      rw [heq, List.dedup_append, List.dedup_cons_of_notMem hused]
      exact (List.suffix_cons _ _).trans (List.suffix_union_right _ _)
    obtain ⟨front, hfront⟩ := hsuffix
    rw [recent, ← hfront, rtake_append_of_le hle] at h
    exact hused (List.mem_dedup.mp ((List.drop_sublist _ _).mem h))
  · rintro ⟨earlier, used, rfl, hk, hshort⟩
    exact mem_recent hk hshort

/-- The keys that are looked up and not dropped. -/
def usedKeys (ls : List (κ × LookUp)) : List κ := (ls.filter (·.2 ≠ .dropped)).map Prod.fst

omit [DecidableEq κ] in
theorem used_keys_cons (k : κ) {outcome : LookUp} (h : outcome ≠ .dropped)
    (ls : List (κ × LookUp)) : usedKeys ((k, outcome) :: ls) = k :: usedKeys ls := by
  simp [usedKeys, h]

omit [DecidableEq κ] in
theorem used_keys_dropped (k : κ) (ls : List (κ × LookUp)) :
    usedKeys ((k, .dropped) :: ls) = usedKeys ls := by
  simp [usedKeys]

omit [DecidableEq κ] in
theorem log_used {outcome : LookUp} (h : outcome ≠ .dropped) (log : List κ) (k : κ) :
    outcome.log log k = log ++ [k] := by
  cases outcome with
  | found | stored => rfl
  | dropped => exact absurd rfl h

theorem FewBetween.later {k j : κ} {keys : List κ} (h : FewBetween capacity k (j :: keys)) :
    FewBetween capacity k keys := fun earlier between later hsplit =>
  h (j :: earlier) between later (by rw [hsplit]; rfl)

theorem not_stored_again {k : κ} {ls : List (κ × LookUp)} : ∀ {log used : List κ},
    LookUps capacity (log ++ k :: used) ls → k ∉ used →
    (∀ between later, usedKeys ls = between ++ k :: later → k ∉ between →
      (used ++ between).dedup.length < capacity) →
    FewBetween capacity k (usedKeys ls) → (k, .stored) ∉ ls := by
  induction ls with
  | nil => exact fun _ _ _ _ => List.not_mem_nil
  | cons l ls ih =>
    obtain ⟨j, outcome⟩ := l
    intro log used hls hk hused hfew
    cases hls with
    | cons _ _ _ hfound _ hrest =>
    by_cases hdropped : outcome = .dropped
    · -- a key that is dropped leaves the table and the used keys as they are
      subst hdropped
      rw [used_keys_dropped] at hused hfew
      have hnone := ih hrest hk hused hfew
      exact List.not_mem_cons_of_ne_of_not_mem (by simp) hnone
    · rw [used_keys_cons j hdropped] at hused hfew
      rw [log_used hdropped] at hrest
      rw [List.mem_cons, not_or]
      by_cases hj : j = k
      · subst hj
        have hshort := hused [] _ rfl List.not_mem_nil
        rw [List.append_nil] at hshort
        obtain rfl := hfound.mpr (mem_recent hk hshort)
        refine ⟨nofun, @ih (log ++ j :: used) [] hrest List.not_mem_nil
          (fun between later hsplit hbetween => ?_) hfew.later⟩
        exact hfew [] between later (by rw [hsplit]; rfl) hbetween
      · refine ⟨fun heq => hj (Prod.mk.inj heq).1.symm, ?_⟩
        have hlog : LookUps capacity (log ++ k :: (used ++ [j])) ls := by
          simpa using hrest
        have hnot : k ∉ used ++ [j] := by
          rw [List.mem_append, List.mem_singleton, not_or]
          exact ⟨hk, fun heq => hj heq.symm⟩
        refine ih hlog hnot (fun between later hsplit hbetween => ?_) hfew.later
        have hnone : k ∉ j :: between :=
          List.not_mem_cons_of_ne_of_not_mem (fun heq => hj heq.symm) hbetween
        have hshort := hused (j :: between) later (by rw [hsplit]; rfl) hnone
        rwa [List.append_assoc]

/-- A key is stored once, where fewer other used keys than the table holds come between. -/
theorem stored_once {k : κ} {ls : List (κ × LookUp)} : ∀ {log : List κ},
    LookUps capacity log ls → FewBetween capacity k (usedKeys ls) →
    ls.count (k, .stored) ≤ 1 := by
  induction ls with
  | nil => exact fun _ _ => Nat.zero_le 1
  | cons l ls ih =>
    obtain ⟨j, outcome⟩ := l
    intro log hls hfew
    cases hls with
    | cons _ _ _ hfound _ hrest =>
    by_cases hdropped : outcome = .dropped
    · subst hdropped
      rw [used_keys_dropped] at hfew
      have hne : (j, LookUp.dropped) ≠ (k, .stored) := by simp
      rw [List.count_cons_of_ne hne]
      exact ih hrest hfew
    · rw [used_keys_cons j hdropped] at hfew
      by_cases hstored : (j, outcome) = (k, .stored)
      · obtain ⟨rfl, rfl⟩ := Prod.mk.inj hstored
        have hnone : (j, LookUp.stored) ∉ ls := by
          refine @not_stored_again _ _ _ _ _ log [] hrest List.not_mem_nil
            (fun between later hsplit hbetween => ?_) hfew.later
          exact hfew [] between later (by rw [hsplit]; rfl) hbetween
        rw [List.count_cons_self, List.count_eq_zero_of_not_mem hnone]
      · rw [List.count_cons_of_ne hstored]
        exact ih hrest hfew.later

/-- The outcomes of look-ups that store what they do not find. -/
def outcomes (capacity : ℕ) : List κ → List κ → List (κ × LookUp)
  | _, [] => []
  | log, k :: ks =>
    (k, if k ∈ recent capacity log then .found else .stored) :: outcomes capacity (log ++ [k]) ks

theorem outcomes_append (log ks ls : List κ) : outcomes capacity log (ks ++ ls) =
    outcomes capacity log ks ++ outcomes capacity (log ++ ks) ls := by
  induction ks generalizing log with
  | nil => simp [outcomes]
  | cons k ks ih => simp [outcomes, ih]

theorem outcomes_keys (log ks : List κ) : (outcomes capacity log ks).map Prod.fst = ks := by
  induction ks generalizing log with
  | nil => rfl
  | cons k ks ih => simp [outcomes, ih]

theorem recent_subset (n : ℕ) (log : List κ) : recent n log ⊆ log := fun _ hk =>
  List.mem_dedup.mp ((List.drop_sublist _ _).mem hk)

theorem not_mem_recent_again {k other : κ} {ks : List κ} (hnodup : (k :: (ks ++ [other])).Nodup)
    (hlength : capacity = ks.length + 1) :
    k ∉ recent capacity (ks ++ [k] ++ ks ++ [other]) := by
  have hlog : (ks ++ [k] ++ ks ++ [other]).dedup = k :: (ks ++ [other]) := by
    have hsubset : ks ⊆ k :: (ks ++ [other]) := fun j hj =>
      List.mem_cons_of_mem k (List.mem_append_left _ hj)
    have hsplit : ks ++ [k] ++ ks ++ [other] = ks ++ k :: (ks ++ [other]) := by simp
    rw [hsplit, List.dedup_append, List.dedup_eq_self.mpr hnodup]
    exact List.Subset.union_eq_right hsubset
  have hdrop : (k :: (ks ++ [other])).length - capacity = 1 := by
    simp only [List.length_cons, List.length_append, List.length_nil]
    omega
  rw [recent, hlog, List.rtake, hdrop]
  exact (List.nodup_cons.mp hnodup).1

theorem outcomes_pushed {k other : κ} {ks : List κ} (hnodup : (k :: (ks ++ [other])).Nodup)
    (hlength : capacity = ks.length + 1) :
    outcomes capacity [] (ks ++ k :: (ks ++ [other]) ++ [k]) =
      outcomes capacity [] ks ++ (k, .stored) ::
        outcomes capacity (ks ++ [k]) (ks ++ [other]) ++ [(k, .stored)] := by
  have hfirst : k ∉ recent capacity ks := fun hk =>
    (List.nodup_cons.mp hnodup).1 (List.mem_append_left _ (recent_subset _ _ hk))
  have hagain := not_mem_recent_again hnodup hlength
  have hlog : ks ++ k :: (ks ++ [other]) = ks ++ [k] ++ ks ++ [other] := by simp
  have hlast : outcomes capacity (ks ++ k :: (ks ++ [other])) [k] = [(k, .stored)] := by
    rw [hlog, outcomes, outcomes, if_neg hagain]
  rw [outcomes_append, outcomes_append, List.nil_append, List.nil_append, hlast, outcomes,
    if_neg hfirst]

/-- The keys that come again are not stored again. -/
theorem few_stored_between {k other : κ} {ks : List κ} (hnodup : (k :: (ks ++ [other])).Nodup)
    (hlength : capacity = ks.length + 1) (hks : ks ≠ []) :
    ((outcomes capacity (ks ++ [k]) (ks ++ [other])).filter (·.2 = .stored)).length < capacity := by
  cases ks with
  | nil => exact absurd rfl hks
  | cons first rest =>
    have hnot : first ∉ rest ++ [k] := by
      simp only [List.cons_append, List.nodup_cons, List.mem_cons, List.mem_append] at hnodup
      simp only [List.mem_append, List.mem_singleton, not_or]
      exact ⟨fun hin => hnodup.2.1 (.inl hin), fun heq => hnodup.1 (.inl heq.symm)⟩
    have hshort : (rest ++ [k]).dedup.length < capacity := by
      refine (List.dedup_sublist _).length_le.trans_lt ?_
      simp [hlength]
    have hfound : first ∈ recent capacity (first :: (rest ++ [k])) :=
      @mem_recent _ _ _ [] _ _ hnot hshort
    have hcons : outcomes capacity (first :: rest ++ [k]) (first :: rest ++ [other]) =
        (first, .found) ::
          outcomes capacity (first :: rest ++ [k] ++ [first]) (rest ++ [other]) := by
      rw [List.cons_append, List.cons_append, outcomes, if_pos hfound]
    rw [hcons, List.filter_cons_of_neg (by simp)]
    refine (List.length_filter_le _ _).trans_lt ?_
    have hkeys := congrArg List.length (@outcomes_keys _ _ capacity
      (first :: rest ++ [k] ++ [first]) (rest ++ [other]))
    rw [List.length_map] at hkeys
    rw [hkeys, hlength]
    simp

theorem pushed_between {k other : κ} {ks : List κ} (hnodup : (k :: (ks ++ [other])).Nodup)
    (hlength : capacity = ks.length + 1) {earlier between later : List (κ × LookUp)}
    {o o' : LookUp} (hk : k ∉ between.map Prod.fst)
    (h : outcomes capacity [] (ks ++ k :: (ks ++ [other]) ++ [k]) =
      earlier ++ (k, o) :: between ++ (k, o') :: later) :
    between = outcomes capacity (ks ++ [k]) (ks ++ [other]) := by
  have hfresh : k ∉ ks ∧ k ∉ ks ++ [other] := by
    have hnot := (List.nodup_cons.mp hnodup).1
    exact ⟨fun hin => hnot (List.mem_append_left _ hin), hnot⟩
  have hkeys := congrArg (List.map Prod.fst) h
  rw [outcomes_keys] at hkeys
  simp only [List.map_append, List.map_cons] at hkeys
  have hcount := congrArg (List.count k) hkeys
  simp only [List.count_append, List.count_cons_self, List.count_eq_zero_of_not_mem hfresh.1,
    List.count_eq_zero_of_not_mem hfresh.2, List.count_eq_zero_of_not_mem hk,
    List.count_nil] at hcount
  have hearlier : k ∉ earlier.map Prod.fst := List.count_eq_zero.mp (by omega)
  rw [List.append_assoc, List.append_assoc] at hkeys
  obtain ⟨hfirst, hrest⟩ := SeparatedFrames.separated_injective hfresh.1 hearlier hkeys
  obtain ⟨hbetween, -⟩ := SeparatedFrames.separated_injective hfresh.2 hk hrest
  -- the lists of outcomes are split where the lists of keys are
  rw [outcomes_pushed hnodup hlength, List.append_assoc, List.append_assoc] at h
  have hlengths : (outcomes capacity [] ks).length = earlier.length := by
    rw [← List.length_map (f := Prod.fst), outcomes_keys, hfirst, List.length_map]
  have hbetweens : (outcomes capacity (ks ++ [k]) (ks ++ [other])).length = between.length := by
    rw [← List.length_map (f := Prod.fst), outcomes_keys, hbetween, List.length_map]
  have htail := (List.append_inj h hlengths).2
  exact (List.append_inj (List.cons.inj htail).2 hbetweens).1.symm

end OrderedDict
