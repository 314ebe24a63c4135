import InspectionLine.OrderedDict
import InspectionLine.SpatialScores
import Mathlib.Data.Finset.Card

/-! # The search for thresholds

One percentile for all views of a product, the most sensitive at which few enough normal products
exceed the threshold of any view. It is searched from below along a grid, and found there because
both conditions last once they hold. -/
namespace InspectionLine

open OrderStatistics SuccessfulRuns

structure FprThresholds where
  percentile : ℚ
  thresholds : List (String × ℚ)
  fpr : ℚ

/-- `np.linspace(90.0, 100.0, 1001)`. -/
def percentileGrid : List ℚ := (List.range 1001).map fun i : ℕ => 90 + (i : ℚ) / 100

/-- `predictions |= array > thresholds[view]`. -/
def markAbove (predictions : List Bool) (view : List ℚ × ℚ) : List Bool :=
  List.zipWith (· || ·) predictions (view.1.map fun x => decide (view.2 < x))

def predictions (sampleCount : ℕ) (judged : List (List ℚ × ℚ)) : List Bool :=
  judged.foldl markAbove (List.replicate sampleCount false)

def trueShare (predictions : List Bool) : ℚ := predictions.count true / predictions.length

/-- `predictions.mean()`. -/
def predictionsMean (lib : ArrayLibrary) (predictions : List Bool) : ℚ :=
  lib.mean (predictions.map fun marked => if marked then 1 else 0)

section
variable (lib : ArrayLibrary)

def searchGrid (scoresByView : OrderedDict String (List ℚ)) (sampleCount : ℕ)
    (targetProductFpr : ℚ) : List ℚ → Except ScoringError FprThresholds
  | [] => .error {
      kind := .runtimeError
      text := "calibration B에서 목표 4-view product FPR을 만족하는 threshold가 없습니다." }
  | percentile :: rest => do
    let thresholds ← scoresByView.values.mapM (lib.percentile percentile)
    if thresholds.any (· ≤ 0) then
      searchGrid scoresByView sampleCount targetProductFpr rest
    else
      let fpr := predictionsMean lib (predictions sampleCount (scoresByView.values.zip thresholds))
      if fpr ≤ targetProductFpr then
        return { percentile, thresholds := scoresByView.keys.zip thresholds, fpr }
      else searchGrid scoresByView sampleCount targetProductFpr rest

def findProductFprThresholds (scoresByView : OrderedDict String (List ℚ))
    (targetProductFpr : ℚ) : Except ScoringError FprThresholds := do
  let arrays := scoresByView.values
  checkValue ((arrays.map List.length).toFinset.card = 1)
    "calibration B view score 수가 다릅니다."
  let sampleCount := (arrays.headD []).length
  checkValue (100 ≤ sampleCount)
    "product FPR calibration에는 calibration_set_B 제품 100개 이상이 필요합니다."
  searchGrid lib scoresByView sampleCount targetProductFpr percentileGrid

end

/-! ### What is searched for -/

section
variable (arrays : List (List ℚ)) (n : ℕ) (target : ℚ)

def flagged (p : ℚ) (j : ℕ) : Bool := arrays.any fun array => percentile array p < array.getD j 0

def fprAt (p : ℚ) : ℚ := (List.range n).countP (flagged arrays p) / n

/-- All thresholds are positive and few enough products are above one. -/
def Feasible (p : ℚ) : Prop :=
  (∀ array ∈ arrays, 0 < percentile array p) ∧ fprAt arrays n p ≤ target

instance (p : ℚ) : Decidable (Feasible arrays n target p) := inferInstanceAs (Decidable (_ ∧ _))

variable {arrays n target}

theorem flagged_anti {p q : ℚ} (hp : 0 ≤ p) (hpq : p ≤ q) {j : ℕ}
    (h : flagged arrays q j = true) : flagged arrays p j = true := by
  obtain ⟨array, harray, hover⟩ := List.any_eq_true.mp h
  refine List.any_eq_true.mpr ⟨array, harray, decide_eq_true ?_⟩
  exact (percentile_mono array hp hpq).trans_lt (of_decide_eq_true hover)

theorem fpr_anti {p q : ℚ} (hp : 0 ≤ p) (hpq : p ≤ q) : fprAt arrays n q ≤ fprAt arrays n p := by
  refine div_le_div_of_nonneg_right (Nat.cast_le.mpr ?_) (Nat.cast_nonneg _)
  exact List.countP_mono_left fun j _ hj => flagged_anti hp hpq hj

theorem feasible_mono {p q : ℚ} (hp : 0 ≤ p) (hpq : p ≤ q) (h : Feasible arrays n target p) :
    Feasible arrays n target q :=
  ⟨fun array harray => (h.1 array harray).trans_le (percentile_mono array hp hpq),
    (fpr_anti hp hpq).trans h.2⟩

theorem fpr_hundred (hlength : ∀ array ∈ arrays, array.length = n) : fprAt arrays n 100 = 0 := by
  have hnone : (List.range n).countP (flagged arrays 100) = 0 := by
    refine List.countP_eq_zero.mpr fun j hj h => ?_
    obtain ⟨array, harray, hover⟩ := List.any_eq_true.mp h
    have hlt : j < array.length := (hlength array harray).symm ▸ List.mem_range.mp hj
    rw [decide_eq_true_eq, List.getD_eq_getElem _ _ hlt] at hover
    exact absurd (le_percentile_hundred (List.getElem_mem hlt)) (not_le.mpr hover)
  rw [fprAt, hnone, Nat.cast_zero, zero_div]

theorem feasible_hundred_iff (htarget : 0 ≤ target)
    (hlength : ∀ array ∈ arrays, array.length = n) :
    Feasible arrays n target 100 ↔ ∀ array ∈ arrays, 0 < percentile array 100 := by
  refine ⟨fun h => h.1, fun h => ⟨h, ?_⟩⟩
  rw [fpr_hundred hlength]
  exact htarget

end

/-! ### The search -/

/-- One view marks the products above its threshold, and keeps the marks of those before it. -/
theorem foldl_mark_above {n : ℕ} {judged : List (List ℚ × ℚ)}
    (hlength : ∀ view ∈ judged, view.1.length = n) {marks : List Bool} (hmarks : marks.length = n) :
    judged.foldl markAbove marks = (List.range n).map fun j =>
      marks.getD j false || judged.any fun view => view.2 < view.1.getD j 0 := by
  induction judged generalizing marks with
  | nil =>
    refine List.ext_getElem (by simp [hmarks]) fun j hj _ => ?_
    have hj : j < marks.length := hj
    simp [hj]
  | cons view judged ih =>
    have hview := hlength view List.mem_cons_self
    have hstep : (markAbove marks view).length = n := by simp [markAbove, hmarks, hview]
    rw [List.foldl_cons, ih (fun v hv => hlength v (List.mem_cons_of_mem _ hv)) hstep]
    refine List.map_congr_left fun j hj => ?_
    have hj := List.mem_range.mp hj
    have hmark : (markAbove marks view).getD j false =
        (marks.getD j false || decide (view.2 < view.1.getD j 0)) := by
      rw [List.getD_eq_getElem _ _ (hj.trans_eq hstep.symm),
        List.getD_eq_getElem _ _ (hj.trans_eq hmarks.symm),
        List.getD_eq_getElem _ _ (hj.trans_eq hview.symm)]
      simp [markAbove]
    rw [hmark, List.any_cons, Bool.or_assoc]

theorem mean_eq_share {lib : ArrayLibrary} (hlib : LawfulArrayLibrary lib)
    {predictions : List Bool} (hne : predictions ≠ []) :
    predictionsMean lib predictions = trueShare predictions := by
  have hsum : ∀ marks : List Bool,
      (marks.map fun marked => if marked then (1 : ℚ) else 0).sum = marks.count true := by
    intro marks
    induction marks with
    | nil => rfl
    | cons marked rest ih =>
      rw [List.map_cons, List.sum_cons, ih]
      cases marked with
      | false => rw [List.count_cons_of_ne (by decide), if_neg (by decide), zero_add]
      | true => rw [List.count_cons_self, if_pos rfl, Nat.cast_succ, add_comm]
  rw [predictionsMean, hlib.mean_eq _ fun h => hne (List.map_eq_nil_iff.mp h), mean, hsum,
    List.length_map, trueShare]

section
variable {n : ℕ} {arrays : List (List ℚ)} (hlength : ∀ array ∈ arrays, array.length = n) (p : ℚ)
include hlength

theorem predictions_eq : predictions n (arrays.zip (arrays.map (percentile · p))) =
    (List.range n).map (flagged arrays p) := by
  have hzip : arrays.zip (arrays.map (percentile · p)) =
      arrays.map fun array => (array, percentile array p) := by
    rw [← List.map_id arrays, List.map_map, List.zip_map']
    simp
  have hviews : ∀ view ∈ arrays.map fun array => (array, percentile array p),
      view.1.length = n := by
    intro view hview
    obtain ⟨array, harray, rfl⟩ := List.mem_map.mp hview
    exact hlength array harray
  rw [hzip, predictions, foldl_mark_above hviews (List.length_replicate ..)]
  refine List.map_congr_left fun j hj => ?_
  have hj := List.mem_range.mp hj
  simp [flagged, hj, List.any_map, Function.comp_def]

theorem share_predictions {lib : ArrayLibrary} (hlib : LawfulArrayLibrary lib) (hn : 0 < n) :
    predictionsMean lib (predictions n (arrays.zip (arrays.map (percentile · p)))) =
      fprAt arrays n p := by
  have hmarks := predictions_eq hlength p
  have hne : predictions n (arrays.zip (arrays.map (percentile · p))) ≠ [] := by
    rw [hmarks]
    refine List.ne_nil_of_length_pos ?_
    rwa [List.length_map, List.length_range]
  rw [mean_eq_share hlib hne, trueShare, hmarks, fprAt, List.count, List.countP_map,
    List.length_map, List.length_range]
  simp [Function.comp_def]

end

/-- What the search returns at a percentile of the grid. -/
def thresholdsAt (scoresByView : OrderedDict String (List ℚ)) (n : ℕ) (p : ℚ) : FprThresholds where
  percentile := p
  thresholds := scoresByView.entries.map fun entry => (entry.1, percentile entry.2 p)
  fpr := fprAt scoresByView.values n p

section
variable {lib : ArrayLibrary} {scoresByView : OrderedDict String (List ℚ)} {n : ℕ} {target : ℚ}

theorem keys_zip_percentiles (p : ℚ) :
    scoresByView.keys.zip (scoresByView.values.map (percentile · p)) =
      (thresholdsAt scoresByView n p).thresholds := by
  rw [OrderedDict.keys, OrderedDict.values, List.map_map, List.zip_map']
  rfl

/-- One percentile of the grid is taken if it is feasible, and passed over otherwise. -/
theorem search_grid_cons (hlib : LawfulArrayLibrary lib) (hn : 0 < n)
    (hlength : ∀ array ∈ scoresByView.values, array.length = n) {p : ℚ} (hp : 0 ≤ p)
    (hp' : p ≤ 100) (rest : List ℚ) :
    searchGrid lib scoresByView n target (p :: rest) =
      if Feasible scoresByView.values n target p then .ok (thresholdsAt scoresByView n p)
      else searchGrid lib scoresByView n target rest := by
  have hthresholds : scoresByView.values.mapM (lib.percentile p) =
      .ok (scoresByView.values.map (percentile · p)) :=
    map_m_eq fun array harray => np_percentile_eq hlib
      (List.ne_nil_of_length_pos (hlength array harray ▸ hn)) hp hp'
  have hbelow : (scoresByView.values.map (percentile · p)).any (· ≤ 0) = true ↔
      ¬ ∀ array ∈ scoresByView.values, 0 < percentile array p := by
    simp
  rw [searchGrid, hthresholds]
  simp only [bind, Except.bind, share_predictions hlength p hlib hn, keys_zip_percentiles (n := n)]
  by_cases hsafe : ∀ array ∈ scoresByView.values, 0 < percentile array p
  · rw [if_neg (fun h => hbelow.mp h hsafe)]
    by_cases hfew : fprAt scoresByView.values n p ≤ target
    · rw [if_pos hfew, if_pos ⟨hsafe, hfew⟩]
      rfl
    · rw [if_neg hfew, if_neg fun h => hfew h.2]
  · rw [if_pos (hbelow.mpr hsafe), if_neg fun h => hsafe h.1]

theorem search_grid_eq (hlib : LawfulArrayLibrary lib) (hn : 0 < n)
    (hlength : ∀ array ∈ scoresByView.values, array.length = n) {grid : List ℚ}
    (hgrid : ∀ p ∈ grid, 0 ≤ p ∧ p ≤ 100) :
    (searchGrid lib scoresByView n target grid).toOption =
      (grid.find? fun p => Feasible scoresByView.values n target p).map
        (thresholdsAt scoresByView n) := by
  induction grid with
  | nil => rfl
  | cons p rest ih =>
    obtain ⟨hp, hp'⟩ := hgrid p List.mem_cons_self
    have ih := ih fun q hq => hgrid q (List.mem_cons_of_mem _ hq)
    rw [search_grid_cons hlib hn hlength hp hp']
    by_cases h : Feasible scoresByView.values n target p
    · rw [if_pos h, List.find?_cons, decide_eq_true h]
      rfl
    · rw [if_neg h, List.find?_cons, decide_eq_false h, ih]

theorem mem_percentile_grid {p : ℚ} :
    p ∈ percentileGrid ↔ ∃ i : ℕ, i ≤ 1000 ∧ 90 + (i : ℚ) / 100 = p := by
  rw [percentileGrid, List.mem_map]
  simp only [List.mem_range, Nat.lt_succ_iff]

theorem percentile_grid_increasing : percentileGrid.Pairwise (· < ·) := by
  rw [percentileGrid, List.pairwise_map]
  refine List.pairwise_lt_range.imp fun {i j} hij => ?_
  have hcast : (i : ℚ) < j := Nat.cast_lt.mpr hij
  linarith

theorem percentile_grid_bounds {p : ℚ} (h : p ∈ percentileGrid) : 0 ≤ p ∧ p ≤ 100 := by
  obtain ⟨i, hi, rfl⟩ := mem_percentile_grid.mp h
  have hlast : (i : ℚ) ≤ 1000 := by exact_mod_cast hi
  have hfirst : (0 : ℚ) ≤ i := Nat.cast_nonneg i
  constructor <;> linarith

theorem hundred_mem_percentile_grid : 100 ∈ percentileGrid :=
  mem_percentile_grid.mpr ⟨1000, le_rfl, by norm_num⟩

/-- With views of one length and samples enough the checks pass. -/
theorem find_thresholds_eq (hviews : scoresByView.entries ≠ []) (hn : 100 ≤ n)
    (hlength : ∀ array ∈ scoresByView.values, array.length = n) :
    findProductFprThresholds lib scoresByView target =
      searchGrid lib scoresByView n target percentileGrid := by
  obtain ⟨array, rest, hvalues⟩ := List.exists_cons_of_ne_nil
    (fun h => hviews (List.map_eq_nil_iff.mp h) : scoresByView.values ≠ [])
  have hone : (scoresByView.values.map List.length).toFinset = {n} := by
    ext m
    simp only [List.mem_toFinset, List.mem_map, Finset.mem_singleton]
    constructor
    · rintro ⟨array, harray, rfl⟩
      exact hlength array harray
    · rintro rfl
      exact ⟨array, by simp [hvalues], hlength array (by simp [hvalues])⟩
  have hhead : (scoresByView.values.headD []).length = n := by
    rw [hvalues]
    exact hlength array (by simp [hvalues])
  unfold findProductFprThresholds
  dsimp only
  rw [hone, hhead, Finset.card_singleton, decide_eq_true hn]
  generalize percentileGrid = grid
  rfl

theorem search_succeeds_iff (hlib : LawfulArrayLibrary lib)
    (hviews : scoresByView.entries ≠ []) (hn : 100 ≤ n)
    (hlength : ∀ array ∈ scoresByView.values, array.length = n) (htarget : 0 ≤ target) :
    (∃ found, findProductFprThresholds lib scoresByView target = .ok found) ↔
      ∀ array ∈ scoresByView.values, ∃ top, array.max? = some top ∧ 0 < top := by
  have hpos : 0 < n := by omega
  have hsearch : (searchGrid lib scoresByView n target percentileGrid).toOption = _ :=
    search_grid_eq hlib hpos hlength fun p => percentile_grid_bounds
  rw [find_thresholds_eq hviews hn hlength]
  -- the search can only fail if the last percentile of the grid is not feasible
  have hlast : (∃ p ∈ percentileGrid, Feasible scoresByView.values n target p) ↔
      Feasible scoresByView.values n target 100 := by
    refine ⟨?_, fun h => ⟨100, hundred_mem_percentile_grid, h⟩⟩
    rintro ⟨p, hp, h⟩
    obtain ⟨hfirst, hlast⟩ := percentile_grid_bounds hp
    exact feasible_mono hfirst hlast h
  have htop : ∀ array ∈ scoresByView.values,
      array.max? = some (percentile array 100) := fun array harray =>
    max_eq_percentile_hundred (List.ne_nil_of_length_pos (hlength array harray ▸ hpos))
  calc (∃ found, searchGrid lib scoresByView n target percentileGrid = .ok found)
      ↔ (searchGrid lib scoresByView n target percentileGrid).toOption.isSome = true := by
        cases searchGrid lib scoresByView n target percentileGrid <;> simp [Except.toOption]
    _ ↔ ∃ p ∈ percentileGrid, Feasible scoresByView.values n target p := by
        rw [hsearch, Option.isSome_map, List.find?_isSome]
        simp only [decide_eq_true_eq]
    _ ↔ ∀ array ∈ scoresByView.values, 0 < percentile array 100 :=
        hlast.trans (feasible_hundred_iff htarget hlength)
    _ ↔ ∀ array ∈ scoresByView.values, ∃ top, array.max? = some top ∧ 0 < top := by
        refine forall₂_congr fun array harray => ?_
        rw [htop array harray]
        simp only [Option.some.injEq, exists_eq_left']

theorem found_first_feasible (hlib : LawfulArrayLibrary lib)
    (hviews : scoresByView.entries ≠ []) (hn : 100 ≤ n)
    (hlength : ∀ array ∈ scoresByView.values, array.length = n) {found : FprThresholds}
    (hfound : findProductFprThresholds lib scoresByView target = .ok found) :
    found = thresholdsAt scoresByView n found.percentile ∧
      found.percentile ∈ percentileGrid ∧
      Feasible scoresByView.values n target found.percentile ∧
      (∀ p ∈ percentileGrid, p < found.percentile →
        ¬ Feasible scoresByView.values n target p) ∧
      ∀ p ∈ percentileGrid, found.percentile ≤ p →
        Feasible scoresByView.values n target p := by
  have hsearch : (searchGrid lib scoresByView n target percentileGrid).toOption = _ :=
    search_grid_eq hlib (by omega) hlength fun p => percentile_grid_bounds
  rw [find_thresholds_eq hviews hn hlength] at hfound
  rw [hfound] at hsearch
  obtain ⟨p, hfirst, hp⟩ := Option.map_eq_some_iff.mp hsearch.symm
  obtain ⟨hfeasible, before, after, hsplit, hbefore⟩ :=
    List.find?_eq_some_iff_append.mp hfirst
  have hfeasible := of_decide_eq_true hfeasible
  have hmem : p ∈ percentileGrid := List.mem_of_find?_eq_some hfirst
  subst hp
  refine ⟨rfl, hmem, hfeasible, fun q hq hlt => ?_, fun q _ hle =>
    feasible_mono (percentile_grid_bounds hmem).1 hle hfeasible⟩
  -- what is smaller stands in front of the first feasible percentile
  have hincreasing := percentile_grid_increasing
  rw [hsplit] at hq hincreasing
  rcases List.mem_append.mp hq with hq | hq
  · simpa using hbefore q hq
  · rcases List.mem_cons.mp hq with rfl | hq
    · exact absurd hlt (lt_irrefl _)
    · have hafter := List.rel_of_pairwise_cons (List.pairwise_append.mp hincreasing).2.1 hq
      exact absurd hlt (not_lt.mpr hafter.le)

/-- The search succeeds if and only if each view has a positive score. It returns the least
percentile of the grid at which the thresholds are positive and few enough products are above one,
and at each greater percentile of the grid this is so too. -/
theorem fpr_thresholds_exact (hlib : LawfulArrayLibrary lib)
    (hviews : scoresByView.entries ≠ []) (hn : 100 ≤ n)
    (hlength : ∀ array ∈ scoresByView.values, array.length = n) (htarget : 0 ≤ target) :
    ((∃ found, findProductFprThresholds lib scoresByView target = .ok found) ↔
        ∀ array ∈ scoresByView.values, ∃ top, array.max? = some top ∧ 0 < top) ∧
      ∀ found, findProductFprThresholds lib scoresByView target = .ok found →
        found = thresholdsAt scoresByView n found.percentile ∧
          found.percentile ∈ percentileGrid ∧
          Feasible scoresByView.values n target found.percentile ∧
          (∀ p ∈ percentileGrid, p < found.percentile →
            ¬ Feasible scoresByView.values n target p) ∧
          ∀ p ∈ percentileGrid, found.percentile ≤ p →
            Feasible scoresByView.values n target p := by
  exact ⟨search_succeeds_iff hlib hviews hn hlength htarget,
    fun _ => found_first_feasible hlib hviews hn hlength⟩

end

/-- A hundred products whose scores rise in the first view and fall in the second. -/
def opposedScores : OrderedDict String (List ℚ) where
  entries := [("front", (List.range 100).map fun i => (i + 1 : ℚ)),
    ("back", (List.range 100).map fun i => (200 - 2 * i : ℚ))]
  nodup := by decide

theorem opposed_scores_exact :
    ∃ found, findProductFprThresholds sortingLibrary opposedScores 0.1 = .ok found ∧
      found = thresholdsAt opposedScores 100 found.percentile ∧
      Feasible opposedScores.values 100 0.1 found.percentile ∧
      ∀ p ∈ percentileGrid, p < found.percentile → ¬ Feasible opposedScores.values 100 0.1 p := by
  have hlength : ∀ array ∈ opposedScores.values, array.length = 100 := by decide +kernel
  have htarget : (0 : ℚ) ≤ 0.1 := by norm_num
  have hexact := fpr_thresholds_exact sorting_library_lawful (List.cons_ne_nil _ _) le_rfl hlength
    htarget
  have htop : ∀ array ∈ opposedScores.values,
      ∃ top, array.max? = some top ∧ (0 : ℚ) < top := by
    intro array harray
    rcases List.mem_cons.mp harray with rfl | harray
    · exact ⟨100, by decide +kernel, by norm_num⟩
    · obtain rfl := List.mem_singleton.mp harray
      exact ⟨200, by decide +kernel, by norm_num⟩
  obtain ⟨found, hfound⟩ := hexact.1.mpr htop
  obtain ⟨heq, -, hfeasible, hleast, -⟩ := hexact.2 found hfound
  exact ⟨found, hfound, heq, hfeasible, hleast⟩

end InspectionLine
