import InspectionLine.Constants
import InspectionLine.OrderStatistics
import InspectionLine.ScoringPolicy
import InspectionLine.SuccessfulRuns
import Mathlib.Algebra.Order.BigOperators.Group.List

/-! # Scores of a view

The patch maps of a view are brought to a common scale and put together to one score, by the
Vision node and by the tools that calibrate its thresholds. The arithmetic is exact: the numbers
are rationals, and the checks for finite numbers have nothing to find. -/
namespace InspectionLine

open OrderStatistics SuccessfulRuns

structure Tensor where
  shape : List ℕ
  values : List ℚ
  size_eq : values.length = shape.prod

/-- `(maps - center[None]) / denominator[None]`. -/
def Tensor.normalize (maps center denominator : Tensor) : Tensor where
  shape := maps.shape
  values := maps.values.mapIdx fun i x =>
    (x - center.values.getD (i % maps.shape.tail.prod) 0) /
      denominator.values.getD (i % maps.shape.tail.prod) 1
  size_eq := List.length_mapIdx.trans maps.size_eq

/-- `reshape(shape[0], -1)`. -/
def Tensor.rows (t : Tensor) : List (List ℚ) :=
  (List.range (t.shape.headD 0)).map fun n =>
    (t.values.drop (n * t.shape.tail.prod)).take t.shape.tail.prod

def mean (l : List ℚ) : ℚ := l.sum / l.length

/-- What the scores of a row are made of: `amax`, `quantile` and `topk` at the Vision node,
`percentile` and `partition` in the tools. -/
structure ArrayLibrary where
  amax : List ℚ → Except ScoringError ℚ
  quantile : ℚ → List ℚ → Except ScoringError ℚ
  topk : List ℚ → ℕ → List ℚ
  percentile : ℚ → List ℚ → Except ScoringError ℚ
  partition : List ℚ → ℕ → List ℚ
  mean : List ℚ → ℚ

/-- A quantile lies between the sorted entries at its rank rounded down and up, a percentile
between the one at its rank rounded down and the next one, where there is one. `topk` returns the
largest entries, in any order; `partition` returns all of them, those in front of the given place
no greater than those from there on. -/
structure LawfulArrayLibrary (lib : ArrayLibrary) : Prop where
  amax_eq : ∀ row x, row.max? = some x → lib.amax row = .ok x
  amax_nil : (lib.amax []).toOption = none
  quantile_eq : ∀ q row, row ≠ [] → 0 ≤ q → q ≤ 1 → ∀ rank : ℚ,
    rank = q * (row.length - 1 : ℕ) → lib.quantile q row =
      .ok (lerp ((sorted row).getD ⌊rank⌋₊ 0) ((sorted row).getD ⌈rank⌉₊ 0) (rank - ⌊rank⌋₊))
  quantile_nil : ∀ q, (lib.quantile q []).toOption = none
  topk_perm : ∀ l k, k ≤ l.length → (lib.topk l k).Perm (largest k l)
  percentile_eq : ∀ p row, row ≠ [] → 0 ≤ p → p ≤ 100 →
    lib.percentile p row = .ok (valueAt (sorted row) ((row.length - 1 : ℕ) * (p / 100)))
  percentile_nil : ∀ p, (lib.percentile p []).toOption = none
  partition_perm : ∀ l k, k < l.length → (lib.partition l k).Perm l
  partition_le : ∀ l k, k < l.length → ∀ a ∈ (lib.partition l k).take k,
    ∀ b ∈ (lib.partition l k).drop k, a ≤ b
  mean_eq : ∀ l, l ≠ [] → lib.mean l = mean l

/-! ### The Vision node -/

def topkMean (lib : ArrayLibrary) (k : ℕ) (row : List ℚ) : Except ScoringError ℚ := do
  checkScoring .runtimeError (k ≤ row.length) "selected index k out of range"
  return lib.mean (lib.topk row k)

/-- `float(aggregation.get(key, math.nan))`, which must be finite. -/
def finiteOption [Runtime ℚ] (aggregation : JsonFields ℚ) (key text : String) :
    Except ScoringError ℚ :=
  match aggregation.field? key with
  | none => .error { kind := .artifactContractError, text }
  | some value => pyFloat value

/-- `max(1, ceil(patches * percent / 100))`. -/
def topKCount (patches : ℕ) (percent : ℚ) : ℕ := max 1 ⌈patches * percent / 100⌉.toNat

def spatialViewScores [Runtime ℚ] (lib : ArrayLibrary) (rawMaps center denominator : Tensor)
    (aggregation : JsonFields ℚ) : Except ScoringError (List ℚ) := do
  checkContract (rawMaps.shape.length = 3 && center.shape.length = 2 &&
    denominator.shape.length = 2) "v3 scoring tensor rank is invalid"
  checkContract (rawMaps.shape.tail = center.shape && center.shape = denominator.shape)
    "v3 scoring patch grid shape differs"
  checkContract (denominator.values.all fun d => 0 < d) "v3 denominator is unsafe"
  let flattened := (rawMaps.normalize center denominator).rows
  if aggregation.method = "percentile" then
    let percentile ← finiteOption aggregation "percentile" "v3 map percentile is invalid"
    checkContract (0 ≤ percentile && percentile ≤ 100) "v3 map percentile is invalid"
    if percentile = 100 then flattened.mapM lib.amax
    else flattened.mapM (lib.quantile (percentile / 100))
  else if aggregation.method = "top_k_percent_average" then
    let percent ← finiteOption aggregation "top_k_percent" "v3 top_k_percent is invalid"
    checkContract (0 < percent && percent ≤ 100) "v3 top_k_percent is invalid"
    flattened.mapM (topkMean lib (topKCount rawMaps.shape.tail.prod percent))
  else .error {
    kind := .artifactContractError, text := "unsupported v3 aggregation method" }

/-! ### The tools -/

structure SpatialCalibration where
  center : Tensor
  denominator : Tensor
  rawScale : Tensor
  gridShape : ℕ × ℕ
  scaleReference : ℚ
  sampleCount : ℕ
  center_shape : center.shape = [gridShape.1, gridShape.2]
  denominator_shape : denominator.shape = [gridShape.1, gridShape.2]
  raw_scale_shape : rawScale.shape = [gridShape.1, gridShape.2]

def normalizeMapsNumpy (maps : Tensor) (calibration : SpatialCalibration) :
    Except ScoringError Tensor := do
  checkValue (maps.shape.length = 3 &&
      maps.shape.tail = [calibration.gridShape.1, calibration.gridShape.2])
    "raw map shape와 spatial calibration grid가 다릅니다."
  return maps.normalize calibration.center calibration.denominator

def topKPercentPatchCount (totalPatches : ℕ) (topKPercent : ℚ) : Except ScoringError ℕ := do
  checkValue (1 ≤ totalPatches) "total_patches는 양의 정수여야 합니다."
  checkValue (0 < topKPercent && topKPercent ≤ 100)
    "top_k_percent는 0보다 크고 100 이하여야 합니다."
  return topKCount totalPatches topKPercent

/-- `np.partition(row, size - k)[-k:].mean()`. -/
def partitionMean (lib : ArrayLibrary) (k : ℕ) (row : List ℚ) : Except ScoringError ℚ := do
  checkValue (1 ≤ k && k ≤ row.length) "kth out of bounds"
  return lib.mean ((lib.partition row (row.length - k)).drop (row.length - k))

def aggregateMapsNumpy [Runtime ℚ] (lib : ArrayLibrary) (maps : Tensor)
    (aggregation : JsonFields ℚ) : Except ScoringError (List ℚ) := do
  checkValue (maps.shape.length = 3) "aggregation 입력은 finite [N,H,W]여야 합니다."
  validateAggregationConfig aggregation
  let flattened := maps.rows
  let method := (← aggregation.item "method").toStr
  if method = "percentile" then
    let percentile ← pyFloat (← aggregation.item "percentile")
    checkValue (0 ≤ percentile && percentile ≤ 100) "map percentile은 0~100이어야 합니다."
    flattened.mapM (lib.percentile percentile)
  else if method = "top_k_percent_average" then
    let topK ← topKPercentPatchCount maps.shape.tail.prod
      (← pyFloat (← aggregation.item "top_k_percent"))
    flattened.mapM (partitionMean lib topK)
  else .error {
    kind := .builtin .valueError, text := "알 수 없는 aggregation method: " ++ method }

/-! ### The score of a row -/

theorem rank_le_last {row : List ℚ} {p : ℚ} (hp : p ≤ 100) :
    percentileRank row.length p ≤ (row.length - 1 : ℕ) :=
  mul_le_of_le_one_right (Nat.cast_nonneg _) ((div_le_one (by norm_num)).mpr hp)

section
variable {lib : ArrayLibrary} (hlib : LawfulArrayLibrary lib)
include hlib

theorem quantile_eq {row : List ℚ} (hrow : row ≠ []) {p : ℚ} (hp : 0 ≤ p) (hp' : p ≤ 100) :
    lib.quantile (p / 100) row = .ok (percentile row p) := by
  have hrank : percentileRank row.length p = p / 100 * (row.length - 1 : ℕ) := mul_comm _ _
  have hlength := List.length_pos_iff.mpr hrow
  have hceil : ⌈percentileRank row.length p⌉₊ < (sorted row).length := by
    have := Nat.ceil_le.mpr (rank_le_last hp' : percentileRank row.length p ≤ _)
    rw [length_sorted]
    omega
  have hfloor := (Nat.floor_le_ceil (percentileRank row.length p)).trans_lt hceil
  have hone : p / 100 ≤ 1 := (div_le_one (by norm_num)).mpr hp'
  rw [hlib.quantile_eq _ row hrow (div_nonneg hp (by norm_num)) hone _ hrank, percentile,
    value_at_ceil _ (percentile_rank_nonneg row.length hp), entry_of_lt hceil, entry_of_lt hfloor]

theorem np_percentile_eq {row : List ℚ} (hrow : row ≠ []) {p : ℚ} (hp : 0 ≤ p) (hp' : p ≤ 100) :
    lib.percentile p row = .ok (percentile row p) := hlib.percentile_eq p row hrow hp hp'

theorem amax_eq {row : List ℚ} (hrow : row ≠ []) : lib.amax row = .ok (percentile row 100) :=
  hlib.amax_eq row _ (max_eq_percentile_hundred hrow)

end

theorem mean_perm {l m : List ℚ} (h : l.Perm m) : mean l = mean m := by
  rw [mean, mean, h.sum_eq, h.length_eq]

theorem topk_mean_eq {lib : ArrayLibrary} (hlib : LawfulArrayLibrary lib) {k : ℕ}
    {row : List ℚ} (hpos : 1 ≤ k) (hk : k ≤ row.length) :
    topkMean lib k row = .ok (mean (largest k row)) := by
  have hperm := hlib.topk_perm row k hk
  have hlength : (lib.topk row k).length = k := by
    rw [hperm.length_eq, length_largest hk]
  have hne : lib.topk row k ≠ [] := List.ne_nil_of_length_pos (hlength.symm ▸ hpos)
  unfold topkMean
  rw [decide_eq_true hk, hlib.mean_eq _ hne, mean_perm hperm]
  rfl

theorem partition_mean_eq {lib : ArrayLibrary} (hlib : LawfulArrayLibrary lib) {k : ℕ}
    {row : List ℚ} (hpos : 1 ≤ k) (hk : k ≤ row.length) :
    partitionMean lib k row = .ok (mean (largest k row)) := by
  have hplace : row.length - k < row.length := by omega
  have hperm := hlib.partition_perm row _ hplace
  have hlength : ((lib.partition row (row.length - k)).drop (row.length - k)).length = k := by
    rw [List.length_drop, hperm.length_eq]
    omega
  have hsplit : ((lib.partition row (row.length - k)).take (row.length - k) ++
      (lib.partition row (row.length - k)).drop (row.length - k)).Perm row := by
    rw [List.take_append_drop]
    exact hperm
  have hlargest := largest_of_split (hlib.partition_le row _ hplace) hsplit
  have hne := List.ne_nil_of_length_pos (hlength.symm ▸ hpos)
  rw [hlength] at hlargest
  unfold partitionMean
  rw [decide_eq_true hpos, decide_eq_true hk, hlib.mean_eq _ hne, mean_perm hlargest]
  rfl

theorem means_of_no_entries (lib : ArrayLibrary) {k : ℕ} (hpos : 1 ≤ k) :
    (topkMean lib k []).toOption = none ∧ (partitionMean lib k []).toOption = none := by
  have hlong : ¬k ≤ ([] : List ℚ).length := by
    rw [List.length_nil]
    omega
  simp only [topkMean, partitionMean, checkValue, checkScoring, hlong, decide_false,
    Bool.and_false, Bool.false_eq_true, if_false]
  exact ⟨rfl, rfl⟩

theorem top_k_percent_patch_count_eq {patches : ℕ} {p : ℚ} (hpos : 1 ≤ patches)
    (hrange : 0 < p ∧ p ≤ 100) :
    topKPercentPatchCount patches p = .ok (topKCount patches p) := by
  simp only [topKPercentPatchCount, checkValue, checkScoring, hpos, hrange, decide_true,
    Bool.and_self, if_true, bind, Except.bind, pure, Except.pure]

theorem top_k_percent_patch_count_zero (p : ℚ) :
    topKPercentPatchCount 0 p = .error {
      kind := .builtin .valueError, text := "total_patches는 양의 정수여야 합니다." } := rfl

/-! ### The scores of the rows -/

theorem map_m_first_error {f : List ℚ → Except ScoringError ℚ} {rows : List (List ℚ)}
    (hrows : rows ≠ []) (h : ∀ row ∈ rows, (f row).toOption = none) :
    (rows.mapM f).toOption = none := by
  obtain ⟨row, rest, rfl⟩ := List.exists_cons_of_ne_nil hrows
  have hrow := h row List.mem_cons_self
  rw [List.mapM_cons]
  cases hf : f row with
  | ok x =>
    rw [hf] at hrow
    cases hrow
  | error e => rfl

/-- Two ways to score the rows of a set that agree on each row, and both fail on a row without
entries. -/
theorem rows_agree {f g : List ℚ → Except ScoringError ℚ} {rows : List (List ℚ)} {patches : ℕ}
    (hrows : rows ≠ []) (hlength : ∀ row ∈ rows, row.length = patches)
    (hscore : ∀ row, row ≠ [] → row.length = patches → ∃ x, f row = .ok x ∧ g row = .ok x)
    (hempty : (f []).toOption = none ∧ (g []).toOption = none) :
    (patches = 0 → (rows.mapM f).toOption = none) ∧
      (rows.mapM f).toOption = (rows.mapM g).toOption ∧
      (0 < patches → ∃ scores, rows.mapM g = .ok scores ∧ scores.length = rows.length) := by
  rcases Nat.eq_zero_or_pos patches with hzero | hpos
  · have hnil : ∀ row ∈ rows, row = [] := fun row hrow =>
      List.length_eq_zero_iff.mp ((hlength row hrow).trans hzero)
    have hf : (rows.mapM f).toOption = none :=
      map_m_first_error hrows fun row hrow => hnil row hrow ▸ hempty.1
    have hg : (rows.mapM g).toOption = none :=
      map_m_first_error hrows fun row hrow => hnil row hrow ▸ hempty.2
    exact ⟨fun _ => hf, hf.trans hg.symm, fun h => absurd h (by omega)⟩
  · have hboth : ∀ row ∈ rows, ∃ x, f row = .ok x ∧ g row = .ok x := fun row hrow =>
      hscore row (List.ne_nil_of_length_pos ((hlength row hrow).symm ▸ hpos)) (hlength row hrow)
    have hf : rows.mapM f = .ok (rows.map fun row => (f row).toOption.getD 0) := by
      refine map_m_eq fun row hrow => ?_
      obtain ⟨x, hx, -⟩ := hboth row hrow
      rw [hx]
      rfl
    have hg : rows.mapM g = .ok (rows.map fun row => (f row).toOption.getD 0) := by
      refine map_m_eq fun row hrow => ?_
      obtain ⟨x, hx, hx'⟩ := hboth row hrow
      rw [hx, hx']
      rfl
    exact ⟨fun h => absurd h (by omega), by rw [hf, hg], fun _ => ⟨_, hg, List.length_map _⟩⟩

/-- The tensor of a set of maps of one grid has one row a map, each with all its patches. -/
theorem rows_spec {t : Tensor} {n h w : ℕ} (hshape : t.shape = [n, h, w]) :
    t.rows.length = n ∧ ∀ row ∈ t.rows, row.length = h * w := by
  have hpatches : t.shape.tail.prod = h * w := by
    rw [hshape]
    simp
  have hsize : t.values.length = n * (h * w) := by
    rw [t.size_eq, hshape]
    simp
  have hhead : t.shape.headD 0 = n := by rw [hshape]; rfl
  unfold Tensor.rows
  rw [hpatches, hhead]
  refine ⟨by rw [List.length_map, List.length_range], fun row hrow => ?_⟩
  obtain ⟨i, hi, rfl⟩ := List.mem_map.mp hrow
  have hfits : i * (h * w) + h * w ≤ t.values.length := by
    rw [hsize, ← Nat.succ_mul]
    exact Nat.mul_le_mul_right _ (List.mem_range.mp hi)
  rw [List.length_take, List.length_drop]
  omega

theorem top_k_count_pos (patches : ℕ) (percent : ℚ) : 1 ≤ topKCount patches percent :=
  Nat.le_max_left _ _

theorem top_k_count_le {patches : ℕ} (hpatches : 1 ≤ patches) {percent : ℚ}
    (hpercent : percent ≤ 100) : topKCount patches percent ≤ patches := by
  refine max_le hpatches ?_
  have hle : (patches : ℚ) * percent / 100 ≤ patches := by
    rw [div_le_iff₀ (by norm_num)]
    exact mul_le_mul_of_nonneg_left hpercent (Nat.cast_nonneg _)
  have hceil : ⌈(patches : ℚ) * percent / 100⌉ ≤ (patches : ℤ) :=
    Int.ceil_le.mpr (by exact_mod_cast hle)
  omega

/-! ### Accepted aggregations -/

section

theorem is_one_of_rat {x : ℚ} {literals : List ℚ} (h : isOneOf x literals = true) :
    x ∈ literals := by
  obtain ⟨q, hq, heq⟩ := is_one_of_iff.mp h
  exact of_decide_eq_true heq ▸ hq

theorem field_of_keys {fields : JsonFields ℚ} {keys : List String} {key : String}
    (hkeys : fields.keysAre keys = true) (hkey : key ∈ keys) :
    ∃ value, fields.field? key = some value := by
  have hmem : key ∈ (fields.map Prod.fst).toFinset := by
    rw [of_decide_eq_true hkeys]
    exact List.mem_toFinset.mpr hkey
  obtain ⟨field, hfield, rfl⟩ := List.mem_map.mp (List.mem_toFinset.mp hmem)
  cases hlookup : fields.field? field.1 with
  | some value => exact ⟨value, rfl⟩
  | none =>
    have hne := List.lookup_eq_none_iff.mp hlookup field hfield
    simp at hne

theorem item_eq_ok {fields : JsonFields ℚ} {key : String} {value : Json ℚ} :
    fields.item key = .ok value ↔ fields.field? key = some value := by
  unfold JsonFields.item
  cases fields.field? key with
  | none => exact ⟨nofun, nofun⟩
  | some v => exact ⟨fun h => by cases h; rfl, fun h => by cases h; rfl⟩

variable [Runtime ℚ]

/-- The method of an accepted aggregation is there, with a number in its range. -/
inductive AcceptedAggregation (aggregation : JsonFields ℚ) : Prop where
  | percentile (value : Json ℚ) (p : ℚ) (hmethod : aggregation.method = "percentile")
      (hvalue : aggregation.field? "percentile" = some value) (hnumber : pyFloat value = .ok p)
      (hrange : 0 ≤ p ∧ p ≤ 100)
  | topK (value : Json ℚ) (p : ℚ) (hmethod : aggregation.method = "top_k_percent_average")
      (hvalue : aggregation.field? "top_k_percent" = some value)
      (hnumber : pyFloat value = .ok p) (hrange : 0 < p ∧ p ≤ 100)

theorem accepted_cases {aggregation : JsonFields ℚ}
    (h : validateAggregationConfig aggregation = .ok ()) :
    AcceptedAggregation aggregation ∧
      ∃ value, aggregation.field? "method" = some value ∧ value.toStr = aggregation.method := by
  have hname : ∀ value, aggregation.field? "method" = some value →
      value.toStr = aggregation.method := by
    intro value hvalue
    rw [JsonFields.method, JsonFields.field, hvalue]
    rfl
  unfold validateAggregationConfig checkValue at h
  by_cases hpercentile : aggregation.method = "percentile"
  · rw [if_pos hpercentile] at h
    obtain ⟨hkeys, h⟩ := accepts_check.mp h
    obtain ⟨value, hvalue, h⟩ := bind_ok.mp h
    obtain ⟨p, hp, h⟩ := bind_ok.mp h
    obtain ⟨-, h⟩ := accepts_check.mp h
    have hmem := is_one_of_rat (check_scoring_ok.mp h)
    have hrange : ∀ q ∈ mapPercentileCandidates, 0 ≤ q ∧ q ≤ 100 := by decide +kernel
    obtain ⟨name, hfield⟩ := field_of_keys hkeys (show "method" ∈ _ from List.mem_cons_self)
    exact ⟨.percentile value p hpercentile (item_eq_ok.mp hvalue) hp (hrange p hmem),
      name, hfield, hname name hfield⟩
  rw [if_neg hpercentile] at h
  by_cases htop : aggregation.method = "top_k_percent_average"
  · rw [if_pos htop] at h
    obtain ⟨hkeys, h⟩ := accepts_check.mp h
    obtain ⟨value, hvalue, h⟩ := bind_ok.mp h
    obtain ⟨-, h⟩ := accepts_check.mp h
    obtain ⟨p, hp, h⟩ := bind_ok.mp h
    obtain ⟨-, h⟩ := accepts_check.mp h
    obtain ⟨hone, -⟩ := accepts_check.mp h
    have hmem := is_one_of_rat hone
    have hrange : ∀ q ∈ topKPercentCandidates, 0 < q ∧ q ≤ 100 := by decide +kernel
    obtain ⟨name, hfield⟩ := field_of_keys hkeys (show "method" ∈ _ from List.mem_cons_self)
    exact ⟨.topK value p htop (item_eq_ok.mp hvalue) hp (hrange p hmem),
      name, hfield, hname name hfield⟩
  · rw [if_neg htop] at h
    cases h

/-! ### The two scores agree -/

theorem optional_eq {aggregation : JsonFields ℚ} {key text : String} {value : Json ℚ}
    (h : aggregation.field? key = some value) :
    finiteOption aggregation key text = pyFloat value := by
  rw [finiteOption, h]

section
variable {lib : ArrayLibrary} {maps center denominator : Tensor} {n h w : ℕ}
  (hshape : maps.shape = [n, h, w]) (hcenter : center.shape = [h, w])
  (hdenominator : denominator.shape = [h, w]) (hpositive : ∀ d ∈ denominator.values, 0 < d)
  {aggregation : JsonFields ℚ} {value : Json ℚ} {p : ℚ} (hnumber : pyFloat value = .ok p)
include hshape hcenter hdenominator hpositive hnumber

theorem view_scores_percentile (hmethod : aggregation.method = "percentile")
    (hvalue : aggregation.field? "percentile" = some value) (hrange : 0 ≤ p ∧ p ≤ 100) :
    spatialViewScores lib maps center denominator aggregation =
      if p = 100 then (maps.normalize center denominator).rows.mapM lib.amax
      else (maps.normalize center denominator).rows.mapM (lib.quantile (p / 100)) := by
  have hall : denominator.values.all (fun d => 0 < d) = true := by simpa using hpositive
  unfold spatialViewScores
  simp only [hshape, hcenter, hdenominator, hall, hmethod, optional_eq hvalue, hnumber, hrange,
    checkContract, checkScoring, bind, Except.bind, List.length_cons, List.length_nil,
    List.tail_cons, decide_true, Bool.and_self, if_true]

theorem view_scores_top_k (hmethod : aggregation.method = "top_k_percent_average")
    (hvalue : aggregation.field? "top_k_percent" = some value) (hrange : 0 < p ∧ p ≤ 100) :
    spatialViewScores lib maps center denominator aggregation =
      (maps.normalize center denominator).rows.mapM
        (topkMean lib (topKCount (h * w) p)) := by
  have hall : denominator.values.all (fun d => 0 < d) = true := by simpa using hpositive
  have hother : aggregation.method ≠ "percentile" := by
    rw [hmethod]
    decide
  have hpatches : [h, w].prod = h * w := by simp
  unfold spatialViewScores
  rw [if_neg hother, if_pos hmethod]
  simp only [hshape, hcenter, hdenominator, hall, optional_eq hvalue, hnumber, hrange, hpatches,
    checkContract, checkScoring, bind, Except.bind, List.length_cons, List.length_nil,
    List.tail_cons, decide_true, Bool.and_self, if_true]

end

section
variable {lib : ArrayLibrary} {maps : Tensor} {calibration : SpatialCalibration} {n : ℕ}
  (hshape : maps.shape = [n, calibration.gridShape.1, calibration.gridShape.2])
  {aggregation : JsonFields ℚ} (haccepted : validateAggregationConfig aggregation = .ok ())
  {value : Json ℚ} {p : ℚ} (hnumber : pyFloat value = .ok p)
include hshape haccepted hnumber

theorem tool_scores_percentile (hmethod : aggregation.method = "percentile")
    (hvalue : aggregation.field? "percentile" = some value) (hrange : 0 ≤ p ∧ p ≤ 100) :
    (normalizeMapsNumpy maps calibration >>= fun t => aggregateMapsNumpy lib t aggregation) =
      (maps.normalize calibration.center calibration.denominator).rows.mapM
        (lib.percentile p) := by
  obtain ⟨-, name, hfield, hname⟩ := accepted_cases haccepted
  have hshape' : (maps.normalize calibration.center calibration.denominator).shape.length = 3 := by
    rw [Tensor.normalize, hshape]
    rfl
  simp only [normalizeMapsNumpy, aggregateMapsNumpy, hshape, haccepted, item_eq_ok.mpr hfield,
    item_eq_ok.mpr hvalue, hname, hmethod, hnumber, hrange, hshape', checkValue, checkScoring, bind,
    Except.bind, pure, Except.pure, List.length_cons, List.length_nil, List.tail_cons, decide_true,
    Bool.and_self, if_true]

theorem tool_scores_top_k (hmethod : aggregation.method = "top_k_percent_average")
    (hvalue : aggregation.field? "top_k_percent" = some value) :
    (normalizeMapsNumpy maps calibration >>= fun t => aggregateMapsNumpy lib t aggregation) =
      (topKPercentPatchCount (calibration.gridShape.1 * calibration.gridShape.2) p >>= fun k =>
        (maps.normalize calibration.center calibration.denominator).rows.mapM
          (partitionMean lib k)) := by
  obtain ⟨-, name, hfield, hname⟩ := accepted_cases haccepted
  have hother : aggregation.method ≠ "percentile" := by
    rw [hmethod]
    decide
  have hshape' : (maps.normalize calibration.center calibration.denominator).shape =
      [n, calibration.gridShape.1, calibration.gridShape.2] := hshape
  have hpatches : [calibration.gridShape.1, calibration.gridShape.2].prod =
      calibration.gridShape.1 * calibration.gridShape.2 := by simp
  simp only [normalizeMapsNumpy, aggregateMapsNumpy, hshape, haccepted, item_eq_ok.mpr hfield,
    item_eq_ok.mpr hvalue, hname, hnumber, hshape', hpatches, checkValue, checkScoring,
    bind, Except.bind, pure, Except.pure, List.length_cons, List.length_nil, List.tail_cons,
    decide_true, Bool.and_self, if_true]
  rw [if_neg hother, if_pos hmethod]

end

/-- Both sides score row by row, and a row without entries has no score on either. -/
theorem scores_by_rows {lib : ArrayLibrary} (hlib : LawfulArrayLibrary lib)
    (calibration : SpatialCalibration) (hpositive : ∀ d ∈ calibration.denominator.values, 0 < d)
    {maps : Tensor} {n : ℕ} (hn : 0 < n)
    (hshape : maps.shape = [n, calibration.gridShape.1, calibration.gridShape.2])
    {aggregation : JsonFields ℚ} (haccepted : validateAggregationConfig aggregation = .ok ()) :
    let tools := normalizeMapsNumpy maps calibration >>= fun t =>
      aggregateMapsNumpy lib t aggregation
    (spatialViewScores lib maps calibration.center calibration.denominator aggregation).toOption =
        tools.toOption ∧
      (0 < calibration.gridShape.1 * calibration.gridShape.2 →
        ∃ scores, tools = .ok scores ∧ scores.length = n) := by
  obtain ⟨hlength, hpatches⟩ :=
    rows_spec (t := maps.normalize calibration.center calibration.denominator) hshape
  have hne : (maps.normalize calibration.center calibration.denominator).rows ≠ [] :=
    List.ne_nil_of_length_pos (hlength ▸ hn)
  rw [← hlength]
  cases (accepted_cases haccepted).1 with
  | percentile value p hmethod hvalue hnumber hrange =>
    dsimp only
    rw [view_scores_percentile hshape calibration.center_shape calibration.denominator_shape
        hpositive hnumber hmethod hvalue hrange,
      tool_scores_percentile hshape haccepted hnumber hmethod hvalue hrange]
    split
    · -- the maximum is the hundredth percentile
      next hp =>
      refine (rows_agree (f := lib.amax) (g := lib.percentile p) hne hpatches
        (fun row hrow _ => ?_) ⟨hlib.amax_nil, hlib.percentile_nil p⟩).2
      rw [np_percentile_eq hlib hrow hrange.1 hrange.2, hp]
      exact ⟨_, amax_eq hlib hrow, rfl⟩
    · refine (rows_agree (f := lib.quantile (p / 100)) (g := lib.percentile p) hne hpatches
        (fun row hrow _ => ?_) ⟨hlib.quantile_nil _, hlib.percentile_nil p⟩).2
      exact ⟨_, quantile_eq hlib hrow hrange.1 hrange.2,
        np_percentile_eq hlib hrow hrange.1 hrange.2⟩
  | topK value p hmethod hvalue hnumber hrange =>
    dsimp only
    rw [view_scores_top_k hshape calibration.center_shape calibration.denominator_shape
        hpositive hnumber hmethod hvalue hrange,
      tool_scores_top_k hshape haccepted hnumber hmethod hvalue]
    generalize calibration.gridShape.1 * calibration.gridShape.2 = patches at hpatches ⊢
    have hcount := top_k_count_pos patches p
    have hscore : ∀ row : List ℚ, row ≠ [] → row.length = patches →
        ∃ x, topkMean lib (topKCount patches p) row = .ok x ∧
          partitionMean lib (topKCount patches p) row = .ok x := by
      intro row hrow hlen
      have hk : topKCount patches p ≤ row.length := hlen ▸ top_k_count_le
        (hlen ▸ List.length_pos_iff.mpr hrow) hrange.2
      exact ⟨_, topk_mean_eq hlib hcount hk, partition_mean_eq hlib hcount hk⟩
    obtain ⟨hnone, hagree⟩ := rows_agree hne hpatches hscore (means_of_no_entries lib hcount)
    rcases Nat.eq_zero_or_pos patches with hzero | hpos
    · rw [hzero, top_k_percent_patch_count_zero]
      exact ⟨hzero ▸ hnone hzero, fun h => absurd h (lt_irrefl 0)⟩
    · rw [top_k_percent_patch_count_eq hpos hrange]
      exact hagree

omit [Runtime ℚ] in
theorem ok_of_same {a b : Except ScoringError (List ℚ)} (h : a.toOption = b.toOption)
    {scores : List ℚ} (hb : b = .ok scores) : a = .ok scores := by
  subst hb
  cases a with
  | error e => cases h
  | ok scores' => exact congrArg _ (Option.some.inj h)

/-- For an accepted aggregation the Vision node and the tools give every map of a set the same
score; only where the grid has no patch at all do both give none. -/
theorem view_scores_agree {lib : ArrayLibrary} (hlib : LawfulArrayLibrary lib)
    (calibration : SpatialCalibration) (hpositive : ∀ d ∈ calibration.denominator.values, 0 < d)
    {maps : Tensor} {n : ℕ} (hn : 0 < n)
    (hshape : maps.shape = [n, calibration.gridShape.1, calibration.gridShape.2])
    {aggregation : JsonFields ℚ} (haccepted : validateAggregationConfig aggregation = .ok ()) :
    let node := spatialViewScores lib maps calibration.center calibration.denominator aggregation
    let tools := normalizeMapsNumpy maps calibration >>= fun t =>
      aggregateMapsNumpy lib t aggregation
    node.toOption = tools.toOption ∧
      (0 < calibration.gridShape.1 * calibration.gridShape.2 →
        ∃ scores, node = .ok scores ∧ tools = .ok scores ∧ scores.length = n) := by
  obtain ⟨hsame, hscores⟩ := scores_by_rows hlib calibration hpositive hn hshape haccepted
  refine ⟨hsame, fun hpatches => ?_⟩
  obtain ⟨scores, htools, hlength⟩ := hscores hpatches
  exact ⟨scores, ok_of_same hsame htools, htools, hlength⟩

end

/-- All by sorting. -/
def sortingLibrary : ArrayLibrary where
  amax row := match row.max? with
    | some x => .ok x
    | none => .error { kind := .indexError, text := "amax(): no entries" }
  quantile q row := do
    checkScoring .runtimeError (!row.isEmpty) "quantile() input tensor must be non-empty"
    let rank := q * (row.length - 1 : ℕ)
    let below := ⌊rank⌋₊
    return lerp ((sorted row).getD below 0) ((sorted row).getD ⌈rank⌉₊ 0) (rank - below)
  topk l k := largest k l
  percentile p row := do
    checkScoring .indexError (!row.isEmpty) "index -1 is out of bounds"
    return valueAt (sorted row) ((row.length - 1 : ℕ) * (p / 100))
  partition l _ := sorted l
  mean := mean

theorem sorting_library_lawful : LawfulArrayLibrary sortingLibrary where
  amax_eq row x h := by simp only [sortingLibrary, h]
  amax_nil := rfl
  quantile_eq q row hrow _ _ rank hrank := by
    simp only [sortingLibrary, List.isEmpty_eq_false_iff.mpr hrow, hrank]
    rfl
  quantile_nil _ := rfl
  topk_perm _ _ _ := .refl _
  percentile_eq p row hrow _ _ := by
    simp only [sortingLibrary, List.isEmpty_eq_false_iff.mpr hrow]
    rfl
  percentile_nil _ := rfl
  partition_perm l _ _ := sorted_perm l
  partition_le l k _ a ha b hb := by
    have hsorted := sorted_pairwise l
    rw [← List.take_append_drop k (sorted l)] at hsorted
    exact (List.pairwise_append.mp hsorted).2.2 a ha b hb
  mean_eq _ _ := rfl

def twoPatches : SpatialCalibration where
  center := ⟨[1, 2], [1, 1], rfl⟩
  denominator := ⟨[1, 2], [2, 1], rfl⟩
  rawScale := ⟨[1, 2], [1, 0], rfl⟩
  gridShape := (1, 2)
  scaleReference := 1
  sampleCount := 2
  center_shape := rfl
  denominator_shape := rfl
  raw_scale_shape := rfl

def oneMap : Tensor := ⟨[1, 1, 2], [2, 4], rfl⟩

theorem two_patches_agree :
    let node := @spatialViewScores Runtime.exact sortingLibrary oneMap twoPatches.center
      twoPatches.denominator topKPolicy
    let tools := normalizeMapsNumpy oneMap twoPatches >>= fun t =>
      @aggregateMapsNumpy Runtime.exact sortingLibrary t topKPolicy
    node.toOption = tools.toOption ∧
      (0 < 1 * 2 → ∃ scores, node = .ok scores ∧ tools = .ok scores ∧ scores.length = 1) :=
  @view_scores_agree Runtime.exact sortingLibrary sorting_library_lawful twoPatches
    (by decide +kernel) oneMap 1 (by decide) rfl topKPolicy (by decide +kernel)

/-! ### Greater maps have greater scores -/

/-- A score of a row that grows with its entries. -/
def MonotoneScore (f : List ℚ → Except ScoringError ℚ) : Prop :=
  ∀ row row', List.Forall₂ (· ≤ ·) row row' → ∀ x, f row = .ok x → ∃ x', f row' = .ok x' ∧ x ≤ x'

theorem nonempty_of_forall₂ {l m : List ℚ} (h : List.Forall₂ (· ≤ ·) l m) (hl : l ≠ []) :
    m ≠ [] := by
  rintro rfl
  exact hl (List.forall₂_nil_right_iff.mp h)

theorem ne_ok_of_to_option {e : Except ScoringError ℚ} (h : e.toOption = none) (x : ℚ) :
    e ≠ .ok x := by
  rintro rfl
  cases h

theorem monotone_of_percentile {f : List ℚ → Except ScoringError ℚ} {p : ℚ} (hp : 0 ≤ p)
    (hf : ∀ row, row ≠ [] → f row = .ok (percentile row p)) (hempty : ∀ x, f [] ≠ .ok x) :
    MonotoneScore f := by
  intro row row' hle x hx
  have hrow : row ≠ [] := by
    rintro rfl
    exact hempty x hx
  rw [hf row hrow] at hx
  cases hx
  exact ⟨_, hf row' (nonempty_of_forall₂ hle hrow), percentile_mono_list hle hp⟩

theorem monotone_amax {lib : ArrayLibrary} (hlib : LawfulArrayLibrary lib) :
    MonotoneScore lib.amax :=
  monotone_of_percentile (by norm_num) (fun _ => amax_eq hlib)
    (fun x => ne_ok_of_to_option hlib.amax_nil x)

theorem monotone_quantile {lib : ArrayLibrary} (hlib : LawfulArrayLibrary lib) {p : ℚ}
    (hp : 0 ≤ p) (hp' : p ≤ 100) : MonotoneScore (lib.quantile (p / 100)) :=
  monotone_of_percentile hp (fun _ hrow => quantile_eq hlib hrow hp hp')
    (fun x => ne_ok_of_to_option (hlib.quantile_nil _) x)

theorem mean_mono {l m : List ℚ} (h : List.Forall₂ (· ≤ ·) l m) : mean l ≤ mean m := by
  rw [mean, mean, h.length_eq]
  exact div_le_div_of_nonneg_right h.sum_le_sum (Nat.cast_nonneg _)

theorem monotone_topk_mean {lib : ArrayLibrary} (hlib : LawfulArrayLibrary lib) {k : ℕ}
    (hpos : 1 ≤ k) : MonotoneScore (topkMean lib k) := by
  intro row row' hle x hx
  by_cases hk : k ≤ row.length
  · rw [topk_mean_eq hlib hpos hk] at hx
    cases hx
    exact ⟨_, topk_mean_eq hlib hpos (hle.length_eq ▸ hk), mean_mono (largest_mono hle k)⟩
  · simp only [topkMean, checkScoring, hk, decide_false, Bool.false_eq_true, if_false] at hx
    cases hx

theorem map_m_mono {f : List ℚ → Except ScoringError ℚ} (hf : MonotoneScore f)
    {rows rows' : List (List ℚ)} (h : List.Forall₂ (List.Forall₂ (· ≤ ·)) rows rows')
    {scores : List ℚ} (hscores : rows.mapM f = .ok scores) :
    ∃ scores', rows'.mapM f = .ok scores' ∧ List.Forall₂ (· ≤ ·) scores scores' :=
  map_m_related hf h hscores

structure Tensor.Below (maps maps' : Tensor) : Prop where
  shape_eq : maps.shape = maps'.shape
  le : List.Forall₂ (· ≤ ·) maps.values maps'.values

theorem map_idx_mono {f : ℕ → ℚ → ℚ} (hf : ∀ i x y, x ≤ y → f i x ≤ f i y) {l m : List ℚ}
    (h : List.Forall₂ (· ≤ ·) l m) : List.Forall₂ (· ≤ ·) (l.mapIdx f) (m.mapIdx f) := by
  induction h generalizing f with
  | nil => exact .nil
  | cons hab _ ih =>
    rw [List.mapIdx_cons, List.mapIdx_cons]
    exact .cons (hf 0 _ _ hab) (ih fun i => hf (i + 1))

theorem normalize_mono {maps maps' : Tensor} (h : maps.Below maps') (center : Tensor)
    {denominator : Tensor} (hpositive : ∀ d ∈ denominator.values, 0 < d) :
    (maps.normalize center denominator).Below (maps'.normalize center denominator) := by
  refine ⟨h.shape_eq, ?_⟩
  simp only [Tensor.normalize, h.shape_eq]
  refine map_idx_mono (fun i x y hxy => ?_) h.le
  have hdenominator : 0 ≤ denominator.values.getD (i % maps'.shape.tail.prod) 1 := by
    rw [List.getD_eq_getElem?_getD]
    cases hget : denominator.values[i % maps'.shape.tail.prod]? with
    | none => exact zero_le_one
    | some d => exact (hpositive d (List.mem_of_getElem? hget)).le
  exact div_le_div_of_nonneg_right (sub_le_sub_right hxy _) hdenominator

theorem rows_mono {t t' : Tensor} (h : t.Below t') :
    List.Forall₂ (List.Forall₂ (· ≤ ·)) t.rows t'.rows := by
  unfold Tensor.rows
  rw [h.shape_eq, List.forall₂_map_left_iff, List.forall₂_map_right_iff]
  exact List.forall₂_same.mpr fun n _ => List.forall₂_take _ (List.forall₂_drop _ h.le)

section
variable [Runtime ℚ] {lib : ArrayLibrary}

theorem view_scores_mono (hlib : LawfulArrayLibrary lib) {maps maps' : Tensor}
    (h : maps.Below maps') {center denominator : Tensor} {aggregation : JsonFields ℚ}
    {scores : List ℚ}
    (hscores : spatialViewScores lib maps center denominator aggregation = .ok scores) :
    ∃ scores', spatialViewScores lib maps' center denominator aggregation = .ok scores' ∧
      List.Forall₂ (· ≤ ·) scores scores' := by
  unfold spatialViewScores checkContract at hscores ⊢
  rw [← h.shape_eq]
  obtain ⟨_, hrank, hscores⟩ := bind_ok.mp hscores
  obtain ⟨_, hgrid, hscores⟩ := bind_ok.mp hscores
  obtain ⟨_, hunsafe, hscores⟩ := bind_ok.mp hscores
  have hpositive : ∀ d ∈ denominator.values, 0 < d := by
    simpa using check_scoring_ok.mp hunsafe
  have hrows := rows_mono (normalize_mono h center hpositive)
  rw [hrank, hgrid, hunsafe]
  change ∃ scores', (if aggregation.method = "percentile" then _ else _) = _ ∧ _
  by_cases hpercentile : aggregation.method = "percentile"
  · rw [if_pos hpercentile] at hscores ⊢
    obtain ⟨p, hp, hscores⟩ := bind_ok.mp hscores
    obtain ⟨_, hrange, hscores⟩ := bind_ok.mp hscores
    rw [hp]
    simp only [bind, Except.bind]
    rw [hrange]
    obtain ⟨hlow, hhigh⟩ := (Bool.and_eq_true _ _).mp (check_scoring_ok.mp hrange)
    by_cases hhundred : p = 100
    · simp only [if_pos hhundred] at hscores ⊢
      exact map_m_mono (monotone_amax hlib) hrows hscores
    · simp only [if_neg hhundred] at hscores ⊢
      exact map_m_mono (monotone_quantile hlib (of_decide_eq_true hlow) (of_decide_eq_true hhigh))
        hrows hscores
  rw [if_neg hpercentile] at hscores ⊢
  by_cases htop : aggregation.method = "top_k_percent_average"
  · rw [if_pos htop] at hscores ⊢
    obtain ⟨p, hp, hscores⟩ := bind_ok.mp hscores
    obtain ⟨_, hrange, hscores⟩ := bind_ok.mp hscores
    rw [hp]
    simp only [bind, Except.bind]
    rw [hrange]
    exact map_m_mono (monotone_topk_mean hlib (top_k_count_pos _ _)) hrows hscores
  · rw [if_neg htop] at hscores
    cases hscores

/-! ### The verdict of a station -/

structure ScoredView where
  view : String
  maps : Tensor
  center : Tensor
  denominator : Tensor
  threshold : Json ℚ

structure StationScores where
  verdict : Verdict
  score : ℚ
  viewVerdicts : List Verdict
  viewScores : List ℚ
  viewRawScores : List ℚ
  deriving DecidableEq

/-- `float(score[0])`. -/
def viewRawScore (lib : ArrayLibrary) (aggregation : JsonFields ℚ) (v : ScoredView) :
    Except ScoringError ℚ := do
  match ← spatialViewScores lib v.maps v.center v.denominator aggregation with
  | score :: _ => return score
  | [] => .error { kind := .indexError, text := "index 0 is out of bounds" }

def judgeView (v : ScoredView) (raw : ℚ) : Except ScoringError (ℚ × Verdict) := do
  let threshold ← pyFloat v.threshold
  checkContract (0 < threshold) (v.view ++ ": unsafe artifact threshold")
  return (raw / threshold, if threshold < raw then .ng else .pass)

def infer (lib : ArrayLibrary) (aggregation : JsonFields ℚ) (views : List ScoredView) :
    Except ScoringError StationScores := do
  let rawScores ← views.mapM (viewRawScore lib aggregation)
  let judged ← (views.zip rawScores).mapM fun pair => judgeView pair.1 pair.2
  let viewVerdicts := judged.map Prod.snd
  match (judged.map Prod.fst).max? with
  | none => .error { kind := .builtin .valueError, text := "max() arg is an empty sequence" }
  | some score => return {
      verdict := if .ng ∈ viewVerdicts then .ng else .pass
      score, viewVerdicts, viewScores := judged.map Prod.fst, viewRawScores := rawScores }

structure ScoredView.Raised (v v' : ScoredView) : Prop where
  view_eq : v.view = v'.view
  center_eq : v.center = v'.center
  denominator_eq : v.denominator = v'.denominator
  threshold_eq : v.threshold = v'.threshold
  maps_below : v.maps.Below v'.maps

/-- No NG becomes a PASS. -/
def KeepsNg (verdict verdict' : Verdict) : Prop := verdict = .ng → verdict' = .ng

theorem raw_score_mono (hlib : LawfulArrayLibrary lib) {aggregation : JsonFields ℚ}
    {v v' : ScoredView} (h : v.Raised v') {x : ℚ}
    (hx : viewRawScore lib aggregation v = .ok x) :
    ∃ x', viewRawScore lib aggregation v' = .ok x' ∧ x ≤ x' := by
  unfold viewRawScore at hx ⊢
  obtain ⟨scores, hscores, hx⟩ := bind_ok.mp hx
  obtain ⟨scores', hscores', hle⟩ := view_scores_mono hlib h.maps_below hscores
  rw [← h.center_eq, ← h.denominator_eq, hscores']
  cases hle with
  | nil => cases hx
  | cons hab _ =>
    cases hx
    exact ⟨_, rfl, hab⟩

theorem judge_view_mono {v v' : ScoredView} (h : v.Raised v') {x x' : ℚ} (hle : x ≤ x')
    {judged : ℚ × Verdict} (hjudged : judgeView v x = .ok judged) :
    ∃ judged', judgeView v' x' = .ok judged' ∧ judged.1 ≤ judged'.1 ∧
      KeepsNg judged.2 judged'.2 := by
  unfold judgeView checkContract at hjudged ⊢
  obtain ⟨threshold, hthreshold, hjudged⟩ := bind_ok.mp hjudged
  obtain ⟨_, hsafe, hjudged⟩ := bind_ok.mp hjudged
  have hpositive : 0 < threshold := of_decide_eq_true (check_scoring_ok.mp hsafe)
  rw [← h.threshold_eq, ← h.view_eq, hthreshold]
  simp only [bind, Except.bind]
  rw [hsafe]
  cases hjudged
  refine ⟨_, rfl, div_le_div_of_nonneg_right hle hpositive.le, fun hng => ?_⟩
  dsimp only at hng ⊢
  by_cases hover : threshold < x
  · rw [if_pos (hover.trans_le hle)]
  · rw [if_neg hover] at hng
    cases hng

omit [Runtime ℚ] in
theorem forall₂_zip {α β : Type} {R : α → α → Prop} {S : β → β → Prop} {l l' : List α}
    {m m' : List β} (h : List.Forall₂ R l l') (k : List.Forall₂ S m m') :
    List.Forall₂ (fun p p' => R p.1 p'.1 ∧ S p.2 p'.2) (l.zip m) (l'.zip m') := by
  induction h generalizing m m' with
  | nil => exact .nil
  | cons ha _ ih =>
    cases k with
    | nil => exact .nil
    | cons hb hs => exact .cons ⟨ha, hb⟩ (ih hs)

omit [Runtime ℚ] in
theorem mem_ng_of_keeps {l m : List Verdict} (h : List.Forall₂ KeepsNg l m)
    (hmem : Verdict.ng ∈ l) : Verdict.ng ∈ m := by
  induction h with
  | nil => cases hmem
  | cons hab _ ih =>
    rcases List.mem_cons.mp hmem with heq | hmem
    · exact List.mem_cons.mpr (.inl (hab heq.symm).symm)
    · exact List.mem_cons_of_mem _ (ih hmem)

theorem infer_mono (hlib : LawfulArrayLibrary lib) {aggregation : JsonFields ℚ}
    {views views' : List ScoredView} (h : List.Forall₂ ScoredView.Raised views views')
    {result : StationScores} (hresult : infer lib aggregation views = .ok result) :
    ∃ result', infer lib aggregation views' = .ok result' ∧
      List.Forall₂ (· ≤ ·) result.viewRawScores result'.viewRawScores ∧
      List.Forall₂ KeepsNg result.viewVerdicts result'.viewVerdicts ∧
      KeepsNg result.verdict result'.verdict := by
  unfold infer at hresult ⊢
  obtain ⟨raws, hraws, hresult⟩ := bind_ok.mp hresult
  obtain ⟨judged, hjudged, hresult⟩ := bind_ok.mp hresult
  have hraw : ∀ v v' : ScoredView, v.Raised v' → ∀ x, viewRawScore lib aggregation v = .ok x →
      ∃ x', viewRawScore lib aggregation v' = .ok x' ∧ x ≤ x' :=
    fun _ _ hr _ hx => raw_score_mono hlib hr hx
  have hjudge : ∀ p p' : ScoredView × ℚ, p.1.Raised p'.1 ∧ p.2 ≤ p'.2 →
      ∀ j, judgeView p.1 p.2 = .ok j → ∃ j', judgeView p'.1 p'.2 = .ok j' ∧
        (j.1 ≤ j'.1 ∧ KeepsNg j.2 j'.2) :=
    fun _ _ hr _ hj => judge_view_mono hr.1 hr.2 hj
  obtain ⟨raws', hraws', hles⟩ := map_m_related hraw h hraws
  obtain ⟨judged', hjudged', hrels⟩ := map_m_related hjudge (forall₂_zip h hles) hjudged
  have hverdicts : List.Forall₂ KeepsNg (judged.map Prod.snd) (judged'.map Prod.snd) := by
    rw [List.forall₂_map_left_iff, List.forall₂_map_right_iff]
    exact hrels.imp fun _ _ hr => hr.2
  rw [hraws']
  simp only [bind, Except.bind]
  rw [hjudged']
  -- both stations have a view, so that both have a greatest score
  cases hmax : (judged.map Prod.fst).max? with
  | none =>
    simp only [hmax] at hresult
    cases hresult
  | some score =>
    simp only [hmax] at hresult
    cases hresult
    have hne : judged'.map Prod.fst ≠ [] := by
      intro hnil
      have hlength := hrels.length_eq
      rw [List.map_eq_nil_iff.mp hnil, List.length_nil, List.length_eq_zero_iff] at hlength
      rw [hlength] at hmax
      cases hmax
    obtain ⟨score', hmax'⟩ := Option.isSome_iff_exists.mp (List.isSome_max?_of_ne_nil hne)
    simp only [hmax']
    refine ⟨_, rfl, hles, hverdicts, fun hng => ?_⟩
    dsimp only at hng ⊢
    by_cases hmem : Verdict.ng ∈ judged.map Prod.snd
    · rw [if_pos (mem_ng_of_keeps hverdicts hmem)]
    · rw [if_neg hmem] at hng
      cases hng

/-- Maps that are nowhere smaller have scores that are nowhere smaller, and no view and no station
that was NG is a PASS. -/
theorem more_anomaly_stays_ng (hlib : LawfulArrayLibrary lib) (aggregation : JsonFields ℚ) :
    (∀ (maps maps' center denominator : Tensor) (scores : List ℚ), maps.Below maps' →
        spatialViewScores lib maps center denominator aggregation = .ok scores →
        ∃ scores', spatialViewScores lib maps' center denominator aggregation = .ok scores' ∧
          List.Forall₂ (· ≤ ·) scores scores') ∧
      ∀ (views views' : List ScoredView) (result : StationScores),
        List.Forall₂ ScoredView.Raised views views' →
        infer lib aggregation views = .ok result →
        ∃ result', infer lib aggregation views' = .ok result' ∧
          List.Forall₂ (· ≤ ·) result.viewRawScores result'.viewRawScores ∧
          List.Forall₂ KeepsNg result.viewVerdicts result'.viewVerdicts ∧
          KeepsNg result.verdict result'.verdict :=
  ⟨fun _ _ _ _ _ hbelow hscores => view_scores_mono hlib hbelow hscores,
    fun _ _ _ hraised hresult => infer_mono hlib hraised hresult⟩

end

def oneView (maps : Tensor) : ScoredView where
  view := "top"
  maps := maps
  center := twoPatches.center
  denominator := twoPatches.denominator
  threshold := .float 2

def raisedMap : Tensor := ⟨[1, 1, 2], [9, 4], rfl⟩

theorem one_map_below : oneMap.Below raisedMap where
  shape_eq := rfl
  le := .cons (by decide +kernel) (.cons (le_refl _) .nil)

theorem one_map_stays_ng :
    (∃ scores', @spatialViewScores Runtime.exact sortingLibrary raisedMap twoPatches.center
        twoPatches.denominator topKPolicy = .ok scores' ∧ List.Forall₂ (· ≤ ·) [3] scores') ∧
      ∃ result', @infer Runtime.exact sortingLibrary topKPolicy [oneView raisedMap] =
          .ok result' ∧
        List.Forall₂ (· ≤ ·) [3] result'.viewRawScores ∧
        List.Forall₂ KeepsNg [.ng] result'.viewVerdicts ∧ KeepsNg .ng result'.verdict :=
  ⟨(@more_anomaly_stays_ng Runtime.exact sortingLibrary sorting_library_lawful topKPolicy).1
      oneMap raisedMap twoPatches.center twoPatches.denominator [3] one_map_below
      (by decide +kernel),
    (@more_anomaly_stays_ng Runtime.exact sortingLibrary sorting_library_lawful topKPolicy).2
      [oneView oneMap] [oneView raisedMap]
      { verdict := .ng, score := 3 / 2, viewVerdicts := [.ng], viewScores := [3 / 2]
        viewRawScores := [3] }
      (.cons ⟨rfl, rfl, rfl, rfl, one_map_below⟩ .nil) (by decide +kernel)⟩

end InspectionLine
