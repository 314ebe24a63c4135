import InspectionLine.FprThresholds
import Mathlib.Data.Bool.Count
import Mathlib.Data.List.MinMax
import Mathlib.Data.Prod.Lex
import Mathlib.Data.String.Basic

/-! # The selection of a scoring policy

Every normalization is tried with every aggregation: calibrated on one set of normal products, its
thresholds taken from a second, its errors counted on two validation sets. The policy of fewest
errors is built into the artifact with the calibrations and thresholds it was judged by. -/
namespace InspectionLine

open OrderStatistics SuccessfulRuns

/-- What the tools take from the libraries beyond the scores: statistics of arrays and of
predictions beside the true labels. -/
structure ToolLibrary extends ArrayLibrary where
  median : List ℚ → ℚ
  std : List ℚ → ℚ
  sqrt : ℚ → ℚ
  confusionMatrix : List Bool → List Bool → ℕ × ℕ × ℕ × ℕ
  recallScore : List Bool → List Bool → ℚ
  precisionScore : List Bool → List Bool → ℚ
  accuracyScore : List Bool → List Bool → ℚ

instance : Coe ToolLibrary ArrayLibrary := ⟨ToolLibrary.toArrayLibrary⟩

/-- The median is the fiftieth percentile, a deviation is never negative, and the matrix counts
the pairs of a label and a prediction, those of the label false first. -/
structure LawfulToolLibrary (lib : ToolLibrary) : Prop
    extends LawfulArrayLibrary lib where
  median_eq : ∀ l, l ≠ [] → lib.median l = OrderStatistics.percentile l 50
  std_nonneg : ∀ l, 2 ≤ l.length → 0 ≤ lib.std l
  confusion_eq : ∀ labels predictions, labels.length = predictions.length →
    lib.confusionMatrix labels predictions =
      ((labels.zip predictions).countP (fun pair => !pair.1 && !pair.2),
        (labels.zip predictions).countP (fun pair => !pair.1 && pair.2),
        (labels.zip predictions).countP (fun pair => pair.1 && !pair.2),
        (labels.zip predictions).countP (fun pair => pair.1 && pair.2))

/-! ### Calibration -/

/-- `values[:, k]`, with the patches of a map in one row. -/
def Tensor.column (t : Tensor) (patches k : ℕ) : List ℚ :=
  (List.range (t.shape.headD 0)).map fun i => t.values.getD (i * patches + k) 0

/-- How the numbers of a patch come from its column, and the reference of all patches. -/
structure PatchScales where
  center : List ℚ → ℚ
  rawScale : List ℚ → ℚ
  reference : ℚ
  denominator : List ℚ → ℚ

section
variable [Runtime ℚ] (lib : ToolLibrary)

def positiveMedian (values : List ℚ) (name : String) : Except ScoringError ℚ := do
  let positive := values.filter (0 < ·)
  checkScoring .runtimeError (!positive.isEmpty) (name ++ "에 유한한 양수 scale이 없습니다.")
  checkScoring .runtimeError (0 < lib.median positive)
    (name ++ " reference scale이 안전하지 않습니다.")
  return lib.median positive

def deviationDenominator (columns : List (List ℚ)) (normalization : JsonFields ℚ)
    (reference : ℚ) : Except ScoringError (List ℚ → ℚ) := do
  let option := fun field => do pyFloat (← normalization.item field)
  if normalization.method = "epsilon" then
    let epsilon := (← option "epsilon_ratio") * reference
    return fun column => lib.std column + epsilon
  else if normalization.method = "std_floor" then
    let floor := (← option "std_floor_ratio") * reference
    return fun column => max (lib.std column) floor
  else
    let shrinkage ← option "shrinkage_lambda"
    checkValue (0 ≤ shrinkage && shrinkage ≤ 1) "shrinkage_lambda는 0~1이어야 합니다."
    let globalVariance := lib.mean (columns.map fun column => lib.std column ^ 2)
    let epsilonNumeric := max (1 / 10 ^ 12) (1 / 10 ^ 6 * reference)
    return fun column =>
      lib.sqrt ((1 - shrinkage) * lib.std column ^ 2 + shrinkage * globalVariance) +
        epsilonNumeric

def scaledMad (column : List ℚ) : ℚ :=
  1.4826 * lib.median (column.map fun x => |x - lib.median column|)

def patchScales (columns : List (List ℚ)) (normalization : JsonFields ℚ) :
    Except ScoringError PatchScales := do
  if normalization.method ∈ ["epsilon", "std_floor", "shrinkage"] then
    let reference ← positiveMedian lib (columns.map lib.std) "std"
    let denominator ← deviationDenominator lib columns normalization reference
    return { center := lib.mean, rawScale := lib.std, reference, denominator }
  else if normalization.method = "mad" then
    let reference ← positiveMedian lib (columns.map (scaledMad lib)) "scaled MAD"
    let epsilon := (← pyFloat (← normalization.item "mad_epsilon_ratio")) * reference
    return {
      center := lib.median
      rawScale := scaledMad lib
      reference
      denominator := fun column => scaledMad lib column + epsilon }
  else if normalization.method = "none" then
    return {
      center := fun _ => 0, rawScale := fun _ => 1, reference := 1, denominator := fun _ => 1 }
  else .error {
    kind := .builtin .valueError
    text := "알 수 없는 normalization method: " ++ normalization.method }

def buildSpatialCalibration (calibrationAMaps : Tensor) (normalization : JsonFields ℚ) :
    Except ScoringError SpatialCalibration :=
  match calibrationAMaps.shape with
  | [n, h, w] => do
    checkValue (2 ≤ n) "calibration A map은 finite [N,H,W]이고 N>=2여야 합니다."
    validateNormalizationConfig normalization true
    let columns := (List.range (h * w)).map (calibrationAMaps.column (h * w))
    let scales ← patchScales lib columns normalization
    checkScoring .runtimeError (columns.all fun column => 0 < scales.denominator column)
      "spatial denominator는 모두 양수여야 합니다."
    return {
      center := ⟨[h, w], columns.map scales.center, by simp [columns]⟩
      denominator := ⟨[h, w], columns.map scales.denominator, by simp [columns]⟩
      rawScale := ⟨[h, w], columns.map scales.rawScale, by simp [columns]⟩
      gridShape := (h, w)
      scaleReference := scales.reference
      sampleCount := n
      center_shape := rfl
      denominator_shape := rfl
      raw_scale_shape := rfl }
  | _ => .error {
      kind := .builtin .valueError
      text := "calibration A map은 finite [N,H,W]이고 N>=2여야 합니다." }

structure SafeCalibration (calibration : SpatialCalibration) : Prop where
  denominator_pos : ∀ d ∈ calibration.denominator.values, 0 < d
  raw_scale_nonneg : ∀ x ∈ calibration.rawScale.values, 0 ≤ x
  reference_pos : 0 < calibration.scaleReference
  sample_count : 2 ≤ calibration.sampleCount

variable {lib}

omit [Runtime ℚ] in
theorem positive_median_pos {values : List ℚ} {name : String} {reference : ℚ}
    (h : positiveMedian lib values name = .ok reference) : 0 < reference := by
  obtain ⟨_, _, h⟩ := bind_ok.mp h
  obtain ⟨_, hpositive, h⟩ := bind_ok.mp h
  cases h
  exact of_decide_eq_true (check_scoring_ok.mp hpositive)

omit [Runtime ℚ] in
theorem scaled_mad_nonneg (hlib : LawfulToolLibrary lib) {column : List ℚ} (hne : column ≠ []) :
    0 ≤ scaledMad lib column := by
  have hne' : (column.map fun x => |x - lib.median column|) ≠ [] :=
    fun h => hne (List.map_eq_nil_iff.mp h)
  have hmedian : 0 ≤ lib.median (column.map fun x => |x - lib.median column|) := by
    rw [hlib.median_eq _ hne']
    refine percentile_nonneg (by norm_num) fun x hx => ?_
    obtain ⟨y, _, rfl⟩ := List.mem_map.mp hx
    exact abs_nonneg _
  exact mul_nonneg (by norm_num) hmedian

/-- The reference is positive, and no scale of two or more maps is negative. -/
theorem patch_scales_spec (hlib : LawfulToolLibrary lib) {columns : List (List ℚ)}
    {normalization : JsonFields ℚ} {scales : PatchScales}
    (h : patchScales lib columns normalization = .ok scales) :
    0 < scales.reference ∧ ∀ column : List ℚ, 2 ≤ column.length → 0 ≤ scales.rawScale column := by
  unfold patchScales at h
  split at h
  · obtain ⟨reference, hreference, h⟩ := bind_ok.mp h
    obtain ⟨denominator, _, h⟩ := bind_ok.mp h
    cases h
    exact ⟨positive_median_pos hreference, hlib.std_nonneg⟩
  split at h
  · obtain ⟨reference, hreference, h⟩ := bind_ok.mp h
    obtain ⟨value, _, h⟩ := bind_ok.mp h
    obtain ⟨ratio, _, h⟩ := bind_ok.mp h
    cases h
    refine ⟨positive_median_pos hreference, fun column hcolumn => ?_⟩
    exact scaled_mad_nonneg hlib (List.ne_nil_of_length_pos (by omega))
  split at h
  · cases h
    exact ⟨one_pos, fun _ _ => zero_le_one⟩
  · cases h

/-- A calibration has the grid of its maps and numbers that the Vision node accepts. -/
theorem build_calibration_spec (hlib : LawfulToolLibrary lib) {maps : Tensor}
    {normalization : JsonFields ℚ} {calibration : SpatialCalibration} {n h w : ℕ}
    (hshape : maps.shape = [n, h, w])
    (hbuild : buildSpatialCalibration lib maps normalization = .ok calibration) :
    calibration.gridShape = (h, w) ∧ SafeCalibration calibration := by
  unfold buildSpatialCalibration at hbuild
  split at hbuild
  · rename_i n' h' w' hshape'
    obtain ⟨rfl, rfl, rfl⟩ : n' = n ∧ h' = h ∧ w' = w := by simpa [hshape] using hshape'.symm
    obtain ⟨_, hsamples, hbuild⟩ := bind_ok.mp hbuild
    obtain ⟨_, _, hbuild⟩ := bind_ok.mp hbuild
    obtain ⟨scales, hscales, hbuild⟩ := bind_ok.mp hbuild
    obtain ⟨_, hpositive, hbuild⟩ := bind_ok.mp hbuild
    cases hbuild
    have hsamples : 2 ≤ n' := of_decide_eq_true (check_scoring_ok.mp hsamples)
    obtain ⟨hreference, hraw⟩ := patch_scales_spec hlib hscales
    refine ⟨rfl, fun d hd => ?_, fun x hx => ?_, hreference, hsamples⟩
    · obtain ⟨column, hcolumn, rfl⟩ := List.mem_map.mp hd
      exact of_decide_eq_true
        (List.all_eq_true.mp (check_scoring_ok.mp hpositive) column hcolumn)
    · obtain ⟨column, hcolumn, rfl⟩ := List.mem_map.mp hx
      obtain ⟨k, _, rfl⟩ := List.mem_map.mp hcolumn
      refine hraw _ ?_
      rw [Tensor.column, List.length_map, List.length_range, hshape]
      exact hsamples
  · cases hbuild

end

/-! ### The scores of the products -/

inductive Split where
  | calibrationSetA | calibrationSetB | validationNormal | validationAnomaly
  deriving DecidableEq, Repr

/-- The maps of one view, all of one grid. -/
structure ViewMaps (products : Split → ℕ) where
  view : String
  grid : ℕ × ℕ
  maps : Split → Tensor
  shape_eq : ∀ split, (maps split).shape = [products split, grid.1, grid.2]

structure RawMaps (products : Split → ℕ) where
  views : List (ViewMaps products)
  names_nodup : (views.map ViewMaps.view).Nodup

/-- `maps[i : i + 1]`. -/
def Tensor.single (t : Tensor) (i : ℕ) : Tensor where
  shape := 1 :: t.shape.tail
  values := (List.range t.shape.tail.prod).map fun k => t.values.getD (i * t.shape.tail.prod + k) 0
  size_eq := by simp

/-- A calibrated view with the scores of the other products. -/
structure ScoredMaps where
  view : String
  calibration : SpatialCalibration
  calibrationBScores : List ℚ
  validationNormalScores : List ℚ
  validationAnomalyScores : List ℚ

def ScoredMaps.scores (scored : ScoredMaps) : Split → List ℚ
  | .calibrationSetA => []
  | .calibrationSetB => scored.calibrationBScores
  | .validationNormal => scored.validationNormalScores
  | .validationAnomaly => scored.validationAnomalyScores

def scoresByView (scored : List ScoredMaps) (split : Split) : OrderedDict String (List ℚ) :=
  .collect ScoredMaps.view (ScoredMaps.scores · split) scored

/-- `mapping[key]`. -/
def orKeyError {α : Type} (value : Option α) (key : String) : Except ScoringError α :=
  match value with
  | some value => .ok value
  | none => .error { kind := .keyError, text := key }

/-! ### Errors counted -/

structure ProductMetrics where
  accuracy : ℚ
  f1 : ℚ
  recallScore : ℚ
  precision : ℚ
  fpr : ℚ
  tn : ℕ
  fp : ℕ
  fn : ℕ
  tp : ℕ
  deriving DecidableEq, Repr

section
variable (lib : ToolLibrary)

def productMetrics (normalPredictions anomalyPredictions : List Bool) : ProductMetrics :=
  let labels := List.replicate normalPredictions.length false ++
    List.replicate anomalyPredictions.length true
  let predictions := normalPredictions ++ anomalyPredictions
  let (tn, fp, fn, tp) := lib.confusionMatrix labels predictions
  let recallScore := lib.recallScore labels predictions
  let precision := lib.precisionScore labels predictions
  { accuracy := lib.accuracyScore labels predictions
    f1 := if precision + recallScore = 0 then 0
      else 2 * precision * recallScore / (precision + recallScore)
    recallScore
    precision
    fpr := if fp + tn = 0 then 0 else (fp : ℚ) / (fp + tn : ℕ)
    tn, fp, fn, tp }

theorem zip_replicate_label (label : Bool) (marks : List Bool) :
    (List.replicate marks.length label).zip marks = marks.map (label, ·) := by
  induction marks with
  | nil => rfl
  | cons mark rest ih =>
    rw [List.length_cons, List.replicate_succ, List.zip_cons_cons, ih, List.map_cons]

variable {lib} in
theorem fpr_eq_share (hlib : LawfulToolLibrary lib) (normal anomaly : List Bool) :
    (productMetrics lib normal anomaly).fpr = trueShare normal := by
  have hlength : (List.replicate normal.length false ++ List.replicate anomaly.length true).length =
      (normal ++ anomaly).length := by simp
  have hzip : (List.replicate normal.length false ++ List.replicate anomaly.length true).zip
      (normal ++ anomaly) = normal.map (false, ·) ++ anomaly.map (true, ·) := by
    rw [List.zip_append (by simp), zip_replicate_label, zip_replicate_label]
  have hmarked : ∀ marks : List Bool, marks.countP (fun mark => mark) = marks.count true := by
    intro marks
    exact List.countP_congr fun mark _ => by cases mark <;> decide
  have hunmarked : ∀ marks : List Bool, marks.countP (fun mark => !mark) = marks.count false := by
    intro marks
    exact List.countP_congr fun mark _ => by cases mark <;> decide
  have hall := List.count_true_add_count_false normal
  have hmatrix := hlib.confusion_eq _ _ hlength
  rw [hzip] at hmatrix
  simp only [productMetrics, hmatrix, List.countP_append, List.countP_map, Function.comp_def,
    Bool.not_false, Bool.true_and, Bool.not_true, Bool.false_and, hmarked, hunmarked,
    List.countP_false, Function.const_apply, Nat.add_zero, hall]
  rw [trueShare]
  by_cases hempty : normal.length = 0
  · rw [if_pos hempty, hempty, Nat.cast_zero, div_zero]
  · rw [if_neg hempty]

def splitPredictions (scores : OrderedDict String (List ℚ)) (thresholds : List (String × ℚ)) :
    Except ScoringError (List Bool) := do
  let judged ← thresholds.mapM fun (view, threshold) => do
    return (← orKeyError (scores.get? view) view, threshold)
  return predictions (scores.values.headD []).length judged

def evaluateProductScores (normalScoresByView anomalyScoresByView : OrderedDict String (List ℚ))
    (thresholds : List (String × ℚ)) : Except ScoringError ProductMetrics := do
  return productMetrics lib (← splitPredictions normalScoresByView thresholds)
    (← splitPredictions anomalyScoresByView thresholds)

end

/-! ### One candidate -/

structure Candidate where
  candidateId : String
  normalization : JsonFields ℚ
  aggregation : JsonFields ℚ
  eligibleForSelection : Bool

structure JudgedPolicy extends Candidate where
  found : FprThresholds
  validationMetrics : ProductMetrics

structure CandidateRecord extends JudgedPolicy where
  validationPostprocessP95Ms : ℚ
  normalizationComplexity : ℕ

def normalizationComplexity? : String → Option ℕ
  | "std_floor" => some 0
  | "epsilon" => some 1
  | "shrinkage" => some 2
  | "mad" => some 3
  | "none" => some 99
  | _ => none

def targetProductFpr : ℚ := 0.1

section
variable [Runtime ℚ] (lib : ToolLibrary) {products : Split → ℕ}

def toolScores (maps : Tensor) (calibration : SpatialCalibration) (aggregation : JsonFields ℚ) :
    Except ScoringError (List ℚ) := do
  aggregateMapsNumpy lib (← normalizeMapsNumpy maps calibration) aggregation

def scoreView (normalization aggregation : JsonFields ℚ) (m : ViewMaps products) :
    Except ScoringError ScoredMaps := do
  let calibration ← buildSpatialCalibration lib (m.maps .calibrationSetA) normalization
  return {
    view := m.view
    calibration
    calibrationBScores := ← toolScores lib (m.maps .calibrationSetB) calibration aggregation
    validationNormalScores := ←
      toolScores lib (m.maps .validationNormal) calibration aggregation
    validationAnomalyScores := ←
      toolScores lib (m.maps .validationAnomaly) calibration aggregation }

/-- The products of the validation sets are scored once more, each alone, for the time it takes. -/
def scoreSingles (raw : RawMaps products) (scored : List ScoredMaps)
    (aggregation : JsonFields ℚ) : Except ScoringError Unit :=
  [Split.validationNormal, .validationAnomaly].forM fun split =>
    (List.range (products split)).forM fun i =>
      (raw.views.zip scored).forM fun (m, s) => do
        let _ ← toolScores lib ((m.maps split).single i) s.calibration aggregation

/-- `postprocess_ms` are the measured times. -/
def scoreCandidate (raw : RawMaps products) (candidate : Candidate) (postprocessMs : List ℚ) :
    Except ScoringError (CandidateRecord × List ScoredMaps) := do
  let scored ← raw.views.mapM
    (scoreView lib candidate.normalization candidate.aggregation)
  let found ← findProductFprThresholds lib (scoresByView scored .calibrationSetB) targetProductFpr
  let validationMetrics ← evaluateProductScores lib (scoresByView scored .validationNormal)
    (scoresByView scored .validationAnomaly) found.thresholds
  scoreSingles lib raw scored candidate.aggregation
  let validationPostprocessP95Ms ← lib.percentile 95 postprocessMs
  let method := candidate.normalization.method
  let normalizationComplexity ← orKeyError (normalizationComplexity? method) method
  return ({
    toCandidate := candidate
    found, validationMetrics, validationPostprocessP95Ms, normalizationComplexity }, scored)

/-! ### All candidates -/

def normalizationCandidates : List (JsonFields ℚ) :=
  (epsilonRatioCandidates.map fun ratio =>
      [("method", .str "epsilon"), ("epsilon_ratio", .float ratio)]) ++
    ([0.05, 0.1, 0.2].map fun ratio =>
      [("method", .str "std_floor"), ("std_floor_ratio", .float ratio)]) ++
    ([0.05, 0.1, 0.25, 0.5].map fun shrinkage =>
      [("method", .str "shrinkage"), ("shrinkage_lambda", .float shrinkage)]) ++
    [0.001, 0.01, 0.1].map fun ratio =>
      [("method", .str "mad"), ("mad_epsilon_ratio", .float ratio)]

def aggregationCandidates : List (JsonFields ℚ) :=
  (mapPercentileCandidates.map fun value =>
      [("method", .str "percentile"), ("percentile", .float value)]) ++
    topKPercentCandidates.map fun value =>
      [("method", .str "top_k_percent_average"), ("top_k_percent", .float value),
        ("rounding", .str "ceil"), ("minimum_patch_count", .int 1)]

/-- `f"candidate-{number:03d}"`. -/
def candidateId (number : ℕ) : String :=
  "candidate-" ++ String.ofList ((Nat.toDigits 10 number).leftpad 3 '0')

def baselineId : String := "baseline-legacy-patchcore"

/-- Candidates of different names. Those that may be selected have an approved normalization. -/
structure CandidateSet [Runtime ℚ] where
  candidates : List Candidate
  ids_nodup : (baselineId :: candidates.map Candidate.candidateId).Nodup
  ids_nonempty : ∀ c ∈ candidates, c.candidateId ≠ ""
  approved : ∀ c ∈ candidates, c.eligibleForSelection = true →
    validateNormalizationConfig c.normalization false = .ok ()

/-- What the manifest says of a candidate. -/
inductive CandidateEntry where
  | baseline (judged : JudgedPolicy)
  | valid (record : CandidateRecord)
  | invalid (candidate : Candidate) (error : String)

/-- The scores by which the tool is compared with its predecessor; they are never selected. -/
def baselineRecord (legacyScores : Split → OrderedDict String (List ℚ)) :
    Except ScoringError JudgedPolicy := do
  let found ← findProductFprThresholds lib (legacyScores .calibrationSetB) targetProductFpr
  return {
    candidateId := baselineId
    eligibleForSelection := false
    normalization := [("method", .str "legacy_reweighted_image_score")]
    aggregation := [("method", .str "legacy_max_patch_reweighting")]
    found
    validationMetrics := ← evaluateProductScores lib (legacyScores .validationNormal)
      (legacyScores .validationAnomaly) found.thresholds }

def candidateSortKey (record : CandidateRecord) : ℚ ×ₗ ℚ ×ₗ ℚ ×ₗ ℕ ×ₗ String :=
  toLex (-record.validationMetrics.recallScore, toLex (record.validationMetrics.fpr,
    toLex (record.validationPostprocessP95Ms,
      toLex (record.normalizationComplexity, record.candidateId))))

/-- A candidate that cannot be scored is kept with the reason. -/
def tryCandidate (raw : RawMaps products) (postprocessMs : String → List ℚ)
    (candidate : Candidate) : Except ScoringError CandidateEntry :=
  match scoreCandidate lib raw candidate (postprocessMs candidate.candidateId) with
  | .ok (record, _) => .ok (.valid record)
  | .error e =>
    if e.kind = .runtimeError ∨ e.kind = .builtin .valueError then .ok (.invalid candidate e.text)
    else .error e

def CandidateEntry.eligible? : CandidateEntry → Option CandidateRecord
  | .valid record =>
    if record.eligibleForSelection ∧ record.validationMetrics.fpr ≤ targetProductFpr then
      some record
    else none
  | .baseline _ | .invalid _ _ => none

structure ArtifactView where
  view : String
  patchGridShape : ℕ × ℕ
  threshold : ℚ
  calibration : SpatialCalibration
  calibrationBScores : List ℚ

/-- The scoring policy in the manifest, and how it was selected. -/
structure ScoringArtifact where
  views : List ArtifactView
  normalization : JsonFields ℚ
  aggregation : JsonFields ℚ
  targetProductFpr : ℚ
  thresholdPercentile : ℚ
  selectedCandidateId : String
  selectedValidationMetrics : ProductMetrics
  candidates : List CandidateEntry
  calibrationBCount : ℕ

def artifactView (thresholds : List (String × ℚ)) (pair : ViewMaps products × ScoredMaps) :
    Except ScoringError ArtifactView := do
  return {
    view := pair.1.view
    patchGridShape := pair.1.grid
    threshold := ← orKeyError (thresholds.lookup pair.1.view) pair.1.view
    calibration := pair.2.calibration
    calibrationBScores := pair.2.calibrationBScores }

def constructArtifact (raw : RawMaps products)
    (legacyScores : Split → OrderedDict String (List ℚ)) (postprocessMs : String → List ℚ)
    (repeatedMs : List ℚ) (tried : CandidateSet) : Except ScoringError ScoringArtifact := do
  checkValue (100 ≤ products .calibrationSetB)
    ("calibration_set_B는 100개 이상이어야 합니다: actual=" ++
      toString (products .calibrationSetB))
  let baseline ← baselineRecord lib legacyScores
  let entries ← tried.candidates.mapM (tryCandidate lib raw postprocessMs)
  match (entries.filterMap CandidateEntry.eligible?).argmin candidateSortKey with
  | none => .error {
      kind := .runtimeError
      text := "validation product FPR 10% 이하를 만족하는 후보가 없습니다." }
  | some selected => do
    let (repeated, scored) ← scoreCandidate lib raw
      { selected.toCandidate with eligibleForSelection := true } repeatedMs
    checkScoring .runtimeError (repeated.found.thresholds = selected.found.thresholds)
      "선택 후보 재계산 threshold가 달라졌습니다."
    return {
      views := ← (raw.views.zip scored).mapM (artifactView selected.found.thresholds)
      normalization := selected.normalization
      aggregation := selected.aggregation
      targetProductFpr
      thresholdPercentile := selected.found.percentile
      selectedCandidateId := selected.candidateId
      selectedValidationMetrics := selected.validationMetrics
      candidates := .baseline baseline :: entries
      calibrationBCount := products .calibrationSetB }

variable {lib}

/-! ### One product of a set -/

omit [Runtime ℚ] in
/-- Brought to the common scale, the map of one product is its row of the whole set. -/
theorem rows_single {maps : Tensor} {n h w i : ℕ} (hshape : maps.shape = [n, h, w]) (hi : i < n)
    (center denominator : Tensor) :
    ((maps.single i).normalize center denominator).rows =
      [(maps.normalize center denominator).rows.getD i []] := by
  have htail : maps.shape.tail.prod = h * w := by rw [hshape]; simp
  have hsize : maps.values.length = n * (h * w) := by rw [maps.size_eq, hshape]; simp
  have hfits : i * (h * w) + h * w ≤ n * (h * w) := by
    rw [← Nat.succ_mul]
    exact Nat.mul_le_mul_right _ hi
  have hrow : (maps.normalize center denominator).rows.getD i [] =
      ((maps.normalize center denominator).values.drop (i * (h * w))).take (h * w) := by
    have hlength : i < (maps.normalize center denominator).rows.length := by
      rw [(rows_spec (t := maps.normalize center denominator) hshape).1]
      exact hi
    rw [List.getD_eq_getElem _ _ hlength]
    simp only [Tensor.rows, List.getElem_map, List.getElem_range, Tensor.normalize, htail]
  have hone : ((maps.single i).normalize center denominator).rows =
      [((maps.single i).normalize center denominator).values] := by
    have hall : ((maps.single i).normalize center denominator).values.length = h * w := by
      rw [Tensor.size_eq, ← htail]
      simp [Tensor.normalize, Tensor.single]
    simp only [Tensor.rows, Tensor.normalize, Tensor.single, List.headD_cons, List.tail_cons, htail,
      List.range_one, List.map_cons, List.map_nil, Nat.zero_mul, List.drop_zero]
    rw [List.take_of_length_le]
    simp
  rw [hone, hrow]
  refine congrArg (fun row => [row]) (List.ext_getElem ?_ fun k hk hk' => ?_)
  · simp only [Tensor.normalize, Tensor.single, List.length_mapIdx, List.length_map,
      List.length_range, List.length_take, List.length_drop, htail]
    omega
  · have hk : k < h * w := by
      simpa [Tensor.normalize, Tensor.single, htail] using hk
    have hplace : i * (h * w) + k < maps.values.length := by omega
    have hmod : (i * (h * w) + k) % (h * w) = k % (h * w) := by
      rw [Nat.add_comm, Nat.add_mul_mod_self_right]
    simp only [Tensor.normalize, Tensor.single, List.getElem_mapIdx, List.getElem_map,
      List.getElem_range, List.getElem_take, List.getElem_drop, List.tail_cons, htail,
      List.getD_eq_getElem _ _ hplace, hmod]

omit [Runtime ℚ] in
theorem map_m_one {f : List ℚ → Except ScoringError ℚ} {rows : List (List ℚ)} {scores : List ℚ}
    (h : rows.mapM f = .ok scores) {i : ℕ} (hi : i < rows.length) :
    [rows.getD i []].mapM f = .ok [scores.getD i 0] := by
  have hall := map_m_forall₂.mp h
  have hi' : i < scores.length := hall.length_eq ▸ hi
  have hrow : f rows[i] = .ok scores[i] := List.Forall₂.get hall hi hi'
  rw [List.getD_eq_getElem _ _ hi, List.getD_eq_getElem _ _ hi', List.mapM_cons, hrow]
  rfl

/-- A product alone has the score that it has in its set. -/
theorem view_scores_single {maps : Tensor} {n h w i : ℕ} (hshape : maps.shape = [n, h, w])
    (hi : i < n) {center denominator : Tensor} {aggregation : JsonFields ℚ} {scores : List ℚ}
    (hscores : spatialViewScores lib maps center denominator aggregation = .ok scores) :
    spatialViewScores lib (maps.single i) center denominator aggregation =
      .ok [scores.getD i 0] := by
  have hrank : (maps.single i).shape.length = maps.shape.length := by
    simp [Tensor.single, hshape]
  have htail : (maps.single i).shape.tail = maps.shape.tail := rfl
  have hlength : i < (maps.normalize center denominator).rows.length := by
    rw [(rows_spec (t := maps.normalize center denominator) hshape).1]
    exact hi
  unfold spatialViewScores checkContract at hscores ⊢
  rw [hrank, htail]
  obtain ⟨_, hrank, hscores⟩ := bind_ok.mp hscores
  obtain ⟨_, hgrid, hscores⟩ := bind_ok.mp hscores
  obtain ⟨_, hunsafe, hscores⟩ := bind_ok.mp hscores
  rw [hrank, hgrid, hunsafe, rows_single hshape hi]
  change (if aggregation.method = "percentile" then _ else _) = _
  by_cases hpercentile : aggregation.method = "percentile"
  · rw [if_pos hpercentile] at hscores ⊢
    obtain ⟨p, hp, hscores⟩ := bind_ok.mp hscores
    obtain ⟨_, hrange, hscores⟩ := bind_ok.mp hscores
    rw [hp]
    simp only [bind, Except.bind]
    rw [hrange]
    by_cases hhundred : p = 100
    · simp only [if_pos hhundred] at hscores ⊢
      exact map_m_one hscores hlength
    · simp only [if_neg hhundred] at hscores ⊢
      exact map_m_one hscores hlength
  rw [if_neg hpercentile] at hscores ⊢
  by_cases htop : aggregation.method = "top_k_percent_average"
  · rw [if_pos htop] at hscores ⊢
    obtain ⟨p, hp, hscores⟩ := bind_ok.mp hscores
    obtain ⟨_, hrange, hscores⟩ := bind_ok.mp hscores
    rw [hp]
    simp only [bind, Except.bind]
    rw [hrange]
    exact map_m_one hscores hlength
  · rw [if_neg htop] at hscores
    cases hscores

/-! ### A calibrated view -/

/-- Scores are one for each map, by an approved aggregation. -/
theorem tool_scores_spec {maps : Tensor} {calibration : SpatialCalibration} {n : ℕ}
    (hshape : maps.shape = [n, calibration.gridShape.1, calibration.gridShape.2])
    {aggregation : JsonFields ℚ} {scores : List ℚ}
    (hscores : toolScores lib maps calibration aggregation = .ok scores) :
    validateAggregationConfig aggregation = .ok () ∧ scores.length = n := by
  obtain ⟨t, ht, hscores⟩ := bind_ok.mp hscores
  obtain ⟨_, _, ht⟩ := bind_ok.mp ht
  cases ht
  have hrows := (rows_spec
    (t := maps.normalize calibration.center calibration.denominator) hshape).1
  unfold aggregateMapsNumpy at hscores
  obtain ⟨_, _, hscores⟩ := bind_ok.mp hscores
  obtain ⟨_, haccepted, hscores⟩ := bind_ok.mp hscores
  obtain ⟨value, _, hscores⟩ := bind_ok.mp hscores
  refine ⟨haccepted, ?_⟩
  rw [← hrows]
  dsimp only at hscores
  split at hscores
  · obtain ⟨_, _, hscores⟩ := bind_ok.mp hscores
    obtain ⟨_, _, hscores⟩ := bind_ok.mp hscores
    obtain ⟨_, _, hscores⟩ := bind_ok.mp hscores
    exact (map_m_forall₂.mp hscores).length_eq.symm
  split at hscores
  · obtain ⟨_, _, hscores⟩ := bind_ok.mp hscores
    obtain ⟨_, _, hscores⟩ := bind_ok.mp hscores
    obtain ⟨_, _, hscores⟩ := bind_ok.mp hscores
    exact (map_m_forall₂.mp hscores).length_eq.symm
  · cases hscores

variable (lib) in
structure ScoredBy (aggregation : JsonFields ℚ) (m : ViewMaps products) (scored : ScoredMaps) :
    Prop where
  view_eq : scored.view = m.view
  grid_eq : scored.calibration.gridShape = m.grid
  safe : SafeCalibration scored.calibration
  scores_eq : ∀ split, split ≠ .calibrationSetA →
    toolScores lib (m.maps split) scored.calibration aggregation = .ok (scored.scores split)

theorem score_view_spec (hlib : LawfulToolLibrary lib)
    {normalization aggregation : JsonFields ℚ} {m : ViewMaps products} {scored : ScoredMaps}
    (hscored : scoreView lib normalization aggregation m = .ok scored) :
    ScoredBy lib aggregation m scored := by
  obtain ⟨calibration, hcalibration, hscored⟩ := bind_ok.mp hscored
  obtain ⟨calibrationB, hcalibrationB, hscored⟩ := bind_ok.mp hscored
  obtain ⟨normal, hnormal, hscored⟩ := bind_ok.mp hscored
  obtain ⟨anomaly, hanomaly, hscored⟩ := bind_ok.mp hscored
  cases hscored
  obtain ⟨hgrid, hsafe⟩ := build_calibration_spec hlib (m.shape_eq _) hcalibration
  refine ⟨rfl, hgrid, hsafe, fun split hsplit => ?_⟩
  cases split with
  | calibrationSetA => exact absurd rfl hsplit
  | calibrationSetB => exact hcalibrationB
  | validationNormal => exact hnormal
  | validationAnomaly => exact hanomaly

section
variable {aggregation : JsonFields ℚ} {m : ViewMaps products} {scored : ScoredMaps}
  (h : ScoredBy lib aggregation m scored) {split : Split}
include h

theorem ScoredBy.shape_eq : (m.maps split).shape =
    [products split, scored.calibration.gridShape.1, scored.calibration.gridShape.2] := by
  rw [h.grid_eq]
  exact m.shape_eq split

variable (hsplit : split ≠ .calibrationSetA)
include hsplit

theorem ScoredBy.length_eq : (scored.scores split).length = products split :=
  (tool_scores_spec h.shape_eq (h.scores_eq split hsplit)).2

/-- The Vision node gives a product the score that the tool gave it. -/
theorem ScoredBy.node_score (hlib : LawfulArrayLibrary lib) {i : ℕ} (hi : i < products split) :
    spatialViewScores lib ((m.maps split).single i) scored.calibration.center
      scored.calibration.denominator aggregation = .ok [(scored.scores split).getD i 0] := by
  have hshape : (m.maps split).shape = [products split, scored.calibration.gridShape.1,
      scored.calibration.gridShape.2] := h.shape_eq
  have haccepted := (tool_scores_spec hshape (h.scores_eq split hsplit)).1
  have hsame := (scores_by_rows hlib scored.calibration h.safe.denominator_pos
    (Nat.zero_lt_of_lt hi) hshape haccepted).1
  have htools : (normalizeMapsNumpy (m.maps split) scored.calibration >>= fun t =>
      aggregateMapsNumpy lib t aggregation) = .ok (scored.scores split) :=
    h.scores_eq split hsplit
  exact view_scores_single hshape hi (ok_of_same hsame htools)

end

/-! ### A scored candidate -/

section
variable {scored : List ScoredMaps} (hnodup : (scored.map ScoredMaps.view).Nodup)
include hnodup

omit [Runtime ℚ] in
theorem scores_entries (split : Split) : (scoresByView scored split).entries =
    scored.map fun s => (s.view, s.scores split) := OrderedDict.entries_collect _ hnodup

omit [Runtime ℚ] in
theorem scores_values (split : Split) :
    (scoresByView scored split).values = scored.map (ScoredMaps.scores · split) := by
  rw [OrderedDict.values, scores_entries hnodup, List.map_map]
  rfl

omit [Runtime ℚ] in
theorem split_predictions_eq {split : Split} {n : ℕ} (hne : scored ≠ [])
    (hlength : ∀ s ∈ scored, (s.scores split).length = n) (threshold : ScoredMaps → ℚ) :
    splitPredictions (scoresByView scored split) (scored.map fun s => (s.view, threshold s)) =
      .ok ((List.range n).map fun i =>
        scored.any fun s => threshold s < (s.scores split).getD i 0) := by
  have hjudged : (scored.map fun s => (s.view, threshold s)).mapM (fun (view, threshold) => do
      return (← orKeyError ((scoresByView scored split).get? view) view, threshold)) =
      .ok (scored.map fun s => (s.scores split, threshold s)) := by
    rw [map_m_forall₂, List.forall₂_map_left_iff, List.forall₂_map_right_iff, List.forall₂_same]
    intro s hs
    have hget : (scoresByView scored split).get? s.view = some (s.scores split) := by
      rw [OrderedDict.get?_eq_some, scores_entries hnodup]
      exact List.mem_map_of_mem hs
    dsimp only
    rw [hget]
    rfl
  have hcount : ((scoresByView scored split).values.headD []).length = n := by
    obtain ⟨s, rest, rfl⟩ := List.exists_cons_of_ne_nil hne
    rw [scores_values hnodup]
    exact hlength s List.mem_cons_self
  have hlengths : ∀ view ∈ scored.map fun s => (s.scores split, threshold s),
      view.1.length = n := by
    intro view hview
    obtain ⟨s, hs, rfl⟩ := List.mem_map.mp hview
    exact hlength s hs
  unfold splitPredictions
  rw [hjudged]
  simp only [bind, Except.bind, pure, Except.pure]
  rw [hcount, predictions, foldl_mark_above hlengths (List.length_replicate ..)]
  refine congrArg Except.ok (List.map_congr_left fun i hi => ?_)
  simp [List.mem_range.mp hi, List.any_map, Function.comp_def]

end

omit [Runtime ℚ] in
theorem find_thresholds_nonempty {lib : ArrayLibrary}
    {scores : OrderedDict String (List ℚ)} {target : ℚ}
    {found : FprThresholds} (hfound : findProductFprThresholds lib scores target = .ok found) :
    scores.values ≠ [] ∧ 100 ≤ (scores.values.headD []).length := by
  obtain ⟨_, hsizes, hfound⟩ := bind_ok.mp hfound
  obtain ⟨_, hcount, _⟩ := bind_ok.mp hfound
  refine ⟨fun hnil => ?_, of_decide_eq_true (check_scoring_ok.mp hcount)⟩
  have hone := of_decide_eq_true (check_scoring_ok.mp hsizes)
  rw [hnil] at hone
  cases hone

variable (lib) in
structure ScoredCandidate (raw : RawMaps products) (candidate : Candidate)
    (record : CandidateRecord) (scored : List ScoredMaps) : Prop where
  candidate_eq : record.toCandidate = candidate
  views_eq : raw.views.mapM
    (scoreView lib candidate.normalization candidate.aggregation) = .ok scored
  found_eq : findProductFprThresholds lib (scoresByView scored .calibrationSetB) targetProductFpr =
    .ok record.found
  metrics_eq : evaluateProductScores lib (scoresByView scored .validationNormal)
    (scoresByView scored .validationAnomaly) record.found.thresholds =
    .ok record.validationMetrics

theorem score_candidate_spec {raw : RawMaps products} {candidate : Candidate} {ms : List ℚ}
    {record : CandidateRecord} {scored : List ScoredMaps}
    (h : scoreCandidate lib raw candidate ms = .ok (record, scored)) :
    ScoredCandidate lib raw candidate record scored := by
  obtain ⟨scored', hscored, h⟩ := bind_ok.mp h
  obtain ⟨found, hfound, h⟩ := bind_ok.mp h
  obtain ⟨metrics, hmetrics, h⟩ := bind_ok.mp h
  obtain ⟨_, _, h⟩ := bind_ok.mp h
  obtain ⟨_, _, h⟩ := bind_ok.mp h
  obtain ⟨_, _, h⟩ := bind_ok.mp h
  cases h
  exact ⟨rfl, hscored, hfound, hmetrics⟩

def thresholdOf (record : CandidateRecord) (s : ScoredMaps) : ℚ :=
  percentile s.calibrationBScores record.found.percentile

/-- The products of a set that are above the threshold of some view. -/
def marks (record : CandidateRecord) (scored : List ScoredMaps) (n : ℕ) (split : Split) :
    List Bool :=
  (List.range n).map fun i =>
    scored.any fun s => thresholdOf record s < (s.scores split).getD i 0

section
variable {raw : RawMaps products} {candidate : Candidate} {record : CandidateRecord}
  {scored : List ScoredMaps} (hlib : LawfulToolLibrary lib)
  (h : ScoredCandidate lib raw candidate record scored)
include hlib h

theorem ScoredCandidate.scored_by :
    List.Forall₂ (ScoredBy lib candidate.aggregation) raw.views scored :=
  (map_m_forall₂.mp h.views_eq).imp fun _ _ hscored => score_view_spec hlib hscored

theorem ScoredCandidate.names_nodup : (scored.map ScoredMaps.view).Nodup := by
  have hnames : scored.map ScoredMaps.view = raw.views.map ViewMaps.view := by
    refine List.forall₂_eq_eq_eq ▸ ?_
    rw [List.forall₂_map_left_iff, List.forall₂_map_right_iff]
    exact (h.scored_by hlib).flip.imp fun _ _ hby => hby.view_eq
  rw [hnames]
  exact raw.names_nodup

omit hlib in
theorem ScoredCandidate.nonempty : scored ≠ [] := by
  rintro rfl
  exact (find_thresholds_nonempty h.found_eq).1 rfl

theorem ScoredCandidate.length_eq {split : Split} (hsplit : split ≠ .calibrationSetA) :
    ∀ s ∈ scored, (s.scores split).length = products split := by
  intro s hs
  obtain ⟨m, _, hby⟩ := exists_of_mem_right (h.scored_by hlib) hs
  exact hby.length_eq hsplit

theorem ScoredCandidate.thresholds_eq :
    record.found.thresholds = scored.map (fun s => (s.view, thresholdOf record s)) ∧
      (∀ s ∈ scored, 0 < thresholdOf record s) ∧ record.found.fpr ≤ targetProductFpr ∧
      record.found.fpr =
        fprAt (scored.map ScoredMaps.calibrationBScores) (products .calibrationSetB)
          record.found.percentile := by
  have hentries := scores_entries (h.names_nodup hlib) .calibrationSetB
  have hvalues := scores_values (h.names_nodup hlib) .calibrationSetB
  have hne : (scoresByView scored .calibrationSetB).entries ≠ [] := by
    rw [hentries]
    exact fun hnil => h.nonempty (List.map_eq_nil_iff.mp hnil)
  have hlength : ∀ array ∈ (scoresByView scored .calibrationSetB).values,
      array.length = products .calibrationSetB := by
    intro array harray
    rw [hvalues] at harray
    obtain ⟨s, hs, rfl⟩ := List.mem_map.mp harray
    exact h.length_eq hlib (by decide) s hs
  have hcount : 100 ≤ products .calibrationSetB := by
    obtain ⟨hvalues, hcount⟩ := find_thresholds_nonempty h.found_eq
    obtain ⟨array, rest, hcons⟩ := List.exists_cons_of_ne_nil hvalues
    rw [hcons] at hcount
    exact (hlength array (hcons ▸ List.mem_cons_self)) ▸ hcount
  obtain ⟨heq, _, ⟨hpositive, hfew⟩, _⟩ :=
    found_first_feasible hlib.toLawfulArrayLibrary hne hcount hlength h.found_eq
  rw [hvalues] at hpositive hfew
  have hfpr : record.found.fpr = fprAt (scored.map (ScoredMaps.scores · .calibrationSetB))
      (products .calibrationSetB) record.found.percentile := by
    rw [heq, ← hvalues]
    rfl
  refine ⟨?_, fun s hs => hpositive _ (List.mem_map_of_mem hs), hfpr.trans_le hfew, hfpr⟩
  rw [heq, thresholdsAt, hentries, List.map_map]
  rfl

theorem ScoredCandidate.metrics_eq_marks : record.validationMetrics =
    productMetrics lib (marks record scored (products .validationNormal) .validationNormal)
      (marks record scored (products .validationAnomaly) .validationAnomaly) := by
  have hmetrics := h.metrics_eq
  unfold evaluateProductScores at hmetrics
  rw [(h.thresholds_eq hlib).1,
    split_predictions_eq (h.names_nodup hlib) h.nonempty (h.length_eq hlib (by decide))
      (thresholdOf record),
    split_predictions_eq (h.names_nodup hlib) h.nonempty (h.length_eq hlib (by decide))
      (thresholdOf record)] at hmetrics
  exact (Except.ok.inj hmetrics).symm

theorem ScoredCandidate.share_eq :
    trueShare (marks record scored (products .calibrationSetB) .calibrationSetB) =
      record.found.fpr := by
  have hmarks : marks record scored (products .calibrationSetB) .calibrationSetB =
      (List.range (products .calibrationSetB)).map
        (flagged (scored.map ScoredMaps.calibrationBScores) record.found.percentile) := by
    refine List.map_congr_left fun i _ => ?_
    rw [flagged, List.any_map]
    rfl
  rw [(h.thresholds_eq hlib).2.2.2, trueShare, hmarks, fprAt, List.count, List.countP_map,
    List.length_map, List.length_range]
  simp [Function.comp_def]

end

end

end InspectionLine
