import InspectionLine.DeployedPolicy

/-! # The scoring policy of a manifest

What the Vision node asks of the scoring policy before it loads an artifact, and that every
artifact that the tool builds has it. -/
namespace InspectionLine

open OrderStatistics SuccessfulRuns

/-! ### Equality of decoded values -/

mutual

/-- `==` of decoded values whose fields are in one order. -/
def Json.same : Json ℚ → Json ℚ → Bool
  | .null, .null => true
  | .bool a, .bool b => a = b
  | .int a, .int b => a = b
  | .float a, .float b => a = b
  | .str a, .str b => a = b
  | .arr a, .arr b => sameItems a b
  | .obj a, .obj b => sameFields a b
  | _, _ => false

def sameItems : List (Json ℚ) → List (Json ℚ) → Bool
  | [], [] => true
  | a :: as, b :: bs => a.same b && sameItems as bs
  | _, _ => false

def sameFields : JsonFields ℚ → JsonFields ℚ → Bool
  | [], [] => true
  | (k, a) :: as, (k', b) :: bs => k = k' && (a.same b && sameFields as bs)
  | _, _ => false

end

mutual

theorem Json.same_self : ∀ value : Json ℚ, value.same value = true
  | .null => rfl
  | .bool _ | .int _ | .float _ | .str _ => decide_eq_true rfl
  | .arr items => same_items_self items
  | .obj fields => same_fields_self fields

theorem same_items_self : ∀ items : List (Json ℚ), sameItems items items = true
  | [] => rfl
  | item :: items => by
    rw [sameItems, item.same_self, same_items_self items]
    rfl

theorem same_fields_self : ∀ fields : JsonFields ℚ, sameFields fields fields = true
  | [] => rfl
  | (key, value) :: fields => by
    rw [sameFields, value.same_self, same_fields_self fields, decide_eq_true rfl]
    rfl

end

/-! ### The checks of the Vision node -/

def CandidateEntry.candidate : CandidateEntry → Candidate
  | .baseline judged => judged.toCandidate
  | .valid record => record.toCandidate
  | .invalid candidate _ => candidate

def ScoringArtifact.thresholds (artifact : ScoringArtifact) : List (String × ℚ) :=
  artifact.views.map fun view => (view.view, view.threshold)

def CandidateEntry.judged? : CandidateEntry → Option JudgedPolicy
  | .baseline judged => some judged
  | .valid record => some record.toJudgedPolicy
  | .invalid _ _ => none

def differsFromPolicy (artifact : ScoringArtifact) (entry : CandidateEntry) : Bool :=
  match entry.judged? with
  | none => true
  | some judged =>
    !judged.eligibleForSelection || !sameFields judged.normalization artifact.normalization ||
      !sameFields judged.aggregation artifact.aggregation ||
      judged.found.thresholds ≠ artifact.thresholds ||
      judged.found.percentile ≠ artifact.thresholdPercentile ||
      artifact.targetProductFpr < judged.found.fpr ||
      artifact.targetProductFpr < judged.validationMetrics.fpr

def loadSpatialCalibration (calibration : SpatialCalibration) (expectedGrid : ℕ × ℕ) :
    Except ScoringError Unit := do
  checkContract (calibration.center.shape.length = 2 &&
      calibration.center.shape = calibration.denominator.shape &&
      calibration.center.shape = calibration.rawScale.shape)
    "spatial calibration map shapes differ"
  checkContract (calibration.gridShape = expectedGrid &&
      calibration.center.shape = [calibration.gridShape.1, calibration.gridShape.2])
    "spatial calibration grid differs"
  checkContract (calibration.denominator.values.all fun d => 0 < d)
    "spatial denominator is not positive"
  checkContract (calibration.rawScale.values.all fun x => 0 ≤ x)
    "spatial raw scale is negative"
  checkContract (0 < calibration.scaleReference && 2 ≤ calibration.sampleCount)
    "spatial calibration metadata is unsafe"

/-- The directory of one view, its spatial calibration included. -/
def validateArtifactView (view : ArtifactView) : Except ScoringError Unit := do
  checkContract (0 < view.threshold) (view.view ++ ": threshold is invalid")
  checkContract (1 ≤ min view.patchGridShape.1 view.patchGridShape.2)
    (view.view ++ ": patch grid shape is invalid")
  checkContract (100 ≤ view.calibrationBScores.length)
    (view.view ++ ": calibration B scores are invalid")
  loadSpatialCalibration view.calibration view.patchGridShape

def validateSelection (artifact : ScoringArtifact) : Except ScoringError Unit := do
  checkContract (artifact.selectedCandidateId ≠ "") "artifact candidate selection is missing"
  match artifact.candidates.filter
      fun entry => entry.candidate.candidateId = artifact.selectedCandidateId with
  | [entry] =>
    checkContract (!differsFromPolicy artifact entry)
      "artifact selected candidate differs from policy"
  | _ => .error {
      kind := .artifactContractError, text := "artifact selected candidate is not unique" }

section
variable [Runtime ℚ]

/-- The part of the checks of a manifest that is about its scores. -/
def validateManifest (artifact : ScoringArtifact) : Except ScoringError Unit := do
  validateSpatialPolicyOptions (.obj artifact.normalization) (.obj artifact.aggregation)
  checkContract (artifact.targetProductFpr = 0.01 || artifact.targetProductFpr = 0.1)
    "artifact v3 decision policy is invalid"
  artifact.views.forM validateArtifactView
  validateSelection artifact
  match artifact.views with
  | [] => .error { kind := .indexError, text := "list index out of range" }
  | view :: _ =>
    checkContract (artifact.calibrationBCount = view.calibrationBScores.length)
      "artifact calibration B sample policy is invalid"

/-! ### What the tool writes -/

variable {lib : ToolLibrary} {products : Split → ℕ}

omit [Runtime ℚ] in
theorem np_percentile_nonempty (hlib : LawfulToolLibrary lib) {p x : ℚ} {row : List ℚ}
    (h : lib.percentile p row = .ok x) : row ≠ [] := by
  rintro rfl
  exact ne_ok_of_to_option (hlib.percentile_nil p) x h

theorem patches_pos (hlib : LawfulToolLibrary lib) {maps : Tensor}
    {calibration : SpatialCalibration} {n : ℕ} (hn : 0 < n)
    (hshape : maps.shape = [n, calibration.gridShape.1, calibration.gridShape.2])
    {aggregation : JsonFields ℚ} {scores : List ℚ}
    (hscores : toolScores lib maps calibration aggregation = .ok scores) :
    0 < calibration.gridShape.1 * calibration.gridShape.2 := by
  obtain ⟨haccepted, -⟩ := tool_scores_spec hshape hscores
  obtain ⟨hlength, hpatches⟩ :=
    rows_spec (t := maps.normalize calibration.center calibration.denominator) hshape
  cases (accepted_cases haccepted).1 with
  | percentile value p hmethod hvalue hnumber hrange =>
    obtain ⟨row, rest, hcons⟩ := List.exists_cons_of_length_pos (hlength ▸ hn)
    have hrow : row ∈ (maps.normalize calibration.center calibration.denominator).rows :=
      hcons ▸ List.mem_cons_self
    obtain ⟨x, _, hx⟩ := mem_of_map_m
      ((tool_scores_percentile hshape haccepted hnumber hmethod hvalue hrange).symm.trans hscores)
      hrow
    rw [← hpatches row hrow]
    exact List.length_pos_iff.mpr (np_percentile_nonempty hlib hx)
  | topK value p hmethod hvalue hnumber hrange =>
    obtain ⟨k, hk, _⟩ := bind_ok.mp
      ((tool_scores_top_k hshape haccepted hnumber hmethod hvalue).symm.trans hscores)
    obtain ⟨_, hpositive, _⟩ := bind_ok.mp hk
    exact of_decide_eq_true (check_scoring_ok.mp hpositive)

omit [Runtime ℚ] in
theorem safe_calibration_loaded {calibration : SpatialCalibration}
    (h : SafeCalibration calibration) :
    loadSpatialCalibration calibration calibration.gridShape = .ok () := by
  have hshapes : (calibration.center.shape.length = 2 &&
      calibration.center.shape = calibration.denominator.shape &&
      calibration.center.shape = calibration.rawScale.shape) = true := by
    rw [calibration.center_shape, calibration.denominator_shape, calibration.raw_scale_shape]
    simp
  have hgrid : (calibration.gridShape = calibration.gridShape &&
      calibration.center.shape = [calibration.gridShape.1, calibration.gridShape.2]) = true := by
    rw [calibration.center_shape]
    simp
  have hdenominator : calibration.denominator.values.all (fun d => 0 < d) = true :=
    List.all_eq_true.mpr fun d hd => decide_eq_true (h.denominator_pos d hd)
  have hraw : calibration.rawScale.values.all (fun x => 0 ≤ x) = true :=
    List.all_eq_true.mpr fun x hx => decide_eq_true (h.raw_scale_nonneg x hx)
  have hmetadata : (0 < calibration.scaleReference && 2 ≤ calibration.sampleCount) = true := by
    rw [decide_eq_true h.reference_pos, decide_eq_true h.sample_count]
    rfl
  unfold loadSpatialCalibration checkContract
  rw [accepts_check, accepts_check, accepts_check, accepts_check, check_scoring_ok]
  exact ⟨hshapes, hgrid, hdenominator, hraw, hmetadata⟩

theorem artifact_view_accepted (hlib : LawfulToolLibrary lib) {aggregation : JsonFields ℚ}
    {selected : CandidateRecord} {pair : ViewMaps products × ArtifactView} {s : ScoredMaps}
    (h : DeployedAs lib aggregation selected pair s) (hpositive : 0 < thresholdOf selected s)
    (henough : 100 ≤ products .calibrationSetB) : validateArtifactView pair.2 = .ok () := by
  have hscores := h.scored.scores_eq .calibrationSetB (by decide)
  have hpatches := patches_pos hlib (by omega) h.scored.shape_eq hscores
  have hgrid : 1 ≤ min pair.2.patchGridShape.1 pair.2.patchGridShape.2 := by
    rw [h.grid_eq, ← h.scored.grid_eq]
    exact le_min (Nat.pos_of_mul_pos_right hpatches) (Nat.pos_of_mul_pos_left hpatches)
  have hcount : 100 ≤ pair.2.calibrationBScores.length := by
    have hlength : (s.scores .calibrationSetB).length = products .calibrationSetB :=
      h.scored.length_eq (by decide)
    rw [h.scores_eq]
    exact henough.trans_eq hlength.symm
  have hloaded : loadSpatialCalibration pair.2.calibration pair.2.patchGridShape = .ok () := by
    rw [h.calibration_eq, h.grid_eq, ← h.scored.grid_eq]
    exact safe_calibration_loaded h.scored.safe
  rw [← h.threshold_eq] at hpositive
  unfold validateArtifactView checkContract
  rw [accepts_check, accepts_check, accepts_check]
  exact ⟨decide_eq_true hpositive, decide_eq_true hgrid, decide_eq_true hcount, hloaded⟩

omit [Runtime ℚ] in
/-- Of distinct keys one stands for one element. -/
theorem filter_key_eq {α : Type} {key : α → String} {l : List α} (h : (l.map key).Nodup) {x : α}
    (hx : x ∈ l) : (l.filter fun y => key y = key x) = [x] := by
  induction l with
  | nil => cases hx
  | cons y l ih =>
    obtain ⟨hfirst, hrest⟩ := List.nodup_cons.mp h
    rcases List.mem_cons.mp hx with rfl | hx
    · rw [List.filter_cons_of_pos (p := fun y => key y = key x) (decide_eq_true rfl),
        List.filter_eq_nil_iff.mpr]
      intro z hz hsame
      exact hfirst (of_decide_eq_true hsame ▸ List.mem_map_of_mem hz)
    · have hother : key y ≠ key x := fun hsame => hfirst (hsame ▸ List.mem_map_of_mem hx)
      rw [List.filter_cons_of_neg (by simpa using hother), ih hrest hx]

theorem entries_candidates {raw : RawMaps products} {postprocessMs : String → List ℚ}
    {candidates : List Candidate} {entries : List CandidateEntry}
    (h : candidates.mapM (tryCandidate lib raw postprocessMs) = .ok entries) :
    entries.map CandidateEntry.candidate = candidates := by
  refine List.forall₂_eq_eq_eq ▸ ?_
  rw [List.forall₂_map_left_iff]
  refine (map_m_forall₂.mp h).flip.imp fun entry c htry => ?_
  unfold tryCandidate at htry
  split at htry
  · rename_i record scored hscore
    cases htry
    exact (score_candidate_spec hscore).candidate_eq
  · split at htry
    · cases htry
      rfl
    · cases htry

section
variable {raw : RawMaps products} {tried : CandidateSet} {postprocessMs : String → List ℚ}
  {artifact : ScoringArtifact} {selected : CandidateRecord} {scored : List ScoredMaps}
  {entries : List CandidateEntry}
  (hlib : LawfulToolLibrary lib)
  (h : Constructed lib raw tried postprocessMs artifact selected scored entries)
include hlib h

omit hlib in
theorem Constructed.view_deployed {view : ArtifactView} (hview : view ∈ artifact.views) :
    ∃ m : ViewMaps products, ∃ s ∈ scored,
      DeployedAs lib selected.aggregation selected (m, view) s := by
  have hmem : view ∈ (raw.views.zip artifact.views).map Prod.snd := by
    rw [List.map_snd_zip h.lengths_eq.le]
    exact hview
  obtain ⟨⟨m, _⟩, hpair, rfl⟩ := List.mem_map.mp hmem
  obtain ⟨s, hs, hdeployed⟩ := exists_of_mem_left h.views hpair
  exact ⟨m, s, hs, hdeployed⟩

theorem Constructed.thresholds_eq : artifact.thresholds = selected.found.thresholds := by
  have hzip : List.Forall₂ (· = ·)
      ((raw.views.zip artifact.views).map fun pair => (pair.2.view, pair.2.threshold))
      (scored.map fun s => (s.view, thresholdOf selected s)) := by
    rw [List.forall₂_map_left_iff, List.forall₂_map_right_iff]
    refine h.views.imp fun pair s hpair => ?_
    rw [hpair.view_eq, hpair.threshold_eq, hpair.scored.view_eq]
  rw [List.forall₂_eq_eq_eq] at hzip
  rw [(h.candidate.thresholds_eq hlib).1, ← hzip, ScoringArtifact.thresholds]
  conv_lhs => rw [← List.map_snd_zip h.lengths_eq.le, List.map_map]
  rfl

theorem Constructed.selection_accepted : validateSelection artifact = .ok () := by
  obtain ⟨hentry, hmay, hfew, hmem⟩ := h.eligible
  obtain ⟨baseline, hbaseline, hartifact⟩ := h.artifact_eq
  have hcandidates : artifact.candidates = .baseline baseline :: entries := by rw [hartifact]
  have hid : artifact.selectedCandidateId = selected.candidateId := by rw [hartifact]
  have hnodup : (artifact.candidates.map fun entry =>
      entry.candidate.candidateId).Nodup := by
    rw [hcandidates]
    have hids := tried.ids_nodup
    rw [← entries_candidates h.entries_eq, List.map_map, ← hbaseline] at hids
    exact hids
  have hone := filter_key_eq hnodup
    (hcandidates ▸ List.mem_cons_of_mem _ hentry : CandidateEntry.valid selected ∈ _)
  have hagrees : differsFromPolicy artifact (.valid selected) = false := by
    have hfpr := (h.candidate.thresholds_eq hlib).2.2.1
    have hthresholds := h.thresholds_eq hlib
    rw [hartifact] at hthresholds ⊢
    simp only [differsFromPolicy, CandidateEntry.judged?, hmay, same_fields_self, hthresholds,
      not_lt.mpr hfpr, not_lt.mpr hfew]
    simp
  unfold validateSelection checkContract
  rw [accepts_check, hid]
  refine ⟨decide_eq_true (tried.ids_nonempty _ hmem), ?_⟩
  rw [show (fun entry : CandidateEntry =>
    decide (entry.candidate.candidateId = selected.candidateId)) = fun entry =>
      decide (entry.candidate.candidateId =
        (CandidateEntry.valid selected).candidate.candidateId) from rfl, hone]
  dsimp only
  rw [hagrees]
  rfl

end

/-- The Vision node accepts the scoring policy of every artifact that the tool builds. -/
theorem constructed_policy_accepted (hlib : LawfulToolLibrary lib) {raw : RawMaps products}
    {legacyScores : Split → OrderedDict String (List ℚ)} {postprocessMs : String → List ℚ}
    {repeatedMs : List ℚ} {tried : CandidateSet} {artifact : ScoringArtifact}
    (hconstruct : constructArtifact lib raw legacyScores postprocessMs repeatedMs tried =
      .ok artifact) : validateManifest artifact = .ok () := by
  obtain ⟨selected, scored, entries, h⟩ := construct_artifact_spec hlib hconstruct
  obtain ⟨hentry, hmay, hfew, hmem⟩ := h.eligible
  obtain ⟨baseline, _, hartifact⟩ := h.artifact_eq
  obtain ⟨s, hs⟩ := List.exists_mem_of_ne_nil _ h.candidate.nonempty
  obtain ⟨m, _, hby⟩ := exists_of_mem_right (h.candidate.scored_by hlib) hs
  have haggregation :=
    (tool_scores_spec hby.shape_eq (hby.scores_eq .calibrationSetB (by decide))).1
  have hpolicy : validateSpatialPolicyOptions (.obj artifact.normalization)
      (.obj artifact.aggregation) = .ok () := by
    rw [policy_options_ok, normalizations_agree, aggregations_agree, hartifact]
    exact ⟨tried.approved _ hmem hmay, haggregation⟩
  have hviews : artifact.views.forM validateArtifactView = .ok () := by
    refine for_m_ok.mpr fun view hview => ?_
    obtain ⟨m, s, hs, hdeployed⟩ := h.view_deployed hview
    exact artifact_view_accepted hlib hdeployed ((h.candidate.thresholds_eq hlib).2.1 s hs)
      h.enough
  have htarget : (artifact.targetProductFpr = 0.01 || artifact.targetProductFpr = 0.1) = true := by
    rw [hartifact]
    exact Bool.or_eq_true_iff.mpr (.inr (decide_eq_true rfl))
  unfold validateManifest
  refine bind_ok.mpr ⟨(), hpolicy, accepts_check.mpr ⟨htarget, bind_ok.mpr ⟨(), hviews,
    bind_ok.mpr ⟨(), h.selection_accepted hlib, ?_⟩⟩⟩⟩
  cases hcases : artifact.views with
  | nil =>
    have hlength := h.lengths_eq
    rw [hcases, (h.candidate.scored_by hlib).length_eq] at hlength
    exact absurd (List.length_eq_zero_iff.mp hlength.symm) h.candidate.nonempty
  | cons view rest =>
    obtain ⟨m, s, hs, hdeployed⟩ := h.view_deployed (hcases ▸ List.mem_cons_self : view ∈ _)
    refine check_scoring_ok.mpr (decide_eq_true ?_)
    rw [hdeployed.scores_eq]
    have hlength : s.calibrationBScores.length = products .calibrationSetB :=
      hdeployed.scored.length_eq (by decide : Split.calibrationSetB ≠ .calibrationSetA)
    rw [hlength, hartifact]

end

theorem one_patch_accepted : ∃ artifact, onePatchArtifact = .ok artifact ∧
    @validateManifest Runtime.exact artifact = .ok () := by
  obtain ⟨artifact, hartifact⟩ := one_patch_built
  exact ⟨artifact, hartifact, @constructed_policy_accepted Runtime.exact sortingTools
    hundredProducts sorting_tools_lawful onePatch _ _ _ oneCandidate artifact hartifact⟩

/-! ### The candidates of the tool -/

section
variable [Runtime ℚ]

/-- A method with a positive approved value no greater than one. -/
theorem approved_option {method field : String} {allowed : List ℚ} {value : ℚ}
    (hkeys : expectedKeys? method = some ["method", field]) (hfield : field ≠ "method")
    (hnone : method ≠ "none") (hallowed : allowedValues? method = some allowed)
    (hmem : value ∈ allowed) (hpositive : 0 < value) (hone : value ≤ 1) :
    validateNormalizationConfig [("method", .str method), (field, .float value)] false =
      .ok () := by
  have hmethod : JsonFields.method [("method", .str method), (field, .float value)] = method := rfl
  have hitem : JsonFields.item [("method", .str method), (field, .float value)] field =
      .ok (.float value) := by
    have hother : (field == "method") = false := beq_eq_false_iff_ne.mpr hfield
    simp [JsonFields.item, JsonFields.field?, List.lookup_cons, hother]
  have hoption : checkOptionValue method field value = .ok () := by
    unfold checkOptionValue
    rw [hallowed]
    refine accepts_check.mpr ⟨?_, accepts_check.mpr ⟨?_, check_scoring_ok.mpr ?_⟩⟩
    · simp [DecimalFloats.isFinite, DecimalFloats.le, DecimalFloats.literal, hpositive]
    · simp [DecimalFloats.lt, DecimalFloats.literal, hone]
    · exact is_one_of_iff.mpr ⟨value, hmem, decide_eq_true rfl⟩
  have hkeysAre : JsonFields.keysAre [("method", .str method), (field, .float value)]
      ["method", field] = true := decide_eq_true rfl
  have hfind : ["method", field].find? (· ≠ "method") = some field := by
    simp [hfield]
  unfold validateNormalizationConfig
  rw [hmethod]
  dsimp only
  rw [hkeys]
  dsimp only
  refine accepts_check.mpr ⟨hkeysAre, ?_⟩
  rw [if_neg hnone, hfind]
  dsimp only
  rw [hitem]
  exact hoption

theorem normalization_candidates_approved {normalization : JsonFields ℚ}
    (h : normalization ∈ normalizationCandidates) :
    validateNormalizationConfig normalization false = .ok () := by
  have hepsilon : ∀ value ∈ epsilonRatioCandidates, 0 < value ∧ value ≤ 1 := by decide +kernel
  have hfloor : ∀ value ∈ [(0.05 : ℚ), 0.1, 0.2], 0 < value ∧ value ≤ 1 := by decide +kernel
  have hshrinkage : ∀ value ∈ [(0.05 : ℚ), 0.1, 0.25, 0.5], 0 < value ∧ value ≤ 1 := by
    decide +kernel
  have hmad : ∀ value ∈ [(0.001 : ℚ), 0.01, 0.1], 0 < value ∧ value ≤ 1 := by decide +kernel
  unfold normalizationCandidates at h
  rw [List.mem_append, List.mem_append, List.mem_append, List.mem_map, List.mem_map,
    List.mem_map, List.mem_map] at h
  rcases h with ((⟨value, hmem, rfl⟩ | ⟨value, hmem, rfl⟩) | ⟨value, hmem, rfl⟩) |
    ⟨value, hmem, rfl⟩
  · exact approved_option rfl (by decide) (by decide) rfl hmem (hepsilon value hmem).1
      (hepsilon value hmem).2
  · exact approved_option rfl (by decide) (by decide) rfl hmem (hfloor value hmem).1
      (hfloor value hmem).2
  · exact approved_option rfl (by decide) (by decide) rfl hmem (hshrinkage value hmem).1
      (hshrinkage value hmem).2
  · exact approved_option rfl (by decide) (by decide) rfl hmem (hmad value hmem).1
      (hmad value hmem).2

omit [Runtime ℚ] in
theorem candidate_id_chars (n : ℕ) :
    (candidateId n).toList = "candidate-".toList ++ (Nat.toDigits 10 n).leftpad 3 '0' := by
  rw [candidateId, String.toList_append]
  exact congrArg _ String.toList_ofList

omit [Runtime ℚ] in
theorem candidate_id_injective : Function.Injective candidateId := by
  intro m n h
  have hread : ∀ k, Nat.ofDigitChars 10 ((Nat.toDigits 10 k).leftpad 3 '0') 0 = k := by
    intro k
    rw [List.leftpad, Nat.ofDigitChars_append, Nat.ofDigitChars_replicate_zero, Nat.mul_zero,
      Nat.ofDigitChars_ten_toDigits]
  have hchars := congrArg String.toList h
  rw [candidate_id_chars, candidate_id_chars] at hchars
  rw [← hread m, List.append_cancel_left hchars, hread n]

omit [Runtime ℚ] in
theorem candidate_id_ne {text : String} (h : text.toList.head? ≠ some 'c') (n : ℕ) :
    candidateId n ≠ text := by
  rintro rfl
  rw [candidate_id_chars] at h
  exact h rfl

/-- All normalizations with all aggregations, and whether they may be selected: maps as they are
are only compared with. -/
def spatialPolicies : List (JsonFields ℚ × Bool × JsonFields ℚ) :=
  (([("method", .str "none")], false) :: normalizationCandidates.map (·, true)).flatMap
    fun normalization =>
      aggregationCandidates.map fun aggregation => (normalization.1, normalization.2, aggregation)

def numbered (policies : List (JsonFields ℚ × Bool × JsonFields ℚ)) : List Candidate :=
  policies.mapIdx fun i policy => {
    candidateId := candidateId (i + 1)
    normalization := policy.1
    aggregation := policy.2.2
    eligibleForSelection := policy.2.1 }

omit [Runtime ℚ] in
theorem numbered_ids (policies : List (JsonFields ℚ × Bool × JsonFields ℚ)) :
    (numbered policies).map Candidate.candidateId =
      (List.range policies.length).map fun i => candidateId (i + 1) := by
  refine List.ext_getElem (by simp [numbered]) fun i hi hi' => ?_
  simp [numbered]

def spatialCandidates : CandidateSet where
  candidates := numbered spatialPolicies
  ids_nodup := by
    rw [numbered_ids, List.nodup_cons]
    constructor
    · intro hmem
      obtain ⟨i, _, hid⟩ := List.mem_map.mp hmem
      exact candidate_id_ne (by decide) (i + 1) hid
    · exact List.Nodup.map (fun i j h => Nat.succ_injective (candidate_id_injective h))
        List.nodup_range
  ids_nonempty := by
    intro c hc
    obtain ⟨i, _, hid⟩ := List.mem_map.mp (numbered_ids _ ▸ List.mem_map_of_mem hc)
    exact hid ▸ candidate_id_ne (by decide) (i + 1)
  approved := by
    intro c hc hmay
    obtain ⟨i, hi, rfl⟩ := List.mem_mapIdx.mp hc
    obtain ⟨normalization, hmem, haggregation⟩ := List.mem_flatMap.mp (List.getElem_mem hi)
    obtain ⟨aggregation, _, heq⟩ := List.mem_map.mp haggregation
    rw [← heq] at hmay ⊢
    rcases List.mem_cons.mp hmem with rfl | hmem
    · cases hmay
    · obtain ⟨approved, happroved, rfl⟩ := List.mem_map.mp hmem
      exact normalization_candidates_approved happroved

end

end InspectionLine
