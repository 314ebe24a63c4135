import InspectionLine.CandidateSelection
import Mathlib.Data.Rat.Sqrt

/-! # The artifact at the stations

The Vision node scores one product at a time, a station at a time, with what the artifact has for
each view. Its verdicts are those by which the policy was selected. -/
namespace InspectionLine

open OrderStatistics SuccessfulRuns

section
variable [Runtime ℚ] (lib : ToolLibrary) {products : Split → ℕ}

def deployedView (split : Split) (i : ℕ) (pair : ViewMaps products × ArtifactView) :
    ScoredView where
  view := pair.1.view
  maps := (pair.1.maps split).single i
  center := pair.2.calibration.center
  denominator := pair.2.calibration.denominator
  threshold := .float pair.2.threshold

def stationResult (artifact : ScoringArtifact) (split : Split) (i : ℕ)
    (station : List (ViewMaps products × ArtifactView)) : Except ScoringError StationScores :=
  infer lib artifact.aggregation (station.map (deployedView split i))

/-- The products of a set that are NG at some station. -/
def deployedVerdicts (artifact : ScoringArtifact)
    (stations : List (List (ViewMaps products × ArtifactView))) (split : Split) : List Bool :=
  (List.range (products split)).map fun i => stations.any fun station =>
    (stationResult lib artifact split i station).toOption.any (·.verdict = .ng)

variable {lib}

/-! ### The verdict of a station -/

theorem judge_view_eq {v : ScoredView} {raw threshold : ℚ}
    (hthreshold : pyFloat v.threshold = .ok threshold) (hpositive : 0 < threshold) :
    judgeView v raw = .ok (raw / threshold, if threshold < raw then .ng else .pass) := by
  unfold judgeView checkContract checkScoring
  rw [hthreshold]
  simp only [bind, Except.bind, hpositive, decide_true, if_true]
  rfl

/-- With a score and a positive threshold for each of its views a station has a verdict, and it is
NG if and only if some score is above its threshold. -/
theorem infer_verdict {aggregation : JsonFields ℚ} {views : List ScoredView} (hviews : views ≠ [])
    (hscore : ∀ v ∈ views, ∃ raw, viewRawScore lib aggregation v = .ok raw)
    (hthreshold : ∀ v ∈ views, ∃ threshold, pyFloat v.threshold = .ok threshold ∧ 0 < threshold) :
    ∃ result, infer lib aggregation views = .ok result ∧ (result.verdict = .ng ↔
      ∃ v ∈ views, ∃ raw threshold, viewRawScore lib aggregation v = .ok raw ∧
        pyFloat v.threshold = .ok threshold ∧ threshold < raw) := by
  let score : ScoredView → ℚ := fun v => (viewRawScore lib aggregation v).toOption.getD 0
  let limit : ScoredView → ℚ := fun v => (pyFloat v.threshold).toOption.getD 0
  have hscore' : ∀ v ∈ views, viewRawScore lib aggregation v = .ok (score v) := by
    intro v hv
    obtain ⟨raw, hraw⟩ := hscore v hv
    simp only [score, hraw]
    rfl
  have hlimit : ∀ v ∈ views, pyFloat v.threshold = .ok (limit v) ∧ 0 < limit v := by
    intro v hv
    obtain ⟨threshold, heq, hpositive⟩ := hthreshold v hv
    simp only [limit, heq]
    exact ⟨rfl, hpositive⟩
  have hzip : views.zip (views.map score) = views.map fun v => (v, score v) := by
    rw [← List.map_id views, List.map_map, List.zip_map']
    simp
  have hjudged : (views.map fun v => (v, score v)).mapM (fun pair => judgeView pair.1 pair.2) =
      .ok (views.map fun v =>
        (score v / limit v, if limit v < score v then Verdict.ng else .pass)) := by
    rw [map_m_forall₂, List.forall₂_map_left_iff, List.forall₂_map_right_iff, List.forall₂_same]
    exact fun v hv => judge_view_eq (hlimit v hv).1 (hlimit v hv).2
  have hne : (views.map fun v => score v / limit v) ≠ [] :=
    fun h => hviews (List.map_eq_nil_iff.mp h)
  obtain ⟨top, htop⟩ := Option.isSome_iff_exists.mp (List.isSome_max?_of_ne_nil hne)
  have hnames : ∀ f : ℚ × Verdict → ℚ, (views.map fun v =>
      (score v / limit v, if limit v < score v then Verdict.ng else .pass)).map f =
      views.map fun v => f (score v / limit v, if limit v < score v then Verdict.ng else .pass) :=
    fun f => List.map_map
  unfold infer
  rw [map_m_eq hscore']
  simp only [bind, Except.bind]
  rw [hzip, hjudged]
  simp only [hnames, htop]
  refine ⟨_, rfl, ?_⟩
  dsimp only
  constructor
  · intro hng
    have hmem : Verdict.ng ∈ (views.map fun v => (score v / limit v,
        if limit v < score v then Verdict.ng else .pass)).map Prod.snd := by
      by_contra hmem
      rw [if_neg hmem] at hng
      cases hng
    rw [List.map_map] at hmem
    obtain ⟨v, hv, hverdict⟩ := List.mem_map.mp hmem
    refine ⟨v, hv, score v, limit v, hscore' v hv, (hlimit v hv).1, ?_⟩
    by_contra hover
    simp only [Function.comp_apply, if_neg hover] at hverdict
    cases hverdict
  · rintro ⟨v, hv, raw, threshold, hraw, heq, hover⟩
    rw [hscore' v hv] at hraw
    rw [(hlimit v hv).1] at heq
    cases hraw
    cases heq
    refine if_pos ?_
    rw [List.map_map]
    exact List.mem_map.mpr ⟨v, hv, if_pos hover⟩

/-! ### The artifact -/

variable (lib) in
/-- A view in the artifact has the calibration and the threshold that its maps were scored by. -/
structure DeployedAs (aggregation : JsonFields ℚ) (record : CandidateRecord)
    (pair : ViewMaps products × ArtifactView) (s : ScoredMaps) : Prop where
  scored : ScoredBy lib aggregation pair.1 s
  view_eq : pair.2.view = pair.1.view
  grid_eq : pair.2.patchGridShape = pair.1.grid
  calibration_eq : pair.2.calibration = s.calibration
  threshold_eq : pair.2.threshold = thresholdOf record s
  scores_eq : pair.2.calibrationBScores = s.calibrationBScores

omit [Runtime ℚ] in
theorem forall₂_zip_of {α β γ : Type} {R : α → β → Prop} {S : α × β → γ → Prop} {as : List α}
    {bs : List β} (h : List.Forall₂ R as bs) {cs : List γ} (k : List.Forall₂ S (as.zip bs) cs) :
    List.Forall₂ (fun pair b => R pair.1 b ∧ S (pair.1, b) pair.2) (as.zip cs) bs := by
  induction h generalizing cs with
  | nil => exact .nil
  | cons hab _ ih =>
    rw [List.zip_cons_cons] at k
    cases k with
    | cons hfirst hrest => exact .cons ⟨hab, hfirst⟩ (ih hrest)

variable (lib) in
structure Constructed (raw : RawMaps products) (tried : CandidateSet)
    (postprocessMs : String → List ℚ) (artifact : ScoringArtifact) (selected : CandidateRecord)
    (scored : List ScoredMaps) (entries : List CandidateEntry) : Prop where
  enough : 100 ≤ products .calibrationSetB
  entries_eq : tried.candidates.mapM (tryCandidate lib raw postprocessMs) = .ok entries
  selected_mem : selected ∈
    (entries.filterMap CandidateEntry.eligible?).argmin candidateSortKey
  candidate : ScoredCandidate lib raw selected.toCandidate selected scored
  views : List.Forall₂ (DeployedAs lib selected.aggregation selected)
    (raw.views.zip artifact.views) scored
  lengths_eq : artifact.views.length = raw.views.length
  artifact_eq : ∃ baseline : JudgedPolicy, baseline.candidateId = baselineId ∧ artifact = {
    views := artifact.views
    normalization := selected.normalization
    aggregation := selected.aggregation
    targetProductFpr
    thresholdPercentile := selected.found.percentile
    selectedCandidateId := selected.candidateId
    selectedValidationMetrics := selected.validationMetrics
    candidates := .baseline baseline :: entries
    calibrationBCount := products .calibrationSetB }

omit [Runtime ℚ] in
theorem eligible_iff {entry : CandidateEntry} {record : CandidateRecord} :
    entry.eligible? = some record ↔ entry = .valid record ∧
      record.eligibleForSelection = true ∧ record.validationMetrics.fpr ≤ targetProductFpr := by
  cases entry with
  | baseline judged => exact ⟨nofun, nofun⟩
  | invalid candidate error => exact ⟨nofun, nofun⟩
  | valid other =>
    rw [CandidateEntry.eligible?]
    by_cases h : other.eligibleForSelection = true ∧
        other.validationMetrics.fpr ≤ targetProductFpr
    · rw [if_pos h, Option.some.injEq, CandidateEntry.valid.injEq]
      exact ⟨by rintro rfl; exact ⟨rfl, h⟩, fun k => k.1⟩
    · rw [if_neg h, CandidateEntry.valid.injEq]
      exact ⟨nofun, by rintro ⟨rfl, k⟩; exact absurd k h⟩

/-- A candidate stands in the manifest with its record if and only if it could be scored. -/
theorem try_candidate_valid {raw : RawMaps products} {postprocessMs : String → List ℚ}
    {c : Candidate} {record : CandidateRecord} :
    tryCandidate lib raw postprocessMs c = .ok (.valid record) ↔
      ∃ scored, scoreCandidate lib raw c (postprocessMs c.candidateId) =
        .ok (record, scored) := by
  unfold tryCandidate
  cases hscore : scoreCandidate lib raw c (postprocessMs c.candidateId) with
  | ok result =>
    obtain ⟨record', scored⟩ := result
    simp
  | error e =>
    dsimp only
    split <;> simp

section
variable {raw : RawMaps products} {tried : CandidateSet} {postprocessMs : String → List ℚ}
  {artifact : ScoringArtifact} {selected : CandidateRecord} {scored : List ScoredMaps}
  {entries : List CandidateEntry}

theorem Constructed.eligible
    (h : Constructed lib raw tried postprocessMs artifact selected scored entries) :
    .valid selected ∈ entries ∧ selected.eligibleForSelection = true ∧
      selected.validationMetrics.fpr ≤ targetProductFpr ∧
      selected.toCandidate ∈ tried.candidates := by
  obtain ⟨entry, hentry, heligible⟩ := List.mem_filterMap.mp (List.argmin_mem h.selected_mem)
  obtain ⟨rfl, hmay, hfew⟩ := eligible_iff.mp heligible
  obtain ⟨c, hc, htry⟩ := exists_of_mem_right (map_m_forall₂.mp h.entries_eq) hentry
  obtain ⟨scored', hscored'⟩ := try_candidate_valid.mp htry
  exact ⟨hentry, hmay, hfew, (score_candidate_spec hscored').candidate_eq ▸ hc⟩

/-- No candidate that may be selected comes before the selected one. -/
theorem Constructed.best
    (h : Constructed lib raw tried postprocessMs artifact selected scored entries)
    {c : Candidate} (hc : c ∈ tried.candidates) {record : CandidateRecord}
    {scored' : List ScoredMaps}
    (hscore : scoreCandidate lib raw c (postprocessMs c.candidateId) =
      .ok (record, scored'))
    (hmay : c.eligibleForSelection = true)
    (hfew : record.validationMetrics.fpr ≤ targetProductFpr) :
    candidateSortKey selected ≤ candidateSortKey record := by
  obtain ⟨entry, hentry, htry⟩ := exists_of_mem_left (map_m_forall₂.mp h.entries_eq) hc
  rw [try_candidate_valid.mpr ⟨_, hscore⟩] at htry
  cases htry
  have hsame := (score_candidate_spec hscore).candidate_eq
  refine List.le_of_mem_argmin (List.mem_filterMap.mpr ⟨_, hentry, ?_⟩) h.selected_mem
  exact eligible_iff.mpr ⟨rfl, by rw [hsame]; exact hmay, hfew⟩

end

theorem artifact_view_deployed {aggregation : JsonFields ℚ} {record : CandidateRecord}
    {scored : List ScoredMaps} (hnodup : (scored.map ScoredMaps.view).Nodup)
    (hthresholds : record.found.thresholds =
      scored.map fun s => (s.view, thresholdOf record s))
    {m : ViewMaps products} {s : ScoredMaps} (hs : s ∈ scored)
    (hby : ScoredBy lib aggregation m s) {view : ArtifactView}
    (hview : artifactView record.found.thresholds (m, s) = .ok view) :
    DeployedAs lib aggregation record (m, view) s := by
  have hlookup : record.found.thresholds.lookup m.view = some (thresholdOf record s) := by
    have hget := OrderedDict.get?_eq_some
      (d := .collect ScoredMaps.view (thresholdOf record) scored) (k := m.view)
      (v := thresholdOf record s)
    rw [OrderedDict.get?, OrderedDict.entries_collect _ hnodup] at hget
    rw [hthresholds, hget, ← hby.view_eq]
    exact List.mem_map_of_mem hs
  obtain ⟨threshold, hthreshold, hview⟩ := bind_ok.mp hview
  rw [hlookup] at hthreshold
  cases hthreshold
  cases hview
  exact ⟨hby, rfl, rfl, rfl, rfl, rfl⟩

theorem construct_artifact_spec (hlib : LawfulToolLibrary lib) {raw : RawMaps products}
    {legacyScores : Split → OrderedDict String (List ℚ)} {postprocessMs : String → List ℚ}
    {repeatedMs : List ℚ} {tried : CandidateSet} {artifact : ScoringArtifact}
    (h : constructArtifact lib raw legacyScores postprocessMs repeatedMs tried =
      .ok artifact) :
    ∃ selected scored entries,
      Constructed lib raw tried postprocessMs artifact selected scored entries := by
  obtain ⟨_, henough, h⟩ := bind_ok.mp h
  obtain ⟨baseline, hbaseline, h⟩ := bind_ok.mp h
  obtain ⟨entries, hentries, h⟩ := bind_ok.mp h
  have hid : baseline.candidateId = baselineId := by
    obtain ⟨_, _, hbaseline⟩ := bind_ok.mp hbaseline
    obtain ⟨_, _, hbaseline⟩ := bind_ok.mp hbaseline
    cases hbaseline
    rfl
  split at h
  · cases h
  · rename_i selected hselected
    obtain ⟨⟨repeated, scored⟩, hrepeated, h⟩ := bind_ok.mp h
    obtain ⟨_, hsame, h⟩ := bind_ok.mp h
    obtain ⟨views, hviews, h⟩ := bind_ok.mp h
    cases h
    obtain ⟨entry, hentry, heligible⟩ := List.mem_filterMap.mp (List.argmin_mem hselected)
    obtain ⟨rfl, hmay, hfew⟩ := eligible_iff.mp heligible
    obtain ⟨c, hc, htry⟩ := exists_of_mem_right (map_m_forall₂.mp hentries) hentry
    obtain ⟨scored', hscored'⟩ := try_candidate_valid.mp htry
    have hfirst := score_candidate_spec hscored'
    rw [← hfirst.candidate_eq] at hfirst
    -- the repeated run scores the views as the first run did
    have hagain := (score_candidate_spec hrepeated).views_eq
    rw [hfirst.views_eq] at hagain
    cases hagain
    refine ⟨selected, scored, entries, of_decide_eq_true (check_scoring_ok.mp henough), hentries,
      hselected, hfirst, ?_, ?_, baseline, hid, rfl⟩
    have hmembers : List.Forall₂
        (fun m s => s ∈ scored ∧ ScoredBy lib selected.aggregation m s) raw.views scored :=
      ((List.forall₂_and_left _ _).mpr ⟨fun s hs => hs, (hfirst.scored_by hlib).flip⟩).flip
    · refine (forall₂_zip_of hmembers (map_m_forall₂.mp hviews)).imp fun pair s hpair => ?_
      exact artifact_view_deployed (hfirst.names_nodup hlib) (hfirst.thresholds_eq hlib).1
        hpair.1.1 hpair.1.2 hpair.2
    · have hlength := (map_m_forall₂.mp hviews).length_eq
      rw [List.length_zip, (hfirst.scored_by hlib).length_eq, Nat.min_self] at hlength
      exact hlength.symm.trans (hfirst.scored_by hlib).length_eq.symm

/-! ### The stations -/

section
variable {artifact : ScoringArtifact} {selected : CandidateRecord} {scored : List ScoredMaps}
  {raw : RawMaps products}
  (hviews : List.Forall₂ (DeployedAs lib artifact.aggregation selected)
    (raw.views.zip artifact.views) scored)
  (hpositive : ∀ s ∈ scored, 0 < thresholdOf selected s)
  (hlib : LawfulArrayLibrary lib) {split : Split} (hsplit : split ≠ .calibrationSetA) {i : ℕ}
  (hi : i < products split)
include hviews hpositive hlib hsplit hi

/-- A station of the artifact's views finds NG what has a score above the threshold of its view. -/
theorem station_verdict {station : List (ViewMaps products × ArtifactView)} (hne : station ≠ [])
    (hsub : ∀ pair ∈ station, pair ∈ raw.views.zip artifact.views) :
    ∃ result, stationResult lib artifact split i station = .ok result ∧
      (result.verdict = .ng ↔ ∃ pair ∈ station, ∃ s ∈ scored,
        DeployedAs lib artifact.aggregation selected pair s ∧
          thresholdOf selected s < (s.scores split).getD i 0) := by
  have hraw : ∀ (pair : ViewMaps products × ArtifactView) s,
      DeployedAs lib artifact.aggregation selected pair s →
      viewRawScore lib artifact.aggregation (deployedView split i pair) =
        .ok ((s.scores split).getD i 0) := by
    intro pair s hpair
    unfold viewRawScore deployedView
    rw [hpair.calibration_eq, hpair.scored.node_score hsplit hlib hi]
    rfl
  have hlimit : ∀ (pair : ViewMaps products × ArtifactView) s,
      DeployedAs lib artifact.aggregation selected pair s →
      pyFloat (deployedView split i pair).threshold = .ok (thresholdOf selected s) := by
    intro pair s hpair
    unfold deployedView
    rw [hpair.threshold_eq]
    rfl
  have hof : ∀ pair ∈ station, ∃ s ∈ scored,
      DeployedAs lib artifact.aggregation selected pair s :=
    fun pair hpair => exists_of_mem_left hviews (hsub pair hpair)
  have hscores : ∀ v ∈ station.map (deployedView split i),
      ∃ raw, viewRawScore lib artifact.aggregation v = .ok raw := by
    intro v hv
    obtain ⟨pair, hpair, rfl⟩ := List.mem_map.mp hv
    obtain ⟨s, _, hdeployed⟩ := hof pair hpair
    exact ⟨_, hraw pair s hdeployed⟩
  have hthresholds : ∀ v ∈ station.map (deployedView split i),
      ∃ threshold, pyFloat v.threshold = .ok threshold ∧ 0 < threshold := by
    intro v hv
    obtain ⟨pair, hpair, rfl⟩ := List.mem_map.mp hv
    obtain ⟨s, hs, hdeployed⟩ := hof pair hpair
    exact ⟨_, hlimit pair s hdeployed, hpositive s hs⟩
  obtain ⟨result, hresult, hverdict⟩ :=
    infer_verdict (fun h => hne (List.map_eq_nil_iff.mp h)) hscores hthresholds
  refine ⟨result, hresult, hverdict.trans ⟨?_, ?_⟩⟩
  · rintro ⟨v, hv, raw', threshold, hraw', hthreshold, hover⟩
    obtain ⟨pair, hpair, rfl⟩ := List.mem_map.mp hv
    obtain ⟨s, hs, hdeployed⟩ := hof pair hpair
    rw [hraw pair s hdeployed] at hraw'
    rw [hlimit pair s hdeployed] at hthreshold
    cases hraw'
    cases hthreshold
    exact ⟨pair, hpair, s, hs, hdeployed, hover⟩
  · rintro ⟨pair, hpair, s, _, hdeployed, hover⟩
    exact ⟨_, List.mem_map_of_mem hpair, _, _, hraw pair s hdeployed, hlimit pair s hdeployed,
      hover⟩

/-- A product is NG at some station if and only if the tool marked it. -/
theorem stations_verdict {stations : List (List (ViewMaps products × ArtifactView))}
    (hstations : stations.flatten = raw.views.zip artifact.views)
    (hne : ∀ station ∈ stations, station ≠ []) :
    (stations.any fun station =>
      (stationResult lib artifact split i station).toOption.any (·.verdict = .ng)) =
      scored.any fun s => thresholdOf selected s < (s.scores split).getD i 0 := by
  have hsub : ∀ station ∈ stations, ∀ pair ∈ station, pair ∈ raw.views.zip artifact.views :=
    fun station hstation pair hpair => hstations ▸ List.mem_flatten.mpr ⟨station, hstation, hpair⟩
  rw [Bool.eq_iff_iff, List.any_eq_true, List.any_eq_true]
  constructor
  · rintro ⟨station, hstation, hng⟩
    obtain ⟨result, hresult, hverdict⟩ := station_verdict hviews hpositive hlib hsplit hi
      (hne station hstation) (hsub station hstation)
    rw [hresult] at hng
    obtain ⟨_, _, s, hs, _, hover⟩ := hverdict.mp (of_decide_eq_true hng)
    exact ⟨s, hs, decide_eq_true hover⟩
  · rintro ⟨s, hs, hover⟩
    obtain ⟨pair, hpair, hdeployed⟩ := exists_of_mem_right hviews hs
    obtain ⟨station, hstation, hmem⟩ := List.mem_flatten.mp (hstations ▸ hpair)
    obtain ⟨result, hresult, hverdict⟩ := station_verdict hviews hpositive hlib hsplit hi
      (hne station hstation) (hsub station hstation)
    refine ⟨station, hstation, ?_⟩
    rw [hresult]
    exact decide_eq_true
      (hverdict.mpr ⟨pair, hmem, s, hs, hdeployed, of_decide_eq_true hover⟩)

end

/-- Whatever candidates are tried, the stations give every product of the calibration and
validation sets a verdict with the artifact that is built, and the errors and the share of false
alarms on record are those of these verdicts, the share no more than the target. No candidate
that could have been selected comes before the selected one. -/
theorem constructed_policy_deployed (hlib : LawfulToolLibrary lib) {raw : RawMaps products}
    {legacyScores : Split → OrderedDict String (List ℚ)} {postprocessMs : String → List ℚ}
    {repeatedMs : List ℚ} {tried : CandidateSet} {artifact : ScoringArtifact}
    (hconstruct : constructArtifact lib raw legacyScores postprocessMs repeatedMs tried =
      .ok artifact)
    {stations : List (List (ViewMaps products × ArtifactView))}
    (hstations : stations.flatten = raw.views.zip artifact.views)
    (hne : ∀ station ∈ stations, station ≠ []) :
    (∀ split, split ≠ .calibrationSetA → ∀ i < products split, ∀ station ∈ stations,
        ∃ result, stationResult lib artifact split i station = .ok result) ∧
      artifact.selectedValidationMetrics =
        productMetrics lib (deployedVerdicts lib artifact stations .validationNormal)
          (deployedVerdicts lib artifact stations .validationAnomaly) ∧
      trueShare (deployedVerdicts lib artifact stations .validationNormal) ≤ targetProductFpr ∧
      trueShare (deployedVerdicts lib artifact stations .calibrationSetB) ≤
        targetProductFpr ∧
      ∃ selected, .valid selected ∈ artifact.candidates ∧
        selected.candidateId = artifact.selectedCandidateId ∧
        selected.validationMetrics = artifact.selectedValidationMetrics ∧
        ∀ c ∈ tried.candidates, c.eligibleForSelection = true → ∀ record scored,
          scoreCandidate lib raw c (postprocessMs c.candidateId) = .ok (record, scored) →
          record.validationMetrics.fpr ≤ targetProductFpr →
          candidateSortKey selected ≤ candidateSortKey record := by
  obtain ⟨selected, scored, entries, hbuilt⟩ := construct_artifact_spec hlib hconstruct
  obtain ⟨hentry, hmay, hfew, hmem⟩ := hbuilt.eligible
  obtain ⟨baseline, _, hartifact⟩ := hbuilt.artifact_eq
  have haggregation : artifact.aggregation = selected.aggregation := by rw [hartifact]
  have hmetrics : artifact.selectedValidationMetrics = selected.validationMetrics := by
    rw [hartifact]
  have hviews := hbuilt.views
  rw [← haggregation] at hviews
  have hpositive := (hbuilt.candidate.thresholds_eq hlib).2.1
  have hsub : ∀ station ∈ stations, ∀ pair ∈ station, pair ∈ raw.views.zip artifact.views :=
    fun station hstation pair hpair => hstations ▸ List.mem_flatten.mpr ⟨station, hstation, hpair⟩
  have hmarks : ∀ split, split ≠ .calibrationSetA →
      deployedVerdicts lib artifact stations split =
        marks selected scored (products split) split := fun split hsplit =>
    List.map_congr_left fun i hi => stations_verdict hviews hpositive
      hlib.toLawfulArrayLibrary hsplit (List.mem_range.mp hi) hstations hne
  have hjudged : artifact.selectedValidationMetrics =
      productMetrics lib (deployedVerdicts lib artifact stations .validationNormal)
        (deployedVerdicts lib artifact stations .validationAnomaly) := by
    rw [hmetrics, hmarks _ (by decide), hmarks _ (by decide)]
    exact hbuilt.candidate.metrics_eq_marks hlib
  refine ⟨fun split hsplit i hi station hstation => ?_, hjudged, ?_, ?_, selected, ?_, ?_,
    hmetrics.symm, fun c hc hmay record scored' hscore hfew => hbuilt.best hc hscore hmay hfew⟩
  · obtain ⟨result, hresult, _⟩ := station_verdict hviews hpositive
      hlib.toLawfulArrayLibrary hsplit hi (hne station hstation) (hsub station hstation)
    exact ⟨result, hresult⟩
  · rw [← fpr_eq_share hlib, ← hjudged, hmetrics]
    exact hfew
  · rw [hmarks _ (by decide), hbuilt.candidate.share_eq hlib]
    exact (hbuilt.candidate.thresholds_eq hlib).2.2.1
  · rw [hartifact]
    exact List.mem_cons_of_mem _ hentry
  · rw [hartifact]

end

/-! ### One patch -/

def sortingTools : ToolLibrary where
  toArrayLibrary := sortingLibrary
  median l := percentile l 50
  std l := Rat.sqrt ((l.map fun x => (x - mean l) ^ 2).sum / (l.length - 1 : ℕ))
  sqrt := Rat.sqrt
  confusionMatrix labels predictions :=
    ((labels.zip predictions).countP (fun pair => !pair.1 && !pair.2),
      (labels.zip predictions).countP (fun pair => !pair.1 && pair.2),
      (labels.zip predictions).countP (fun pair => pair.1 && !pair.2),
      (labels.zip predictions).countP (fun pair => pair.1 && pair.2))
  recallScore labels predictions :=
    (labels.zip predictions).countP (fun pair => pair.1 && pair.2) / labels.count true
  precisionScore labels predictions :=
    (labels.zip predictions).countP (fun pair => pair.1 && pair.2) / predictions.count true
  accuracyScore labels predictions :=
    (labels.zip predictions).countP (fun pair => pair.1 = pair.2) / labels.length

theorem sorting_tools_lawful : LawfulToolLibrary sortingTools where
  toLawfulArrayLibrary := sorting_library_lawful
  median_eq _ _ := rfl
  std_nonneg _ _ := Rat.sqrt_nonneg _
  confusion_eq _ _ _ := rfl

def hundredProducts : Split → ℕ
  | .calibrationSetA => 3
  | .calibrationSetB => 100
  | .validationNormal => 10
  | .validationAnomaly => 2

/-- Maps of one patch, of each product a multiple of its number; the last anomaly stands out. -/
def numberedView (view : String) (scale : ℚ) : ViewMaps hundredProducts where
  view := view
  grid := (1, 1)
  maps := fun
    | .calibrationSetA => ⟨[3, 1, 1], [0, scale, 2 * scale], rfl⟩
    | .calibrationSetB => ⟨[100, 1, 1], (List.range 100).map (scale * ·), rfl⟩
    | .validationNormal => ⟨[10, 1, 1], (List.range 10).map (scale * ·), rfl⟩
    | .validationAnomaly => ⟨[2, 1, 1], [5 * scale, 1000], rfl⟩
  shape_eq := fun split => by cases split <;> rfl

def onePatch : RawMaps hundredProducts where
  views := [numberedView "CAM_A_1" 1, numberedView "CAM_B_1" 2]
  names_nodup := by decide

def oneCandidate : @CandidateSet Runtime.exact :=
  @CandidateSet.mk Runtime.exact
    [{ candidateId := "candidate-001", normalization := epsilonPolicy
       aggregation := topKPolicy, eligibleForSelection := true }]
    (by decide) (by decide) (by decide +kernel)

def onePatchArtifact : Except ScoringError ScoringArtifact :=
  @constructArtifact Runtime.exact sortingTools hundredProducts onePatch
    (fun split => ⟨[("CAM_A_1", (List.range (hundredProducts split)).map Nat.cast),
      ("CAM_B_1", (List.range (hundredProducts split)).map Nat.cast)], by simp⟩)
    (fun _ => [1]) [1] oneCandidate

theorem one_patch_built : ∃ artifact, onePatchArtifact = .ok artifact := by
  have hsome : onePatchArtifact.toOption.isSome = true := by decide +kernel
  cases h : onePatchArtifact with
  | error e =>
    rw [h] at hsome
    cases hsome
  | ok artifact => exact ⟨artifact, rfl⟩

def oneViewStations (artifact : ScoringArtifact) :
    List (List (ViewMaps hundredProducts × ArtifactView)) :=
  (onePatch.views.zip artifact.views).map fun pair => [pair]

theorem one_patch_deployed : ∃ artifact, onePatchArtifact = .ok artifact ∧
    artifact.selectedValidationMetrics = productMetrics sortingTools
      (@deployedVerdicts Runtime.exact sortingTools _ artifact (oneViewStations artifact)
        .validationNormal)
      (@deployedVerdicts Runtime.exact sortingTools _ artifact (oneViewStations artifact)
        .validationAnomaly) ∧
    trueShare (@deployedVerdicts Runtime.exact sortingTools _ artifact (oneViewStations artifact)
      .calibrationSetB) ≤ targetProductFpr := by
  obtain ⟨artifact, hartifact⟩ := one_patch_built
  have hone : ∀ station ∈ oneViewStations artifact, station ≠ [] := by
    intro station hstation
    obtain ⟨pair, _, rfl⟩ := List.mem_map.mp hstation
    exact List.cons_ne_nil _ _
  have hall : (oneViewStations artifact).flatten = onePatch.views.zip artifact.views := by
    rw [oneViewStations, ← List.flatMap_def, List.flatMap_singleton']
  obtain ⟨_, hmetrics, _, hshare, _⟩ :=
    @constructed_policy_deployed Runtime.exact sortingTools hundredProducts
      sorting_tools_lawful onePatch _ _ _ oneCandidate artifact hartifact
      (oneViewStations artifact) hall hone
  exact ⟨artifact, hartifact, hmetrics, hshare⟩

end InspectionLine
