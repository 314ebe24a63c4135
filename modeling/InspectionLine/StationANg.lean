import InspectionLine.ResultDelivery

/-! # An NG of station A

An NG that is stored can not be replaced, and whatever comes later leaves the station rejected. It
is not stored when a result with a greater revision has come before it. -/
namespace InspectionLine

open InputRuns
open Line (Flagged)

namespace ProductContext

variable {c : ProductContext}

def stationResult? (s : StationId) : ContextOp → Option StationDecision
  | .applyStationResult d => if d.stationId = s then some d else none
  | _ => none

def stationResults (s : StationId) (ops : List ContextOp) : List StationDecision :=
  ops.filterMap (stationResult? s)

/-- Some NG comes when no other result with a greater revision has come yet. -/
def NgInTime (results : List StationDecision) : Prop :=
  ∃ before d after, results = before ++ d :: after ∧ d.verdict = .ng ∧
    ∀ p ∈ before, p.verdict ≠ .ng → p.revision ≤ d.revision

structure Delivers (ops : List ContextOp) (results : List StationDecision) : Prop where
  results : stationResults .a ops = results
  about : ∀ op ∈ ops, op.station? = some .a → ∃ d, op = .applyStationResult d
  unlocked : ∀ op ∈ ops, op.locks = false

structure Awaits (c : ProductContext) (s : StationId) (ids : CaptureIds) : Prop where
  unlocked : c.locked = none
  undecided : (c.station s).decision = none
  idsMatch : (c.station s).Matches ids

/-- Results of station A for one capture, as the Master accepts them. -/
def OfCapture (ids : CaptureIds) (results : List StationDecision) : Prop :=
  ∀ d ∈ results, d.stationId = .a ∧ d.ids = ids ∧ (d.verdict = .pass ∨ d.verdict = .ng)

theorem station_results_append (s : StationId) (ops rest : List ContextOp) :
    stationResults s (ops ++ rest) = stationResults s ops ++ stationResults s rest :=
  List.filterMap_append ..

theorem station_result_eq_some {s : StationId} {op : ContextOp} {d : StationDecision} :
    stationResult? s op = some d ↔ op = .applyStationResult d ∧ d.stationId = s := by
  cases op with
  | applyStationResult e =>
    simp only [stationResult?, Option.ite_none_right_eq_some, Option.some.injEq,
      ContextOp.applyStationResult.injEq]
    constructor
    · rintro ⟨hs, rfl⟩
      exact ⟨rfl, hs⟩
    · rintro ⟨rfl, hs⟩
      exact ⟨hs, rfl⟩
  | _ => simp [stationResult?]

theorem station_results_of_ne {s : StationId} {op : ContextOp} (h : op.station? ≠ some s) :
    stationResults s [op] = [] := by
  cases hresult : stationResult? s op with
  | none => simp [stationResults, hresult]
  | some d =>
    obtain ⟨rfl, hs⟩ := station_result_eq_some.mp hresult
    exact absurd (congrArg some hs) h

theorem split_station_results {s : StationId} {ops : List ContextOp}
    {before after : List StationDecision} {d : StationDecision}
    (h : stationResults s ops = before ++ d :: after) :
    ∃ first last, ops = first ++ .applyStationResult d :: last ∧ stationResults s first = before ∧
      d.stationId = s := by
  obtain ⟨first, rest, rfl, hfirst, hrest⟩ := List.filterMap_eq_append_iff.mp h
  obtain ⟨skipped, op, last, rfl, hskipped, hop, -⟩ := List.filterMap_eq_cons_iff.mp hrest
  obtain ⟨rfl, hs⟩ := station_result_eq_some.mp hop
  refine ⟨first ++ skipped, last, by simp, ?_, hs⟩
  rw [station_results_append, stationResults, hfirst, stationResults,
    List.filterMap_eq_nil_iff.mpr hskipped, List.append_nil]

theorem next_rejected (h : (c.station .a).Rejected) {op : ContextOp}
    (habout : op.station? = some .a → ∃ d, op = .applyStationResult d) :
    ((c.next op).station .a).Rejected := by
  by_cases hstation : op.station? = some .a
  · obtain ⟨d, rfl⟩ := habout hstation
    have ha : d.stationId = .a := Option.some.inj hstation
    rcases h with hflagged | ⟨p, hp, hng⟩
    · exact .inl ((latches_iff c _).mpr (by rintro ⟨s, heq, -⟩; cases heq) .a hflagged)
    · have hterminal : d.stationId = .a ∧ p.verdict = .ng := ⟨ha, hng⟩
      have hkept : (c.station .a).Rejected := .inr ⟨p, hp, hng⟩
      have hprevious : (c.station d.stationId).decision = some p := ha ▸ hp
      simp only [next, ContextOp.apply, ContextOp.reply, applyStationResult, hprevious,
        if_pos hterminal]
      repeat' split
      all_goals first
        | exact hkept
        | exact .inl (ha ▸ conflict_flags c d.stationId _)
  · rw [next_other_station c hstation]
    exact h

structure Receiving (ids : CaptureIds) (seen : List StationDecision) (c : ProductContext) :
    Prop where
  unlocked : c.locked = none
  station : (c.station .a).Rejected ∨ (c.station .a).Matches ids ∧
    ∀ p, (c.station .a).decision = some p → p ∈ seen

theorem next_receiving {ids : CaptureIds} {seen : List StationDecision}
    (h : Receiving ids seen c) {op : ContextOp}
    (habout : op.station? = some .a → ∃ d, op = .applyStationResult d)
    (hopen : op.locks = false) (hids : ∀ d ∈ stationResults .a [op], d.ids = ids) :
    Receiving ids (seen ++ stationResults .a [op]) (c.next op) := by
  refine ⟨next_unlocked h.unlocked hopen, ?_⟩
  rcases h.station with hrejected | ⟨hmatches, hseen⟩
  · exact .inl (next_rejected hrejected habout)
  by_cases hstation : op.station? = some .a
  · obtain ⟨d, rfl⟩ := habout hstation
    have ha : d.stationId = .a := Option.some.inj hstation
    have hresult : stationResults .a [.applyStationResult d] = [d] := by
      simp [stationResults, stationResult?, ha]
    rw [hresult] at hids ⊢
    obtain rfl := hids d (List.mem_singleton_self d)
    rw [← ha] at hmatches hseen ⊢
    have heffect := result_effect hmatches h.unlocked
    generalize c.next (.applyStationResult d) = e at heffect ⊢
    cases heffect with
    | ignored p hprevious h =>
      exact .inr ⟨hmatches, fun q hq => List.mem_append_left _ (hseen q hq)⟩
    | stored h =>
      refine .inr ⟨stored_matches hmatches, fun q hq => ?_⟩
      rw [stored_decision] at hq
      exact List.mem_append_right _ (List.mem_singleton.mpr (Option.some.inj hq).symm)
    | conflict p hprevious h message => exact .inl (.inl (conflict_flags ..))
  · rw [next_other_station c hstation, station_results_of_ne hstation, List.append_nil]
    exact .inr ⟨hmatches, hseen⟩

theorem run_rejected {ops : List ContextOp} (h : (c.station .a).Rejected)
    (habout : ∀ op ∈ ops, op.station? = some .a → ∃ d, op = .applyStationResult d) :
    ((runTrace next c ops).station .a).Rejected := by
  induction ops generalizing c with
  | nil => exact h
  | cons op ops ih =>
    exact ih (next_rejected h (habout op List.mem_cons_self)) fun other hother =>
      habout other (List.mem_cons_of_mem _ hother)

theorem run_receiving {ids : CaptureIds} {seen : List StationDecision} {ops : List ContextOp}
    (h : Receiving ids seen c)
    (habout : ∀ op ∈ ops, op.station? = some .a → ∃ d, op = .applyStationResult d)
    (hopen : ∀ op ∈ ops, op.locks = false) (hids : ∀ d ∈ stationResults .a ops, d.ids = ids) :
    Receiving ids (seen ++ stationResults .a ops) (runTrace next c ops) := by
  induction ops generalizing c seen with
  | nil => simpa [stationResults, runTrace] using h
  | cons op ops ih =>
    have hsplit : stationResults .a (op :: ops) =
        stationResults .a [op] ++ stationResults .a ops := station_results_append .a [op] ops
    rw [hsplit] at hids ⊢
    rw [← List.append_assoc]
    refine ih (next_receiving h (habout op List.mem_cons_self) (hopen op List.mem_cons_self)
      fun d hd => hids d (List.mem_append_left _ hd)) ?_ ?_ ?_
    · exact fun other hother => habout other (List.mem_cons_of_mem _ hother)
    · exact fun other hother => hopen other (List.mem_cons_of_mem _ hother)
    · exact fun d hd => hids d (List.mem_append_right _ hd)

/-- An NG that nothing newer has overtaken rejects the station. -/
theorem next_of_ng {seen : List StationDecision} {d : StationDecision}
    (h : Receiving d.ids seen c) (ha : d.stationId = .a) (hng : d.verdict = .ng)
    (hnewest : ∀ p ∈ seen, p.verdict ≠ .ng → p.revision ≤ d.revision) :
    ((c.next (.applyStationResult d)).station .a).Rejected := by
  rcases h.station with hrejected | ⟨hmatches, hseen⟩
  · exact next_rejected hrejected fun _ => ⟨d, rfl⟩
  rw [← ha] at hmatches hseen ⊢
  have heffect := result_effect hmatches h.unlocked
  generalize c.next (.applyStationResult d) = e at heffect ⊢
  cases heffect with
  | ignored p hprevious h =>
    refine .inr ⟨p, hprevious, ?_⟩
    by_contra hother
    rcases h with ⟨-, hterminal⟩ | hold | rfl
    · exact hother hterminal
    · have hle := hnewest p (hseen p hprevious) hother
      omega
    · exact hother hng
  | stored h =>
    rw [stored_decision]
    exact .inr ⟨d, rfl, hng⟩
  | conflict p hprevious h message => exact .inl (conflict_flags ..)

theorem candidate_verdict_of_rejected (h : (c.station .a).Rejected) :
    c.candidateVerdict.1 ≠ some .pass := by
  rcases h with hflagged | ⟨d, hd, hng⟩
  · exact candidate_verdict_of_flagged hflagged
  · unfold candidateVerdict
    by_cases hflag : ((c.station .a).failed || (c.station .a).conflicted) = true
    · simp [hflag]
    · simp [hflag, hd, hng]

theorem locked_verdict (hopen : c.locked = none) {e : String} {step : ℤ} {product : LockedProduct}
    (h : (c.lockAtSensor3 e step).1 = .ok product) :
    product.verdict = c.candidateVerdict.1.getD .forcedNg := by
  obtain ⟨ids, steps, rev, hrecord⟩ := c.record_sensor_frame 3 e step
  simp only [lockAtSensor3, hopen] at h
  split at h
  · cases h
  · rcases hsensor : c.recordSensor 3 e step with ⟨_ | _, d⟩
    · rw [hsensor] at h
      cases h
    · rw [hsensor] at h hrecord
      cases h
      have hd : d = _ := hrecord
      subst hd
      rfl

theorem in_time_not_passed {ids : CaptureIds} {results : List StationDecision}
    {ops : List ContextOp} (hcapture : OfCapture ids results) (htime : NgInTime results)
    (hawaits : c.Awaits .a ids) (hdelivers : Delivers ops results) {e : String} {step : ℤ}
    {product : LockedProduct} (h : ((runTrace next c ops).lockAtSensor3 e step).1 = .ok product) :
    product.verdict ≠ .pass := by
  obtain ⟨before, d, after, rfl, hng, hnewest⟩ := htime
  obtain ⟨first, last, rfl, hfirst, ha⟩ := split_station_results hdelivers.results
  have hids : ∀ p ∈ before, p.ids = d.ids := fun p hp =>
    (hcapture p (by simp [hp])).2.1.trans (hcapture d (by simp)).2.1.symm
  have hreceiving : Receiving d.ids ([] ++ stationResults .a first) (runTrace next c first) := by
    refine run_receiving ⟨hawaits.unlocked, .inr ⟨?_, ?_⟩⟩ ?_ ?_ (hfirst ▸ hids)
    · rw [(hcapture d (by simp)).2.1]
      exact hawaits.idsMatch
    · simp [hawaits.undecided]
    · exact fun op hop => hdelivers.about op (List.mem_append_left _ hop)
    · exact fun op hop => hdelivers.unlocked op (List.mem_append_left _ hop)
  rw [List.nil_append, hfirst] at hreceiving
  have hrejected := run_rejected (next_of_ng hreceiving ha hng hnewest)
    fun op hop => hdelivers.about op (List.mem_append_right _ (List.mem_cons_of_mem _ hop))
  have hall : Receiving ids ([] ++ stationResults .a (first ++ .applyStationResult d :: last))
      (runTrace next c (first ++ .applyStationResult d :: last)) :=
    run_receiving ⟨hawaits.unlocked, .inr ⟨hawaits.idsMatch, by simp [hawaits.undecided]⟩⟩
      hdelivers.about hdelivers.unlocked fun p hp => (hcapture p (hdelivers.results ▸ hp)).2.1
  have hopen := hall.unlocked
  rw [run_trace_append] at h hopen
  rw [locked_verdict hopen h]
  exact final_not_passed (candidate_verdict_of_rejected hrejected)

/-! ### An NG that comes too late -/

/-- A product in front of Sensor3 that only station A is still to be heard of. -/
def passedByB : ProductContext where
  productId := "product-1"
  fifoSequence := 1
  physicalState := .sensor3Wait
  stations
    | .a => { stationId := .a }
    | .b => { stationId := .b, decision := some ⟨.b, .pass, 1, "capture-b", "job-b", "batch-b"⟩ }

structure Passing (ids : CaptureIds) (seen : List StationDecision) (c : ProductContext) :
    Prop where
  shape : ∃ i revision, c = { passedByB with
    stations := Function.update passedByB.stations .a i, revision } ∧ i.failed = false ∧
      i.conflicted = false
  idsMatch : (c.station .a).Matches ids
  newest : seen = [] ∧ (c.station .a).decision = none ∨
    ∃ p ∈ seen, (c.station .a).decision = some p ∧ p.verdict = .pass ∧
      ∀ q ∈ seen, q.verdict ≠ .ng → q.revision ≤ p.revision

theorem stored_shape {d : StationDecision} (ha : d.stationId = .a)
    (h : ∃ i revision, c = { passedByB with
      stations := Function.update passedByB.stations .a i, revision } ∧ i.failed = false ∧
        i.conflicted = false) :
    ∃ i revision, (c.storeDecision d).2 = { passedByB with
      stations := Function.update passedByB.stations .a i, revision } ∧ i.failed = false ∧
        i.conflicted = false := by
  obtain ⟨i, revision, rfl, hfailed, hconflicted⟩ := h
  simp only [storeDecision, touch, setStation, station, ha, Function.update_idem,
    Function.update_self]
  exact ⟨_, _, rfl, hfailed, hconflicted⟩

theorem next_passing {ids : CaptureIds} {seen : List StationDecision} {d : StationDecision}
    (h : Passing ids seen c) (hcapture : OfCapture ids (seen ++ [d]))
    (hlate : ∀ before after, seen ++ [d] = before ++ d :: after → d.verdict = .ng →
      ∃ p ∈ before, p.verdict ≠ .ng ∧ d.revision < p.revision) :
    Passing ids (seen ++ [d]) (c.next (.applyStationResult d)) := by
  obtain ⟨ha, rfl, hverdict⟩ := hcapture d (by simp)
  have hopen : c.locked = none := by
    obtain ⟨i, revision, rfl, -⟩ := h.shape
    rfl
  have hmatches := h.idsMatch
  rw [← ha] at hmatches
  have heffect := result_effect hmatches hopen
  generalize c.next (.applyStationResult d) = e at heffect ⊢
  rw [ha] at hmatches
  cases heffect with
  | ignored p hprevious hold =>
    rw [ha] at hprevious
    refine ⟨h.shape, h.idsMatch, .inr ?_⟩
    rcases h.newest with ⟨-, hnone⟩ | ⟨q, hq, hdecision, hpass, hnewest⟩
    · rw [hnone] at hprevious
      cases hprevious
    obtain rfl := Option.some.inj (hdecision.symm.trans hprevious)
    refine ⟨q, List.mem_append_left _ hq, hdecision, hpass, fun r hr hother => ?_⟩
    rcases List.mem_append.mp hr with hr | hr
    · exact hnewest r hr hother
    · obtain rfl := List.mem_singleton.mp hr
      rcases hold with ⟨-, hng⟩ | hold | rfl
      · rw [hpass] at hng
        cases hng
      · exact hold.le
      · exact le_rfl
  | stored hnewer =>
    rw [ha] at hnewer
    have hpass : d.verdict = .pass := by
      rcases hverdict with hpass | hng
      · exact hpass
      obtain ⟨p, hp, hother, hlt⟩ := hlate seen [] rfl hng
      rcases h.newest with ⟨rfl, -⟩ | ⟨q, hq, hdecision, -, hnewest⟩
      · cases hp
      · have hle := hnewest p hp hother
        have hlt' := (hnewer q hdecision).1
        omega
    refine ⟨stored_shape ha h.shape, ?_, .inr ⟨d, by simp, ?_, hpass, fun r hr hother => ?_⟩⟩
    · rw [← ha]
      exact stored_matches (ha ▸ hmatches)
    · rw [← ha, stored_decision]
    · rcases List.mem_append.mp hr with hr | hr
      · rcases h.newest with ⟨rfl, -⟩ | ⟨q, hq, hdecision, -, hnewest⟩
        · cases hr
        · exact (hnewest r hr hother).trans (hnewer q hdecision).1.le
      · rw [List.mem_singleton.mp hr]
  | conflict p hprevious hclash message =>
    rw [ha] at hprevious
    exfalso
    rcases h.newest with ⟨-, hnone⟩ | ⟨q, hq, hdecision, hpass, hnewest⟩
    · rw [hnone] at hprevious
      cases hprevious
    obtain rfl := Option.some.inj (hdecision.symm.trans hprevious)
    rcases hclash with ⟨-, hng, -⟩ | ⟨hrevision, hdiffers⟩
    · rw [hpass] at hng
      cases hng
    rcases hverdict with hsame | hng
    · obtain ⟨hqa, hqids, -⟩ := hcapture q (List.mem_append_left _ hq)
      exact hdiffers (StationDecision.eq_of_ids (ha.trans hqa.symm) hqids.symm hrevision
        (hsame.trans hpass.symm))
    · obtain ⟨r, hr, hother, hlt⟩ := hlate seen [] rfl hng
      have hle := hnewest r hr hother
      omega

theorem run_passing {ids : CaptureIds} {seen rest : List StationDecision}
    (hcapture : OfCapture ids (seen ++ rest)) (hlate : ¬ NgInTime (seen ++ rest))
    (h : Passing ids seen c) :
    Passing ids (seen ++ rest) (runTrace next c (rest.map .applyStationResult)) := by
  induction rest generalizing c seen with
  | nil => simpa [runTrace] using h
  | cons d rest ih =>
    have hsplit : seen ++ d :: rest = seen ++ [d] ++ rest := by simp
    rw [hsplit] at hcapture hlate ⊢
    refine ih hcapture hlate (next_passing h ?_ ?_)
    · exact fun p hp => hcapture p (List.mem_append_left _ hp)
    intro before after heq hng
    by_contra hnone
    refine hlate ⟨before, d, after ++ rest, by rw [heq]; simp, hng, fun p hp hother => ?_⟩
    by_contra hgreater
    exact hnone ⟨p, hp, hother, not_le.mp hgreater⟩

theorem initial_passing (ids : CaptureIds) : Passing ids [] passedByB := by
  refine ⟨⟨{ stationId := .a }, 1, ?_, rfl, rfl⟩, ⟨.inl rfl, .inl rfl, .inl rfl⟩, .inl ⟨rfl, rfl⟩⟩
  have hsame : Function.update passedByB.stations .a { stationId := .a } = passedByB.stations :=
    Function.update_eq_self StationId.a passedByB.stations
  rw [hsame]
  rfl

theorem passing_locked {ids : CaptureIds} {seen : List StationDecision} (hsome : seen ≠ [])
    (h : Passing ids seen c) :
    ∃ product, (c.lockAtSensor3 "sensor3-1" 20).1 = .ok product ∧ product.verdict = .pass := by
  obtain ⟨i, revision, rfl, hfailed, hconflicted⟩ := h.shape
  rcases h.newest with ⟨rfl, -⟩ | ⟨p, -, hdecision, hpass, -⟩
  · exact absurd rfl hsome
  have hstation : i.decision = some p := by
    simpa [station] using hdecision
  have hlocked : ({ passedByB with
      stations := Function.update passedByB.stations .a i, revision } : ProductContext).locked =
        none := rfl
  obtain ⟨product, hproduct⟩ : ∃ product, (({ passedByB with
      stations := Function.update passedByB.stations .a i, revision } :
        ProductContext).lockAtSensor3 "sensor3-1" 20).1 = .ok product := ⟨_, rfl⟩
  refine ⟨product, hproduct, ?_⟩
  rw [locked_verdict hlocked hproduct]
  simp [candidateVerdict, station, hfailed, hconflicted, hstation, hpass, passedByB]

theorem delivers_results {ids : CaptureIds} {results : List StationDecision}
    (hcapture : OfCapture ids results) : Delivers (results.map .applyStationResult) results where
  results := by
    have hall : ∀ d ∈ results, stationResult? .a (.applyStationResult d) = some d := fun d hd =>
      station_result_eq_some.mpr ⟨rfl, (hcapture d hd).1⟩
    rw [stationResults, List.filterMap_map]
    exact (List.filterMap_congr hall).trans List.filterMap_some
  about op hop _ := by
    obtain ⟨d, -, rfl⟩ := List.mem_map.mp hop
    exact ⟨d, rfl⟩
  unlocked op hop := by
    obtain ⟨d, -, rfl⟩ := List.mem_map.mp hop
    rfl

/-- An NG of station A keeps its product from passing in every delivery if and only if some NG
comes in time. -/
theorem station_a_ng_dominates {ids : CaptureIds} {results : List StationDecision}
    (hcapture : OfCapture ids results) (hng : ∃ d ∈ results, d.verdict = .ng) :
    (∀ (c : ProductContext) ops, c.Awaits .a ids → Delivers ops results → ∀ e step product,
      ((runTrace next c ops).lockAtSensor3 e step).1 = .ok product → product.verdict ≠ .pass) ↔
        NgInTime results := by
  constructor
  · intro hdominates
    by_contra hlate
    have hpassing : Passing ids results _ :=
      @run_passing _ ids [] results hcapture hlate (initial_passing ids)
    obtain ⟨d, hd, -⟩ := hng
    obtain ⟨product, hlocked, hpass⟩ := passing_locked (List.ne_nil_of_mem hd) hpassing
    refine hdominates passedByB _ ⟨rfl, rfl, .inl rfl, .inl rfl, .inl rfl⟩
      (delivers_results hcapture) _ _ product hlocked hpass
  · intro htime c ops hawaits hdelivers e step product h
    exact in_time_not_passed hcapture htime hawaits hdelivers h

def resultOfA (verdict : Verdict) (revision : ℕ) : StationDecision :=
  ⟨.a, verdict, revision, "capture-a", "job-a", "batch-a"⟩

/-- A PASS that a newer NG revises. -/
theorem revised_pass_dominated :
    ∃ product, ((runTrace next passedByB
      [.applyStationResult (resultOfA .pass 1),
        .applyStationResult (resultOfA .ng 2)]).lockAtSensor3 "sensor3-1" 20).1 = .ok product ∧
          product.verdict ≠ .pass := by
  have hcapture : OfCapture (resultOfA .pass 1).ids [resultOfA .pass 1, resultOfA .ng 2] := by
    rintro d hd
    rcases List.mem_pair.mp hd with rfl | rfl
    · exact ⟨rfl, rfl, .inl rfl⟩
    · exact ⟨rfl, rfl, .inr rfl⟩
  have htime : NgInTime [resultOfA .pass 1, resultOfA .ng 2] := by
    refine ⟨[resultOfA .pass 1], _, [], rfl, rfl, fun p hp _ => ?_⟩
    rw [List.mem_singleton.mp hp]
    exact Nat.le_succ 1
  refine ⟨_, rfl, (station_a_ng_dominates hcapture ⟨_, List.mem_cons_of_mem _ List.mem_cons_self,
    rfl⟩).mpr htime passedByB _ ⟨rfl, rfl, .inl rfl, .inl rfl, .inl rfl⟩
      (delivers_results hcapture) "sensor3-1" 20 _ rfl⟩

/-- The same two verdicts with the revisions the other way round. -/
theorem overtaken_ng_passed :
    ∃ product, (((passedByB.next (.applyStationResult (resultOfA .pass 2))).next
      (.applyStationResult (resultOfA .ng 1))).lockAtSensor3 "sensor3-1" 20).1 = .ok product ∧
        product.verdict = .pass :=
  ⟨_, rfl, rfl⟩

end ProductContext

end InspectionLine
