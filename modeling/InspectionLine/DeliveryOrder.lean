import InspectionLine.StationANg

/-! # Messages of the captures in any order

Of the results of a station the newest one stays whatever the order is, and a failure that counts
at all counts whenever it comes. So two orders of the same messages end in the same verdict. -/
namespace InspectionLine

open InputRuns

namespace ProductContext

variable {c : ProductContext} {s : StationId}

/-- A result or a failure of the capture that its station runs, and no NG of station A. -/
def OfCaptures (ids : StationId → CaptureIds) : ContextOp → Prop
  | .applyStationResult d => d.ids = ids d.stationId ∧ (d.stationId = .a → d.verdict ≠ .ng)
  | .recordStationFailure s captureId frameBatchId inferenceJobId _ _ =>
    CaptureIds.mk captureId frameBatchId inferenceJobId = ids s
  | _ => False

/-- Messages of one capture for each station. No two results of a station have one revision. -/
structure Deliverable (ids : StationId → CaptureIds) (ops : List ContextOp) : Prop where
  ofCaptures : ∀ op ∈ ops, OfCaptures ids op
  distinct : ∀ d e, .applyStationResult d ∈ ops → .applyStationResult e ∈ ops →
    d.stationId = e.stationId → d.revision = e.revision → d = e

def Newest (s : StationId) (ops : List ContextOp) : Option StationDecision → Prop
  | none => ∀ d, .applyStationResult d ∈ ops → d.stationId ≠ s
  | some d => .applyStationResult d ∈ ops ∧ d.stationId = s ∧
    ∀ e, .applyStationResult e ∈ ops → e.stationId = s → e.revision ≤ d.revision

/-- A failure of the station that is not older than what the station had before. -/
def FailureIn (s : StationId) (oldest : ℕ) (ops : List ContextOp) : Prop :=
  ∃ captureId frameBatchId inferenceJobId revision reason, oldest ≤ revision ∧
    .recordStationFailure s captureId frameBatchId inferenceJobId revision reason ∈ ops

structure Delivered (s : StationId) (ops : List ContextOp) (initial i : StationInspection) :
    Prop where
  decision : Newest s ops i.decision
  failed : i.failed = true ↔ initial.failed = true ∨ FailureIn s initial.lastFailureRevision ops
  conflicted : i.conflicted = initial.conflicted

/-! ### The messages and not their order -/

theorem newest_unique {ids : StationId → CaptureIds} {ops rest : List ContextOp}
    (h : Deliverable ids ops) (hsame : ∀ op, op ∈ rest ↔ op ∈ ops) {x y : Option StationDecision}
    (hx : Newest s ops x) (hy : Newest s rest y) : x = y := by
  cases x with
  | none =>
    cases y with
    | none => rfl
    | some e => exact absurd hy.2.1 (hx e ((hsame _).mp hy.1))
  | some d =>
    obtain ⟨hd, hds, hnewest⟩ := hx
    cases y with
    | none => exact absurd hds (hy d ((hsame _).mpr hd))
    | some e =>
      obtain ⟨he, hes, hnewest'⟩ := hy
      have he' := (hsame _).mp he
      have hle := hnewest e he' hes
      have hge := hnewest' d ((hsame _).mpr hd) hds
      exact congrArg some (h.distinct d e hd he' (hds.trans hes.symm) (le_antisymm hge hle))

theorem failure_in_congr {oldest : ℕ} {ops rest : List ContextOp}
    (hsame : ∀ op, op ∈ rest ↔ op ∈ ops) : FailureIn s oldest rest ↔ FailureIn s oldest ops := by
  simp only [FailureIn, hsame]

theorem Delivered.agree {ids : StationId → CaptureIds} {ops rest : List ContextOp}
    {initial i j : StationInspection} (h : Deliverable ids ops)
    (hsame : ∀ op, op ∈ rest ↔ op ∈ ops) (hi : Delivered s ops initial i)
    (hj : Delivered s rest initial j) :
    i.decision = j.decision ∧ i.failed = j.failed ∧ i.conflicted = j.conflicted := by
  refine ⟨newest_unique h hsame hi.decision hj.decision, ?_, hi.conflicted.trans
    hj.conflicted.symm⟩
  rw [Bool.eq_iff_iff, hi.failed, hj.failed, failure_in_congr hsame]

theorem candidate_verdict_congr {d : ProductContext}
    (h : ∀ s, (c.station s).decision = (d.station s).decision ∧
      (c.station s).failed = (d.station s).failed ∧
      (c.station s).conflicted = (d.station s).conflicted) :
    c.candidateVerdict.1 = d.candidateVerdict.1 := by
  obtain ⟨hdecision, hfailed, hconflicted⟩ := h .a
  obtain ⟨hdecision', hfailed', hconflicted'⟩ := h .b
  simp only [candidateVerdict, hdecision, hfailed, hconflicted, hdecision', hfailed', hconflicted']
  repeat' split
  all_goals rfl

def Reworked (initial c : ProductContext) : Prop :=
  ∃ stations revision, c = { initial with stations, revision }

theorem Reworked.locks {initial d : ProductContext} (hc : Reworked initial c)
    (hd : Reworked initial d) (hopen : initial.locked = none)
    (hverdict : c.candidateVerdict.1 = d.candidateVerdict.1) (e : String) (step : ℤ) :
    (c.lockAtSensor3 e step).1.map (·.verdict) = (d.lockAtSensor3 e step).1.map (·.verdict) := by
  obtain ⟨stations, revision, rfl⟩ := hc
  obtain ⟨stations', revision', rfl⟩ := hd
  simp only [lockAtSensor3, hopen]
  split
  · rfl
  simp only [recordSensor]
  have hgetD := congrArg (·.getD Verdict.forcedNg) hverdict
  cases initial.sensorEventIds.get? 3 with
  | none => exact congrArg Except.ok hgetD
  | some previous =>
    by_cases hother : previous ≠ e
    · simp only [if_pos hother, Outcome.andThen, Except.map]
    · simp only [if_neg hother, Outcome.andThen]
      exact congrArg Except.ok hgetD

/-! ### One message -/

theorem newest_of_other {ops : List ContextOp} {op : ContextOp} {x : Option StationDecision}
    (hother : ∀ d, op = .applyStationResult d → d.stationId ≠ s) (hx : Newest s ops x) :
    Newest s (ops ++ [op]) x := by
  have hbefore : ∀ d, .applyStationResult d ∈ ops ++ [op] → d.stationId = s →
      .applyStationResult d ∈ ops := by
    intro d hd hs
    rcases List.mem_append.mp hd with hd | hd
    · exact hd
    · exact absurd hs (hother d (List.mem_singleton.mp hd).symm)
  cases x with
  | none => exact fun d hd hs => hx d (hbefore d hd hs) hs
  | some d =>
    exact ⟨List.mem_append_left _ hx.1, hx.2.1, fun e he hs => hx.2.2 e (hbefore e he hs) hs⟩

theorem failure_in_append {oldest : ℕ} {ops : List ContextOp} {op : ContextOp} :
    FailureIn s oldest (ops ++ [op]) ↔ FailureIn s oldest ops ∨ FailureIn s oldest [op] := by
  simp only [FailureIn, List.mem_append, and_or_left, exists_or]

theorem failure_in_other {oldest : ℕ} {ops : List ContextOp} {op : ContextOp}
    (h : ∀ captureId frameBatchId inferenceJobId revision reason, op ≠
      .recordStationFailure s captureId frameBatchId inferenceJobId revision reason) :
    FailureIn s oldest (ops ++ [op]) ↔ FailureIn s oldest ops := by
  rw [failure_in_append, or_iff_left]
  rintro ⟨captureId, frameBatchId, inferenceJobId, revision, reason, -, hmem⟩
  exact h _ _ _ _ _ (List.mem_singleton.mp hmem).symm

theorem Delivered.of_other {ops : List ContextOp} {op : ContextOp} {initial i : StationInspection}
    (h : op.station? ≠ some s) (hi : Delivered s ops initial i) :
    Delivered s (ops ++ [op]) initial i where
  decision := newest_of_other (by rintro d rfl hs; exact h (congrArg some hs)) hi.decision
  failed := by
    rw [failure_in_other (by rintro _ _ _ _ _ rfl; exact h rfl)]
    exact hi.failed
  conflicted := hi.conflicted

/-- A failure of the running capture counts unless something newer is known. -/
theorem matching_failure {captureId frameBatchId inferenceJobId : String} {revision : ℕ}
    {reason : String}
    (hmatches : (c.station s).Matches ⟨captureId, frameBatchId, inferenceJobId⟩)
    (hopen : c.locked = none) :
    c.next (.recordStationFailure s captureId frameBatchId inferenceJobId revision reason) =
      if revision < (c.station s).lastFailureRevision ∨
          revision = (c.station s).lastFailureRevision ∧ (c.station s).failed = true then c
      else touch (c.setStation s { c.station s with
        failed := true, failureReason := reason, frameBatchId := frameBatchId
        inferenceJobId := inferenceJobId, lastFailureRevision := revision }) := by
  obtain ⟨hcapture, hbatch, hjob⟩ := hmatches
  have hnocapture : ¬ ((c.station s).captureId ≠ "" ∧ (c.station s).captureId ≠ captureId) :=
    fun h => hcapture.elim h.1 h.2
  have hnobatch : ¬ ((c.station s).frameBatchId ≠ "" ∧
      (c.station s).frameBatchId ≠ frameBatchId) := fun h => hbatch.elim h.1 h.2
  have hnojob : ¬ ((c.station s).inferenceJobId ≠ "" ∧
      (c.station s).inferenceJobId ≠ inferenceJobId) := fun h => hjob.elim h.1 h.2
  simp only [next, ContextOp.apply, ContextOp.reply, recordStationFailure, if_neg hnocapture,
    if_neg hnobatch, if_neg hnojob, hopen, Option.isSome_none, Bool.false_eq_true, false_or]
  by_cases hold : revision < (c.station s).lastFailureRevision
  · rw [if_pos hold, if_pos (.inl hold)]
  by_cases hknown : revision = (c.station s).lastFailureRevision ∧ (c.station s).failed = true
  · rw [if_neg hold, if_pos hknown, if_pos (.inr hknown)]
  · rw [if_neg hold, if_neg hknown, if_neg (not_or.mpr ⟨hold, hknown⟩)]

@[simp] theorem station_set_touch (c : ProductContext) (s : StationId) (i : StationInspection) :
    (c.setStation s i).touch.station s = i := station_setStation_self c s i

structure Delivering (ids : StationId → CaptureIds) (initial : ProductContext)
    (ops : List ContextOp) (c : ProductContext) : Prop where
  reworked : Reworked initial c
  delivered : ∀ s, Delivered s ops (initial.station s) (c.station s)
  idsMatch : ∀ s, (c.station s).Matches (ids s)
  oldest : ∀ s, (c.station s).failed = false →
    (c.station s).lastFailureRevision = (initial.station s).lastFailureRevision

variable {ids : StationId → CaptureIds} {initial : ProductContext} {ops : List ContextOp}
  {op : ContextOp}

theorem Delivering.unlocked (hopen : initial.locked = none) (h : Delivering ids initial ops c) :
    c.locked = none := by
  obtain ⟨stations, revision, rfl⟩ := h.reworked
  exact hopen

theorem Delivering.keep (h : Delivering ids initial ops c) (hs : op.station? = some s)
    (hdelivered : Delivered s (ops ++ [op]) (initial.station s) (c.station s)) :
    Delivering ids initial (ops ++ [op]) c where
  reworked := h.reworked
  delivered t := by
    by_cases ht : t = s
    · exact ht ▸ hdelivered
    · exact (h.delivered t).of_other fun heq => ht (Option.some.inj (heq.symm.trans hs))
  idsMatch := h.idsMatch
  oldest := h.oldest

theorem Delivering.set_station (h : Delivering ids initial ops c) (hs : op.station? = some s)
    {i : StationInspection} (hdelivered : Delivered s (ops ++ [op]) (initial.station s) i)
    (hmatches : i.Matches (ids s))
    (holdest : i.failed = false →
      i.lastFailureRevision = (initial.station s).lastFailureRevision) :
    Delivering ids initial (ops ++ [op]) (c.setStation s i).touch where
  reworked := by
    obtain ⟨stations, revision, rfl⟩ := h.reworked
    exact ⟨_, _, rfl⟩
  delivered t := by
    by_cases ht : t = s
    · subst ht
      rw [station_set_touch]
      exact hdelivered
    · rw [station_touch, station_setStation_of_ne c i ht]
      exact (h.delivered t).of_other fun heq => ht (Option.some.inj (heq.symm.trans hs))
  idsMatch t := by
    by_cases ht : t = s
    · subst ht
      rw [station_set_touch]
      exact hmatches
    · rw [station_touch, station_setStation_of_ne c i ht]
      exact h.idsMatch t
  oldest t := by
    by_cases ht : t = s
    · subst ht
      rw [station_set_touch]
      exact holdest
    · rw [station_touch, station_setStation_of_ne c i ht]
      exact h.oldest t

theorem next_result (hopen : initial.locked = none) {d : StationDecision}
    (hall : Deliverable ids (ops ++ [.applyStationResult d])) (h : Delivering ids initial ops c) :
    Delivering ids initial (ops ++ [.applyStationResult d]) (c.next (.applyStationResult d)) := by
  have hmem : ContextOp.applyStationResult d ∈ ops ++ [.applyStationResult d] :=
    List.mem_append_right _ (List.mem_singleton_self _)
  obtain ⟨hids, -⟩ : d.ids = ids d.stationId ∧ (d.stationId = .a → d.verdict ≠ .ng) :=
    hall.ofCaptures _ hmem
  have hfailed : ∀ oldest, FailureIn d.stationId oldest (ops ++ [.applyStationResult d]) ↔
      FailureIn d.stationId oldest ops := fun oldest => failure_in_other (by simp)
  have hmatches := h.idsMatch d.stationId
  obtain ⟨hdecision, hflag, hconflicted⟩ := h.delivered d.stationId
  rw [← hids] at hmatches
  rw [← hfailed] at hflag
  have heffect := result_effect hmatches (h.unlocked hopen)
  generalize c.next (.applyStationResult d) = e at heffect ⊢
  cases heffect with
  | ignored p hp hold =>
    rw [hp] at hdecision
    obtain ⟨hin, hps, hnewest⟩ := hdecision
    refine h.keep rfl ⟨?_, hflag, hconflicted⟩
    rw [hp]
    refine ⟨List.mem_append_left _ hin, hps, fun e he hes => ?_⟩
    rcases List.mem_append.mp he with he | he
    · exact hnewest e he hes
    obtain rfl := ContextOp.applyStationResult.inj (List.mem_singleton.mp he)
    rcases hold with ⟨ha, hng⟩ | hold | rfl
    · exact absurd hng ((hall.ofCaptures _ (List.mem_append_left _ hin)).2 (hps.trans ha))
    · exact hold.le
    · exact le_rfl
  | stored hnewer =>
    have hset := stored_matches hmatches
    rw [stored_decision, hids] at hset
    refine h.set_station rfl ⟨⟨hmem, rfl, fun e he hes => ?_⟩, hflag, hconflicted⟩ hset
      (h.oldest d.stationId)
    rcases List.mem_append.mp he with he | he
    · cases hp : (c.station d.stationId).decision with
      | none =>
        rw [hp] at hdecision
        exact absurd hes (hdecision e he)
      | some p =>
        rw [hp] at hdecision
        exact (hdecision.2.2 e he hes).trans (hnewer p hp).1.le
    · rw [ContextOp.applyStationResult.inj (List.mem_singleton.mp he)]
  | conflict p hp hclash message =>
    rw [hp] at hdecision
    obtain ⟨hin, hps, -⟩ := hdecision
    have hin' := List.mem_append_left [ContextOp.applyStationResult d] hin
    rcases hclash with ⟨ha, hng, -⟩ | ⟨hrevision, hdiffers⟩
    · exact absurd hng ((hall.ofCaptures _ hin').2 (hps.trans ha))
    · exact absurd (hall.distinct d p hmem hin' hps.symm hrevision) hdiffers

theorem failure_in_singleton {captureId frameBatchId inferenceJobId : String} {revision : ℕ}
    {reason : String} {oldest : ℕ} : FailureIn s oldest
      [.recordStationFailure s captureId frameBatchId inferenceJobId revision reason] ↔
        oldest ≤ revision := by
  constructor
  · rintro ⟨_, _, _, _, _, hle, hmem⟩
    cases List.mem_singleton.mp hmem
    exact hle
  · exact fun hle => ⟨_, _, _, _, _, hle, List.mem_singleton_self _⟩

theorem next_failure (hopen : initial.locked = none)
    {captureId frameBatchId inferenceJobId : String} {revision : ℕ} {reason : String}
    (hids : CaptureIds.mk captureId frameBatchId inferenceJobId = ids s)
    (h : Delivering ids initial ops c) :
    Delivering ids initial (ops ++
        [.recordStationFailure s captureId frameBatchId inferenceJobId revision reason])
      (c.next (.recordStationFailure s captureId frameBatchId inferenceJobId revision reason)) := by
  have hmatches := h.idsMatch s
  have holdest := h.oldest s
  obtain ⟨hdecision, hflag, hconflicted⟩ := h.delivered s
  have hnewest : Newest s (ops ++
      [.recordStationFailure s captureId frameBatchId inferenceJobId revision reason])
        (c.station s).decision := newest_of_other (fun d hd => by cases hd) hdecision
  rw [← hids] at hmatches
  rw [matching_failure hmatches (h.unlocked hopen)]
  split
  · rename_i hold
    refine h.keep rfl ⟨hnewest, ?_, hconflicted⟩
    rw [hflag, failure_in_append, failure_in_singleton, ← or_assoc, ← hflag]
    cases hfailed : (c.station s).failed with
    | true => simp
    | false =>
      rw [holdest hfailed, hfailed] at hold
      simp only [Bool.false_eq_true, and_false, or_false, false_or, false_iff, not_le] at hold ⊢
      exact hold
  · rename_i hnewer
    refine h.set_station rfl ⟨hnewest, ?_, hconflicted⟩
      ⟨hids ▸ hmatches.captureId, .inr (hids ▸ rfl), .inr (hids ▸ rfl)⟩ (fun h => by cases h)
    rw [failure_in_append, failure_in_singleton, ← or_assoc, ← hflag]
    cases hfailed : (c.station s).failed with
    | true => simp
    | false =>
      rw [holdest hfailed] at hnewer
      simp only [not_or, not_lt] at hnewer
      simpa using hnewer.1

/-- Whatever the messages are, the next one adds itself to what is known. -/
theorem next_delivering (hopen : initial.locked = none) (hall : Deliverable ids (ops ++ [op]))
    (h : Delivering ids initial ops c) : Delivering ids initial (ops ++ [op]) (c.next op) := by
  have hop := hall.ofCaptures op (List.mem_append_right _ (List.mem_singleton_self op))
  cases op with
  | applyStationResult d => exact next_result hopen hall h
  | recordStationFailure s captureId frameBatchId inferenceJobId revision reason =>
    exact next_failure hopen hop h
  | _ => exact hop.elim

theorem Deliverable.of_subset {rest : List ContextOp} (h : Deliverable ids ops)
    (hsub : ∀ op ∈ rest, op ∈ ops) : Deliverable ids rest where
  ofCaptures op hop := h.ofCaptures op (hsub op hop)
  distinct d e hd he := h.distinct d e (hsub _ hd) (hsub _ he)

theorem run_delivering (hopen : initial.locked = none) {rest : List ContextOp}
    (hall : Deliverable ids (ops ++ rest)) (h : Delivering ids initial ops c) :
    Delivering ids initial (ops ++ rest) (runTrace next c rest) := by
  induction rest generalizing ops c with
  | nil => simpa [runTrace] using h
  | cons op rest ih =>
    have hsplit : ops ++ op :: rest = ops ++ [op] ++ rest := by simp
    rw [hsplit] at hall ⊢
    exact ih hall (next_delivering hopen
      (hall.of_subset fun other hother => List.mem_append_left _ hother) h)

theorem initial_delivering (h : ∀ s, initial.Awaits s (ids s)) :
    Delivering ids initial [] initial where
  reworked := ⟨_, _, rfl⟩
  delivered s := by
    refine ⟨?_, ?_, rfl⟩
    · rw [(h s).undecided]
      simp [Newest]
    · simp [FailureIn]
  idsMatch s := (h s).idsMatch
  oldest s _ := rfl

/-- Two orders of the same messages, with any repetitions, leave the newest decisions, the same
flags and the same verdict. -/
theorem delivery_order_irrelevant (hawaits : ∀ s, initial.Awaits s (ids s))
    {ops rest : List ContextOp} (hall : Deliverable ids ops) (hsame : ∀ op, op ∈ rest ↔ op ∈ ops) :
    let c := runTrace next initial ops
    let d := runTrace next initial rest
    (∀ s, Newest s ops (c.station s).decision ∧ (c.station s).decision = (d.station s).decision ∧
      (c.station s).failed = (d.station s).failed ∧
      (c.station s).conflicted = (d.station s).conflicted) ∧
    ∀ e step, (c.lockAtSensor3 e step).1.map (·.verdict) =
      (d.lockAtSensor3 e step).1.map (·.verdict) := by
  have hopen := (hawaits .a).unlocked
  have hc : Delivering ids initial ops (runTrace next initial ops) :=
    run_delivering hopen hall (initial_delivering hawaits)
  have hd : Delivering ids initial rest (runTrace next initial rest) :=
    run_delivering hopen (hall.of_subset fun op hop => (hsame op).mp hop)
      (initial_delivering hawaits)
  have hagree := fun s => (hc.delivered s).agree hall hsame (hd.delivered s)
  exact ⟨fun s => ⟨(hc.delivered s).decision, hagree s⟩,
    hc.reworked.locks hd.reworked hopen (candidate_verdict_congr hagree)⟩

def waitingProduct : ProductContext where
  productId := "product-1"
  fifoSequence := 1
  physicalState := .sensor3Wait

def captureOf : StationId → CaptureIds
  | .a => ⟨"capture-a", "batch-a", "job-a"⟩
  | .b => ⟨"capture-b", "batch-b", "job-b"⟩

def resultOf (s : StationId) (verdict : Verdict) (revision : ℕ) : ContextOp :=
  .applyStationResult ⟨s, verdict, revision, (captureOf s).captureId, (captureOf s).inferenceJobId,
    (captureOf s).frameBatchId⟩

/-- An old NG of station B comes late and twice. -/
theorem late_result_ignored :
    let c := runTrace next waitingProduct [resultOf .a .pass 1, resultOf .b .ng 1,
      resultOf .b .pass 2]
    let d := runTrace next waitingProduct [resultOf .b .pass 2, resultOf .b .ng 1,
      resultOf .a .pass 1, resultOf .b .ng 1]
    (c.lockAtSensor3 "sensor3-1" 20).1.map (·.verdict) =
        (d.lockAtSensor3 "sensor3-1" 20).1.map (·.verdict) ∧
      (d.lockAtSensor3 "sensor3-1" 20).1.toOption.map (·.verdict) = some .pass := by
  have hawaits : ∀ s, waitingProduct.Awaits s (captureOf s) := by
    intro s
    cases s <;> exact ⟨rfl, rfl, .inl rfl, .inl rfl, .inl rfl⟩
  have hall : Deliverable captureOf [resultOf .a .pass 1, resultOf .b .ng 1,
      resultOf .b .pass 2] := by
    constructor
    · simp [OfCaptures, resultOf, StationDecision.ids]
    · simp only [resultOf, List.mem_cons, ContextOp.applyStationResult.injEq, List.not_mem_nil,
        or_false]
      rintro d e (rfl | rfl | rfl) (rfl | rfl | rfl) <;> simp
  refine ⟨(delivery_order_irrelevant hawaits hall fun op => ?_).2 _ _, by decide +kernel⟩
  simp only [List.mem_cons, List.not_mem_nil, or_false]
  tauto

end ProductContext

end InspectionLine
