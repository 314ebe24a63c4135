import InspectionLine.StationMessage
import InspectionLine.InputRuns

/-! # PASS safety of the Sensor3 lock

Runs of the product operations under the discipline of the callers: station messages pass
the judgement first, every capture gets a fresh id, and only a station without a result is
reset. The failures of a run are kept in a list that no operation of the program reads. -/
namespace InspectionLine

open InputRuns
open ContextOp (FailureKind StationEffect recordedFailure station_effect locked_effect)

structure FailureRecord where
  productId : String
  fifoSequence : ℕ
  station : StationId
  kind : FailureKind
  deriving DecidableEq

structure Line where
  ledger : ProductLedger
  failures : List FailureRecord

namespace Line

def initial : Line := ⟨.initial, []⟩

/-- The record an operation on one product leaves in the history of the run. -/
def recordOf (line : Line) (productId : String) (op : ContextOp) : Option FailureRecord :=
  (line.ledger.byId.get? productId).bind fun c =>
    (recordedFailure op (line.ledger.operate productId op).1).map fun f =>
      ⟨productId, c.fifoSequence, f.1, f.2⟩

def operate (line : Line) (productId : String) (op : ContextOp) : Line where
  ledger := (line.ledger.operate productId op).2
  failures := (line.recordOf productId op).toList ++ line.failures

/-- begin_station_cycle followed, unless it raised, by register_capture. -/
def startCapture (line : Line) (productId : String) (s : StationId)
    (positionCommandId captureId : String) : Line :=
  let begun := line.operate productId (.beginStationCycle s positionCommandId captureId)
  match (line.ledger.operate productId (.beginStationCycle s positionCommandId captureId)).1 with
  | .error _ => begun
  | .ok _ => { begun with ledger := (begun.ledger.registerCapture captureId productId s).2 }

inductive Step where
  | register (productId : String) (fifoSequence : ℕ)
  | context (productId : String) (op : ContextOp)
  | startCapture (productId : String) (s : StationId) (positionCommandId captureId : String)
  | stationResult (facts : StationMessageFacts)
  | stationFailure (facts : StationMessageFacts) (reason : String)
  | removeCompletedPrefix (nowNs : ℤ)
  | clearActive (nowNs : ℤ)
  | pruneRemoved (cutoffNs : ℤ)

def next (line : Line) : Step → Line
  | .register p f => { line with ledger := (line.ledger.register p f).2 }
  | .context p op => line.operate p op
  | .startCapture p s pos cap => line.startCapture p s pos cap
  | .stationResult facts =>
    match stationResultOp line.ledger facts with
    | some op => line.operate facts.productId op
    | none => line
  | .stationFailure facts reason =>
    match stationFailureOp line.ledger facts reason with
    | some op => line.operate facts.productId op
    | none => line
  | .removeCompletedPrefix now => { line with ledger := (line.ledger.removeCompletedPrefix now).2 }
  | .clearActive now => { line with ledger := (line.ledger.clearActive now).2 }
  | .pruneRemoved cutoff => { line with ledger := (line.ledger.pruneRemoved cutoff).2 }

/-- Operations called directly: messages and capture starts have steps of their own, and a
station is reset only while its result is not completed. -/
def Direct (L : ProductLedger) (p : String) : ContextOp → Prop
  | .applyStationResult _ | .recordStationFailure .. | .recordStationContractFailure ..
  | .beginStationCycle .. => False
  | .resetUnfinishedStationCycle s =>
    ∀ c ∈ L.byId.get? p, (c.station s).resultCompleted = false
  | _ => True

instance (L : ProductLedger) (p : String) (op : ContextOp) : Decidable (Direct L p op) := by
  cases op <;> dsimp only [Direct] <;> infer_instance

def FreshCapture (L : ProductLedger) (captureId : String) : Prop :=
  captureId ≠ "" ∧ L.captureOwner captureId = none

def Admits (line : Line) : Step → Prop
  | .context p op => Direct line.ledger p op
  | .startCapture _ _ _ cap => FreshCapture line.ledger cap
  | _ => True

instance (line : Line) (e : Step) : Decidable (Admits line e) := by
  cases e <;> dsimp only [Admits, FreshCapture] <;> infer_instance

abbrev Run : Line → Line → Prop := Execution next Admits

def Reachable (line : Line) : Prop := Run initial line

def Flagged (i : StationInspection) : Prop := i.failed = true ∨ i.conflicted = true

structure ContextSafe (L : ProductLedger) (failures : List FailureRecord) (p : String)
    (c : ProductContext) : Prop where
  pending : ∀ s, (c.station s).processState = .pending → (c.station s).captureId = ""
  decided : ∀ s d, (c.station s).decision = some d →
    d.captureId = (c.station s).captureId ∧ L.captureOwner d.captureId = some (p, s)
  recorded : ∀ r ∈ failures, r.productId = p → r.fifoSequence = c.fifoSequence →
    Flagged (c.station r.station)

structure Invariant (line : Line) : Prop where
  anonymous : line.ledger.captureOwner "" = none
  past : ∀ r ∈ line.failures, r.fifoSequence ≤ line.ledger.lastSequence
  safe : ∀ p c, line.ledger.byId.get? p = some c →
    ContextSafe line.ledger line.failures p c

private theorem initial_invariant : Invariant initial := by
  refine ⟨rfl, ?_, ?_⟩
  · intro r hr
    cases hr
  · intro p c hc
    cases hc

/-- A station that has never started holds no decision. -/
theorem undecided_of_pending {line : Line} (h : Invariant line) {p : String} {c : ProductContext}
    (hc : line.ledger.byId.get? p = some c) {s : StationId}
    (hp : (c.station s).processState = .pending) : (c.station s).decision = none := by
  cases hd : (c.station s).decision with
  | none => rfl
  | some d =>
    obtain ⟨hcap, howner⟩ := (h.safe p c hc).decided s d hd
    rw [hcap, (h.safe p c hc).pending s hp, h.anonymous] at howner
    cases howner

theorem mem_recordOf {line : Line} {p : String} {c : ProductContext}
    (hc : line.ledger.byId.get? p = some c) {op : ContextOp} {r : FailureRecord} :
    r ∈ (line.recordOf p op).toList ↔
      r.productId = p ∧ r.fifoSequence = c.fifoSequence ∧
        recordedFailure op (op.apply c).1 = some (r.station, r.kind) := by
  simp only [recordOf, hc, Option.bind_some, ProductLedger.operate_outcome hc,
    Option.mem_toList, Option.map_eq_some_iff]
  constructor
  · rintro ⟨f, hf, rfl⟩
    exact ⟨rfl, rfl, hf⟩
  · rintro ⟨hp, hf, hr⟩
    exact ⟨_, hr, by cases r; simp_all⟩

theorem recordOf_absent {line : Line} {p : String} (hc : line.ledger.byId.get? p = none)
    (op : ContextOp) : line.recordOf p op = none := by
  simp [recordOf, hc]

/-- A station whose failure has just been recorded is flagged, and flags stay. -/
theorem flagged_after {c : ProductContext} {op : ContextOp} {s : StationId}
    (hreset : op = .resetUnfinishedStationCycle s → (c.station s).resultCompleted = false)
    (h : Flagged (c.station s) ∨ ∃ k, recordedFailure op (op.apply c).1 = some (s, k)) :
    Flagged ((op.apply c).2.station s) := by
  rcases station_effect op c s with
    ⟨hk, hq⟩ | ⟨pos, cap, hop, -, -, hj⟩ | ⟨hop, -, -, -⟩ | ⟨d, hop, -, hok, -, -, hf, hx, -⟩ |
    ⟨-, -, -, -, hbad, -⟩
  · rcases h with h | ⟨k, hr⟩
    · rwa [Flagged, hk.failed, hk.conflicted]
    · exact absurd hr (hq k)
  · rcases h with h | ⟨k, hr⟩
    · rwa [hj]
    · rw [hop] at hr
      cases hr
  · have hnone := hreset hop
    simp only [StationInspection.resultCompleted, Bool.or_eq_false_iff] at hnone
    rcases h with (h | h) | ⟨k, hr⟩
    · rw [hnone.1.2] at h
      cases h
    · rw [hnone.2] at h
      cases h
    · rw [hop] at hr
      cases hr
  · rcases h with h | ⟨k, hr⟩
    · rwa [Flagged, hf, hx]
    · rw [hok, hop] at hr
      cases hr
  · exact hbad

/-- One operation keeps a product safe when a reset meets no result and a stored decision
is about the running capture. -/
theorem apply_keeps_safe {line : Line} (h : Invariant line) {p : String} {c : ProductContext}
    (hc : line.ledger.byId.get? p = some c) (op : ContextOp)
    (hreset : ∀ s, op = .resetUnfinishedStationCycle s → (c.station s).resultCompleted = false)
    (hdecide : ∀ d, op = .applyStationResult d →
      d.captureId = (c.station d.stationId).captureId ∧
        line.ledger.captureOwner d.captureId = some (p, d.stationId)) :
    ContextSafe line.ledger ((line.recordOf p op).toList ++ line.failures) p (op.apply c).2 := by
  have hsafe := h.safe p c hc
  refine ⟨?_, ?_, ?_⟩
  · intro s hp
    rcases station_effect op c s with
      ⟨hk, -⟩ | ⟨pos, cap, -, -, -, hj⟩ | ⟨-, -, -, hj⟩ | ⟨d, -, -, -, -, hcap, -, -, hproc⟩ |
      ⟨-, -, hcap, -, -, hpend⟩
    · rw [hk.captureId]
      exact hsafe.pending s (hk.pending hp)
    · rw [hj] at hp
      cases hp
    · rw [hj]
    · rw [hcap]
      exact hsafe.pending s (hproc ▸ hp)
    · rw [hcap]
      exact hsafe.pending s (hpend hp)
  · intro s d hd
    rcases station_effect op c s with
      ⟨hk, -⟩ | ⟨pos, cap, -, -, hpend, hj⟩ | ⟨-, -, -, hj⟩ |
      ⟨e, hop, hs, -, hdec, hcap, -, -, -⟩ | ⟨-, -, hcap, hdec, -, -⟩
    · rw [hk.captureId]
      exact hsafe.decided s d (hk.decision ▸ hd)
    · rw [hj] at hd
      have hnone : (c.station s).decision = none := undecided_of_pending h hc hpend
      exact absurd hd (by simp [hnone])
    · rw [hj] at hd
      cases hd
    · rw [hdec] at hd
      cases hd
      obtain ⟨hcapture, howner⟩ := hdecide d hop
      rw [hs] at hcapture howner
      exact ⟨hcapture.trans hcap.symm, howner⟩
    · rw [hcap]
      exact hsafe.decided s d (hdec ▸ hd)
  · intro r hr hp hf
    have hsame := (op.apply_same_identity c).fifoSequence
    refine flagged_after (hreset r.station) ?_
    rcases List.mem_append.mp hr with hr | hr
    · exact .inr ⟨r.kind, ((mem_recordOf hc).mp hr).2.2⟩
    · exact .inl (hsafe.recorded r hr hp (hf.trans hsame))

theorem operate_preserves_invariant {line : Line} (h : Invariant line) (p : String) (op : ContextOp)
    (hreset : ∀ c, line.ledger.byId.get? p = some c → ∀ s, op = .resetUnfinishedStationCycle s →
      (c.station s).resultCompleted = false)
    (hdecide : ∀ c, line.ledger.byId.get? p = some c → ∀ d, op = .applyStationResult d →
      d.captureId = (c.station d.stationId).captureId ∧
        line.ledger.captureOwner d.captureId = some (p, d.stationId)) :
    Invariant (line.operate p op) := by
  refine ⟨?_, ?_, ?_⟩
  · simpa [operate, ProductLedger.captureOwner] using h.anonymous
  · intro r hr
    simp only [operate, ProductLedger.lastSequence_operate]
    rcases List.mem_append.mp hr with hr | hr
    · cases hc : line.ledger.byId.get? p with
      | none =>
        rw [recordOf_absent hc] at hr
        cases hr
      | some c =>
        rw [((mem_recordOf hc).mp hr).2.1]
        exact (line.ledger.identified p c hc).2.2.1
    · exact h.past r hr
  · intro q d hd
    simp only [operate, ProductLedger.get?_operate] at hd
    have howner : ∀ k, (line.operate p op).ledger.captureOwner k = line.ledger.captureOwner k := by
      intro k
      simp [operate, ProductLedger.captureOwner]
    split at hd
    · rename_i hq
      subst hq
      obtain ⟨c, hc, rfl⟩ := Option.map_eq_some_iff.mp hd
      have hsafe := apply_keeps_safe h hc op (hreset c hc) (hdecide c hc)
      refine ⟨hsafe.pending, ?_, hsafe.recorded⟩
      intro s d hd
      rw [howner]
      exact hsafe.decided s d hd
    · rename_i hq
      have hsafe := h.safe q d hd
      refine ⟨hsafe.pending, ?_, ?_⟩
      · intro s e he
        rw [howner]
        exact hsafe.decided s e he
      · intro r hr hp hf
        rcases List.mem_append.mp hr with hr | hr
        · cases hc : line.ledger.byId.get? p with
          | none =>
            rw [recordOf_absent hc] at hr
            cases hr
          | some c => exact absurd (hp.symm.trans ((mem_recordOf hc).mp hr).1) hq
        · exact hsafe.recorded r hr hp hf

theorem register_preserves_invariant {line : Line} (h : Invariant line) (p : String) (f : ℕ) :
    Invariant { line with ledger := (line.ledger.register p f).2 } := by
  rcases line.ledger.register_cases p f with he | ⟨habsent, hfifo, he⟩
  · rw [he]
    exact h
  · rw [he]
    refine ⟨h.anonymous, fun r hr => (h.past r hr).trans hfifo.le, ?_⟩
    intro q d hd
    simp only [ProductLedger.enqueue, OrderedDict.get?_insert] at hd
    split at hd
    · cases hd
      refine ⟨fun _ _ => rfl, fun _ _ hdec => absurd hdec (by simp [ProductContext.station]), ?_⟩
      intro r hr _ hrf
      have hpast : r.fifoSequence ≤ line.ledger.lastSequence := h.past r hr
      simp only at hrf
      omega
    · have hsafe := h.safe q d hd
      exact ⟨hsafe.pending, hsafe.decided, hsafe.recorded⟩

theorem register_capture_preserves_invariant {line : Line} (h : Invariant line) {cap : String}
    (hfresh : FreshCapture line.ledger cap) (p : String) (s : StationId) :
    Invariant { line with ledger := (line.ledger.registerCapture cap p s).2 } := by
  have he : (line.ledger.registerCapture cap p s).2 =
      { line.ledger with captureOwners := line.ledger.captureOwners.insert cap (p, s) } := by
    have hnone : line.ledger.captureOwners.get? cap = none := hfresh.2
    unfold ProductLedger.registerCapture
    split
    · simp_all
    · rfl
  rw [he]
  refine ⟨?_, h.past, ?_⟩
  · exact (OrderedDict.get?_insert_of_ne _ _ hfresh.1.symm).trans h.anonymous
  · intro q c hc
    have hsafe := h.safe q c hc
    refine ⟨hsafe.pending, ?_, hsafe.recorded⟩
    intro t d hd
    obtain ⟨hcap, howner⟩ := hsafe.decided t d hd
    refine ⟨hcap, ?_⟩
    have hne : d.captureId ≠ cap := by
      rintro rfl
      rw [hfresh.2] at howner
      cases howner
    exact (OrderedDict.get?_insert_of_ne _ _ hne).trans howner

theorem start_capture_preserves_invariant {line : Line} (h : Invariant line) (p : String)
    (s : StationId) (pos cap : String) (hfresh : FreshCapture line.ledger cap) :
    Invariant (line.startCapture p s pos cap) := by
  have hbegun : Invariant (line.operate p (.beginStationCycle s pos cap)) :=
    operate_preserves_invariant h p _ (fun _ _ _ h => by cases h) (fun _ _ _ h => by cases h)
  simp only [startCapture]
  split
  · exact hbegun
  · refine register_capture_preserves_invariant hbegun ⟨hfresh.1, ?_⟩ p s
    simpa [operate, ProductLedger.captureOwner] using hfresh.2

theorem carries_preserves_invariant {line : Line} (h : Invariant line) {M : ProductLedger}
    (hc : ProductLedger.Carries line.ledger M) : Invariant { line with ledger := M } := by
  refine ⟨?_, ?_, ?_⟩
  · cases ho : M.captureOwner "" with
    | none => rfl
    | some o => exact absurd (hc.owned "" o ho) (by simp [h.anonymous])
  · intro r hr
    exact hc.lastSequence ▸ h.past r hr
  · intro p d hd
    obtain ⟨c, hcc, hs, -, -, hf⟩ := hc.context p d hd
    have hsafe := h.safe p c hcc
    have hstation : ∀ s, d.station s = c.station s := fun s => congrFun hs s
    refine ⟨?_, ?_, ?_⟩
    · intro s hp
      rw [hstation] at hp ⊢
      exact hsafe.pending s hp
    · intro s e he
      rw [hstation] at he ⊢
      obtain ⟨hcap, howner⟩ := hsafe.decided s e he
      exact ⟨hcap, hc.owner p d _ s hd howner⟩
    · intro r hr hrp hrf
      rw [hstation]
      exact hsafe.recorded r hr hrp (hrf.trans hf)

theorem step_preserves_invariant {line : Line} {e : Step} (h : Invariant line)
    (he : Admits line e) : Invariant (next line e) := by
  cases e with
  | register p f => exact register_preserves_invariant h p f
  | context p op =>
    refine operate_preserves_invariant h p op ?_ ?_
    · rintro c hc s rfl
      exact he c hc
    · rintro c hc d rfl
      exact he.elim
  | startCapture p s pos cap => exact start_capture_preserves_invariant h p s pos cap he
  | stationResult facts =>
    simp only [next]
    split
    · rename_i op hop
      rcases station_result_op_live hop with ⟨s, reason, rfl⟩ | ⟨s, c, v, rfl, hc, howner, hactive⟩
      · exact operate_preserves_invariant h _ _ (fun _ _ _ h => by cases h)
          (fun _ _ _ h => by cases h)
      · refine operate_preserves_invariant h _ _ (fun _ _ _ h => by cases h) ?_
        rintro d hd e he'
        cases he'
        rw [hc] at hd
        cases hd
        exact ⟨hactive.symm, howner⟩
    · exact h
  | stationFailure facts reason =>
    simp only [next]
    split
    · rename_i op hop
      rcases station_failure_op_cases hop with ⟨s, text, rfl⟩ | ⟨s, rfl⟩ <;>
        exact operate_preserves_invariant h _ _ (fun _ _ _ h => by cases h)
          (fun _ _ _ h => by cases h)
    · exact h
  | removeCompletedPrefix now =>
    exact carries_preserves_invariant h (ProductLedger.remove_completed_prefix_carries _ _)
  | clearActive now =>
    exact carries_preserves_invariant h (ProductLedger.clear_active_carries _ _)
  | pruneRemoved cutoff =>
    exact carries_preserves_invariant h (ProductLedger.prune_removed_carries _ _)

theorem reachable_invariant {line : Line} (h : Reachable line) : Invariant line :=
  h.invariant (fun _ _ hi he => step_preserves_invariant hi he) initial_invariant

/-- PASS needs two clean stations with a PASS decision each. -/
theorem pass_candidate {c : ProductContext}
    (h : c.candidateVerdict.1.getD .forcedNg = .pass) :
    ∀ s, ¬ Flagged (c.station s) ∧ ∃ d, (c.station s).decision = some d ∧ d.verdict = .pass := by
  simp only [ProductContext.candidateVerdict] at h
  split at h
  · cases h
  · rename_i hA
    split at h
    · cases h
    · split at h
      · cases h
      · rename_i hB
        simp only [Bool.or_eq_true] at hA hB
        split at h
        · rename_i a b ha hb
          split at h
          · rename_i hp
            intro s
            cases s with
            | a => exact ⟨hA, a, ha, hp.1⟩
            | b => exact ⟨hB, b, hb, hp.2⟩
          · cases h
        · cases h

/-- The lock of one product: while it is in the ledger, the lock is the same. -/
structure Locked (p : String) (f : ℕ) (l : LockedProduct) (line : Line) : Prop where
  past : f ≤ line.ledger.lastSequence
  locked : ∀ c, line.ledger.byId.get? p = some c → c.fifoSequence = f → c.locked = some l

theorem operate_preserves_locked {p : String} {f : ℕ} {l : LockedProduct} {line : Line}
    (h : Locked p f l line) (q : String) (op : ContextOp) : Locked p f l (line.operate q op) := by
  refine ⟨by simpa [operate] using h.past, ?_⟩
  intro d hd hf
  simp only [operate, ProductLedger.get?_operate] at hd
  split at hd
  · obtain ⟨c, hc, rfl⟩ := Option.map_eq_some_iff.mp hd
    have hl : c.locked = some l := h.locked c hc ((op.apply_same_identity c).fifoSequence ▸ hf)
    rcases locked_effect op c with he | ⟨e, step, -, hnone, -⟩
    · rw [he, hl]
    · rw [hl] at hnone
      cases hnone
  · exact h.locked d hd hf

theorem carries_preserves_locked {p : String} {f : ℕ} {l : LockedProduct} {line : Line}
    (h : Locked p f l line) {M : ProductLedger} (hc : ProductLedger.Carries line.ledger M) :
    Locked p f l { line with ledger := M } := by
  refine ⟨hc.lastSequence ▸ h.past, ?_⟩
  intro d hd hf
  obtain ⟨c, hcc, -, hl, -, hfifo⟩ := hc.context p d hd
  exact hl.trans (h.locked c hcc (hfifo ▸ hf))

theorem register_capture_ledger (L : ProductLedger) (cap p : String) (s : StationId) :
    (L.registerCapture cap p s).2.byId = L.byId ∧
      (L.registerCapture cap p s).2.lastSequence = L.lastSequence := by
  unfold ProductLedger.registerCapture
  repeat' split
  all_goals exact ⟨rfl, rfl⟩

theorem step_preserves_locked {p : String} {f : ℕ} {l : LockedProduct} {line : Line}
    (h : Locked p f l line) (e : Step) : Locked p f l (next line e) := by
  cases e with
  | register q g =>
    simp only [next]
    rcases line.ledger.register_cases q g with he | ⟨habsent, hfifo, he⟩
    · rw [he]
      exact h
    · rw [he]
      refine ⟨h.past.trans hfifo.le, ?_⟩
      intro d hd hf
      simp only [ProductLedger.enqueue, OrderedDict.get?_insert] at hd
      split at hd
      · -- a product that comes back has a newer sequence number
        cases hd
        have hpast : f ≤ line.ledger.lastSequence := h.past
        simp only at hf
        omega
      · exact h.locked d hd hf
  | context q op => exact operate_preserves_locked h q op
  | startCapture q s pos cap =>
    have hbegun := operate_preserves_locked h q (.beginStationCycle s pos cap)
    simp only [next, startCapture]
    split
    · exact hbegun
    · obtain ⟨hid, hlast⟩ := register_capture_ledger
        (line.operate q (.beginStationCycle s pos cap)).ledger cap q s
      refine ⟨hlast ▸ hbegun.past, ?_⟩
      intro d hd hf
      exact hbegun.locked d (hid ▸ hd) hf
  | stationResult facts =>
    simp only [next]
    split
    · exact operate_preserves_locked h _ _
    · exact h
  | stationFailure facts reason =>
    simp only [next]
    split
    · exact operate_preserves_locked h _ _
    · exact h
  | removeCompletedPrefix now =>
    exact carries_preserves_locked h (ProductLedger.remove_completed_prefix_carries _ _)
  | clearActive now =>
    exact carries_preserves_locked h (ProductLedger.clear_active_carries _ _)
  | pruneRemoved cutoff =>
    exact carries_preserves_locked h (ProductLedger.prune_removed_carries _ _)

/-- A product locked as PASS has two owned PASS decisions and a clean history, and no
continuation of the run changes a lock. -/
theorem pass_lock_is_safe {line after : Line} (hreach : Reachable line) {p ev : String} {step : ℤ}
    {c d : ProductContext} {l : LockedProduct}
    (hafter : after = next line (.context p (.lockAtSensor3 ev step)))
    (hc : line.ledger.byId.get? p = some c) (hopen : c.locked = none)
    (hd : after.ledger.byId.get? p = some d) (hl : d.locked = some l) :
    (l.verdict = .pass →
      (∀ s, ∃ e, (d.station s).decision = some e ∧ e.verdict = .pass ∧
        e.captureId = (d.station s).captureId ∧
        after.ledger.captureOwner e.captureId = some (p, s)) ∧
      ∀ r ∈ after.failures, ¬ (r.productId = p ∧ r.fifoSequence = d.fifoSequence)) ∧
    ∀ later, Run after later → ∀ e, later.ledger.byId.get? p = some e →
      e.fifoSequence = d.fifoSequence → e.locked = some l := by
  have hreach' : Reachable after := hafter ▸ hreach.tail _ trivial
  have hinv : Invariant after := reachable_invariant hreach'
  have hsafe : ContextSafe after.ledger after.failures p d := hinv.safe p d hd
  refine ⟨?_, ?_⟩
  · intro hpass
    have hclean : ∀ s, ¬ Flagged (d.station s) ∧
        ∃ e, (d.station s).decision = some e ∧ e.verdict = .pass := by
      have hdc : d = ((ContextOp.lockAtSensor3 ev step).apply c).2 := by
        rw [hafter] at hd
        simp only [next, operate, ProductLedger.get?_operate, hc, if_true, Option.map_some] at hd
        exact (Option.some.inj hd).symm
      rcases locked_effect (.lockAtSensor3 ev step) c with he | ⟨e, st, hop, -, -, hlock, hst⟩
      · rw [← hdc, hl, hopen] at he
        cases he
      · rw [← hdc] at hlock hst
        rw [hl] at hlock
        have hcand : c.candidateVerdict.1.getD .forcedNg = .pass := by
          rw [Option.some.inj hlock] at hpass
          exact hpass
        have hstation : ∀ s, d.station s = c.station s := fun s => congrFun hst s
        intro s
        rw [hstation]
        exact pass_candidate hcand s
    refine ⟨?_, ?_⟩
    · intro s
      obtain ⟨-, e, he, hv⟩ := hclean s
      obtain ⟨hcap, howner⟩ := hsafe.decided s e he
      exact ⟨e, he, hv, hcap, howner⟩
    · rintro r hr ⟨hp, hf⟩
      exact (hclean r.station).1 (hsafe.recorded r hr hp hf)
  · intro later hrun
    have hlocked : Locked p d.fifoSequence l after := by
      refine ⟨(after.ledger.identified p d hd).2.2.1, ?_⟩
      intro e he _
      rw [hd] at he
      cases he
      exact hl
    exact (hrun.invariant (P := Locked p d.fifoSequence l)
      (fun _ e hi _ => step_preserves_locked hi e) hlocked).locked

/-- One product through both stations up to SENSOR3_WAIT, both results PASS. -/
def passingProduct : List Step :=
  let result (s : ℕ) (captureId : String) : StationMessageFacts := {
    productId := "product-1", fifoSequence := 1, stationIdRaw := s, captureId,
    frameBatchId := captureId ++ "/batch", inferenceJobId := captureId ++ "/job",
    resultRevision := 1, verdictRaw := some 1, score := some 1 }
  let captured (s : StationId) (captureId : String) : List Step := [
    .startCapture "product-1" s (captureId ++ "/position") captureId,
    .context "product-1" (.markPositionSettled s (captureId ++ "/position")),
    .context "product-1" (.markCaptureRequested s captureId (captureId ++ "/command")),
    .context "product-1" (.markCaptureSucceeded s captureId (captureId ++ "/batch")
      (captureId ++ "/job")),
    .context "product-1" (.markConveyorResumedAfterCapture s)]
  [.register "product-1" 1, .context "product-1" (.recordSensor 1 "sensor1-1" 10)] ++
    captured .a "capture-a" ++ [.stationResult (result 1 "capture-a")] ++
    [.context "product-1" (.acceptSensor2 "sensor2-1" 20)] ++
    captured .b "capture-b" ++ [.stationResult (result 2 "capture-b")]

theorem passing_product_locks_pass :
    ∃ d l, (next (runTrace next initial passingProduct)
        (.context "product-1" (.lockAtSensor3 "sensor3-1" 30))).ledger.byId.get? "product-1" =
          some d ∧ d.locked = some l ∧ l.verdict = .pass ∧
      ∀ s, ∃ e, (d.station s).decision = some e ∧ e.captureId = (d.station s).captureId := by
  let line := runTrace next initial passingProduct
  let after := next line (.context "product-1" (.lockAtSensor3 "sensor3-1" 30))
  have hreach : Reachable line :=
    valid_trace_execution (show ValidTrace next Admits initial passingProduct by decide +kernel)
  obtain ⟨c, hc, hopen⟩ := Option.map_eq_some_iff.mp (show
    (line.ledger.byId.get? "product-1").map (·.locked) = some none by decide +kernel)
  obtain ⟨d, hd, hlock⟩ := Option.map_eq_some_iff.mp (show
    (after.ledger.byId.get? "product-1").map (fun d => d.locked.map (·.verdict)) =
      some (some .pass) by decide +kernel)
  obtain ⟨l, hl, hpass⟩ := Option.map_eq_some_iff.mp hlock
  obtain ⟨hboth, -⟩ := (pass_lock_is_safe hreach rfl hc hopen hd hl).1 hpass
  refine ⟨d, l, hd, hl, hpass, fun s => ?_⟩
  obtain ⟨e, he, -, hcap, -⟩ := hboth s
  exact ⟨e, he, hcap⟩

end Line

end InspectionLine
