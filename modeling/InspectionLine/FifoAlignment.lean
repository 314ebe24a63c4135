import InspectionLine.ForwardMotion
import InspectionLine.ActiveFifo
import Mathlib.Data.List.Chain

/-! # The products stay in line -/
namespace InspectionLine

open Supervision
open ProductContext (stationWait stationDone)

/-- One element of a chain may be replaced when the new one fits between its neighbours. -/
theorem chain_replace_iff {α : Type*} {R : α → α → Prop} {xs ys : List α} {a b : α}
    (h : (xs ++ a :: ys).IsChain R) :
    (xs ++ b :: ys).IsChain R ↔ (∀ x ∈ xs.getLast?, R x b) ∧ ∀ y ∈ ys.head?, R b y := by
  obtain ⟨hfront, hrest, _⟩ := List.isChain_append.mp h
  have hback := (List.isChain_cons.mp hrest).2
  rw [List.isChain_append, List.isChain_cons]
  constructor
  · rintro ⟨_, ⟨hbehind, _⟩, hahead⟩
    exact ⟨fun x hx => hahead x hx b rfl, hbehind⟩
  · rintro ⟨hahead, hbehind⟩
    refine ⟨hfront, ⟨hbehind, hback⟩, fun x hx y hy => ?_⟩
    cases hy
    exact hahead x hx

/-- The earlier product has got at least as far as the later one. -/
def NotOvertaken (earlier later : ProductContext) : Prop :=
  later.physicalState.value ≤ earlier.physicalState.value

namespace ProductLedger

variable {L : ProductLedger} {p : String} {c : ProductContext}

/-- The product directly ahead of another one in the FIFO, and the one directly behind it. -/
def productAhead (L : ProductLedger) (p : String) : Option ProductContext :=
  (L.activeContexts.takeWhile fun c => c.productId ≠ p).getLast?

def productBehind (L : ProductLedger) (p : String) : Option ProductContext :=
  ((L.activeContexts.dropWhile fun c => c.productId ≠ p).drop 1).head?

/-- The neighbours of a product, read off the FIFO around it. -/
theorem neighbours_of_split {front back : List ProductContext}
    (h : L.activeContexts = front ++ c :: back) :
    L.productAhead c.productId = front.getLast? ∧ L.productBehind c.productId = back.head? ∧
      (∀ e ∈ front, e.productId ≠ c.productId) ∧ ∀ e ∈ back, e.productId ≠ c.productId := by
  have hnodup := L.active_nodup
  rw [← L.active_contexts_ids, h, List.map_append, List.map_cons, List.nodup_append,
    List.nodup_cons] at hnodup
  obtain ⟨_, ⟨hback, _⟩, hfront⟩ := hnodup
  have hne : ∀ e ∈ front, e.productId ≠ c.productId := fun e he =>
    hfront _ (List.mem_map_of_mem he) _ List.mem_cons_self
  have htake : ∀ e ∈ front, decide (e.productId ≠ c.productId) = true := fun e he =>
    decide_eq_true (hne e he)
  refine ⟨?_, ?_, hne, fun e he heq => hback (heq ▸ List.mem_map_of_mem he)⟩
  · rw [productAhead, h, List.takeWhile_append_of_pos htake, List.takeWhile_cons_of_neg (by simp),
      List.append_nil]
  · rw [productBehind, h, List.dropWhile_append_of_pos htake, List.dropWhile_cons_of_neg (by simp)]
    rfl

theorem active_split (hp : p ∈ L.active) (hc : L.byId.get? p = some c) :
    ∃ front back, L.activeContexts = front ++ c :: back ∧
      L.productAhead p = front.getLast? ∧ L.productBehind p = back.head? ∧
      (∀ e ∈ front, e.productId ≠ p) ∧ ∀ e ∈ back, e.productId ≠ p := by
  obtain ⟨front, back, hsplit⟩ := List.append_of_mem (active_of_get? hp hc)
  have hneighbours := neighbours_of_split hsplit
  rw [(L.identified p c hc).1] at hneighbours
  exact ⟨front, back, hsplit, hneighbours⟩

/-- What the alignment check asks for; removed products are never in the FIFO. -/
theorem validate_alignment_iff (L : ProductLedger) :
    L.validateAlignment = true ↔ (L.activeContexts.map (·.fifoSequence)).Pairwise (· ≤ ·) ∧
      (L.activeContexts.map (·.fifoSequence)).Nodup ∧ L.activeContexts.IsChain NotOvertaken := by
  have hlive : L.activeContexts.all (fun c => !c.removed) = true := by
    rw [List.all_eq_true]
    intro c hc
    rw [(get?_of_active hc).2.2]
    rfl
  simp only [validateAlignment, hlive, Bool.and_true, Bool.and_eq_true, decide_eq_true_eq,
    and_assoc]
  rfl

/-- A method keeps the products in line exactly when it leaves its product between the one
directly ahead and the one directly behind. -/
theorem aligned_operate_iff (h : L.validateAlignment = true) (hp : p ∈ L.active)
    (hc : L.byId.get? p = some c) (op : ContextOp) :
    (L.operate p op).2.validateAlignment = true ↔
      (∀ e ∈ L.productAhead p, NotOvertaken e (op.apply c).2) ∧
        ∀ e ∈ L.productBehind p, NotOvertaken (op.apply c).2 e := by
  obtain ⟨hsorted, hnodup, hchain⟩ := (validate_alignment_iff L).mp h
  obtain ⟨front, back, hsplit, hahead, hbehind, hfront, hback⟩ := active_split hp hc
  have hsame : (L.operate p op).2.activeContexts.map (·.fifoSequence) =
      L.activeContexts.map (·.fifoSequence) := by
    rw [activeContexts_operate, List.map_map]
    refine List.map_congr_left fun e _ => ?_
    simp only [Function.comp_apply]
    split
    · exact (op.apply_same_identity e).fifoSequence
    · rfl
  have hkeep : ∀ es : List ProductContext, (∀ e ∈ es, e.productId ≠ p) →
      es.map (fun e => if e.productId = p then (op.apply e).2 else e) = es := by
    intro es hes
    refine (List.map_congr_left fun e he => ?_).trans (List.map_id es)
    rw [if_neg (hes e he)]
    rfl
  have hafter : (L.operate p op).2.activeContexts = front ++ (op.apply c).2 :: back := by
    rw [activeContexts_operate, hsplit, List.map_append, List.map_cons, hkeep front hfront,
      hkeep back hback, if_pos (L.identified p c hc).1]
  rw [validate_alignment_iff, hsame, hafter, hahead, hbehind,
    chain_replace_iff (hsplit ▸ hchain)]
  exact ⟨fun ⟨_, _, hfits⟩ => hfits, fun hfits => ⟨hsorted, hnodup, hfits⟩⟩

theorem neighbours_aligned (h : L.validateAlignment = true) (hp : p ∈ L.active)
    (hc : L.byId.get? p = some c) :
    (∀ e ∈ L.productAhead p, NotOvertaken e c) ∧ ∀ e ∈ L.productBehind p, NotOvertaken c e := by
  obtain ⟨_, _, hchain⟩ := (validate_alignment_iff L).mp h
  obtain ⟨front, back, hsplit, hahead, hbehind, _⟩ := active_split hp hc
  rw [hsplit, List.isChain_append, List.isChain_cons] at hchain
  rw [hahead, hbehind]
  exact ⟨fun e he => hchain.2.2 e he c rfl, hchain.2.1.1⟩

/-- The alignment check does not see a product that is not in the FIFO. -/
theorem aligned_of_inactive (h : L.validateAlignment = true) (hp : p ∉ L.active)
    (op : ContextOp) : (L.operate p op).2.validateAlignment = true := by
  have hsame : (L.operate p op).2.activeContexts = L.activeContexts := by
    rw [activeContexts_operate]
    refine (List.map_congr_left fun e he => ?_).trans (List.map_id _)
    have hne : e.productId ≠ p := by
      rintro rfl
      exact hp (get?_of_active he).2.1
    rw [if_neg hne]
    rfl
  rw [validate_alignment_iff] at h ⊢
  rw [hsame]
  exact h

theorem aligned_of_stays (h : L.validateAlignment = true) {op : ContextOp}
    (hop : ∀ c, L.byId.get? p = some c → (op.apply c).2.physicalState = c.physicalState) :
    (L.operate p op).2.validateAlignment = true := by
  by_cases hp : p ∈ L.active
  · obtain ⟨c, hc, _⟩ := L.active_live p hp
    refine (aligned_operate_iff h hp hc op).mpr ?_
    unfold NotOvertaken
    rw [hop c hc]
    exact neighbours_aligned h hp hc
  · exact aligned_of_inactive h hp op

/-- Everything ahead of the oldest product in a state is further than that state. -/
theorem ahead_of_oldest {state : ProductPhysicalState} (h : L.oldestInState state = .ok c)
    {e : ProductContext} (he : e ∈ L.productAhead c.productId) :
    state.value < e.physicalState.value := by
  obtain ⟨front, back, hsplit, hstate, hfront⟩ := oldest_split h
  rw [(neighbours_of_split hsplit).1] at he
  obtain ⟨hother, hvalue⟩ := hfront e (List.mem_of_getLast? he)
  refine lt_of_le_of_ne hvalue fun heq => hother ?_
  cases hs : state <;> cases hs' : e.physicalState <;> rw [hs, hs'] at heq <;>
    first | rfl | cases heq

end ProductLedger

/-! ### What takes a product along the line -/

namespace ContextOp

/-- The methods that take a product along the line, the sensors apart. -/
def walks : ContextOp → Bool
  | markCaptureSucceeded .. | markCaptureFailed .. | promoteCaptureCompletionFromVision ..
  | markConveyorResumedAfterCapture .. | markStationBSkipped .. | bypassStationB ..
  | markActuationAccepted .. | markActuationCompleted .. => true
  | _ => false

/-- Nothing in the product speaks against the method: it does not raise, and there is something
to do. -/
def Due (c : ProductContext) : ContextOp → Prop
  | markCaptureSucceeded s captureId frameBatchId inferenceJobId =>
    (c.station s).captureId = captureId ∧
      ((c.station s).frameBatchId = "" ∨ (c.station s).frameBatchId = frameBatchId) ∧
      ((c.station s).inferenceJobId = "" ∨ (c.station s).inferenceJobId = inferenceJobId)
  | markCaptureFailed s captureId _ => (c.station s).captureId = captureId
  | promoteCaptureCompletionFromVision s => (c.station s).resultCompleted = true
  | markConveyorResumedAfterCapture s => c.physicalState = stationDone s
  | acceptSensor2 eventId _ =>
    c.physicalState = .flipping ∧ ∀ e, c.sensorEventIds.get? 2 = some e → e = eventId
  | markStationBSkipped _ =>
    (c.station .b).processState ≠ .skipped ∧ (c.station .b).resultCompleted = false
  | bypassStationB _ =>
    c.physicalState = .stationBWait ∧ (c.station .b).processState = .pending
  | markActuationAccepted commandId => c.actuatorCommandId = commandId
  | markActuationCompleted commandId _ =>
    c.actuatorCommandId = commandId ∧
      (c.physicalState = .atSensor3 ∨ c.physicalState = .actuating)
  | _ => False

def target (c : ProductContext) : ContextOp → ProductPhysicalState
  | markCaptureSucceeded s .. | markCaptureFailed s .. | promoteCaptureCompletionFromVision s =>
    stationDone s
  | markConveyorResumedAfterCapture s => stationPassed s
  | acceptSensor2 .. => if c.stationBSkipRequested then .sensor3Wait else .stationBWait
  | markStationBSkipped _ => .stationBDone
  | bypassStationB _ => .sensor3Wait
  | markActuationAccepted _ => .actuating
  | markActuationCompleted .. => .done
  | _ => c.physicalState

/-- Where the product directly ahead is in the way of a method. -/
def Blocked : ContextOp → ProductPhysicalState → Prop
  | markCaptureSucceeded s .., ahead | markCaptureFailed s .., ahead
  | promoteCaptureCompletionFromVision s, ahead => ahead = stationWait s
  | markConveyorResumedAfterCapture s, ahead => ahead = stationDone s
  | markStationBSkipped _, ahead => ahead = .stationBWait
  | bypassStationB _, ahead => ahead = .stationBWait ∨ ahead = .stationBDone
  | markActuationAccepted _, ahead => ahead ≠ .actuating ∧ ahead ≠ .done
  | markActuationCompleted .., ahead => ahead ≠ .done
  | _, _ => False

theorem due_moves {op : ContextOp} {c : ProductContext} (h : op.Due c) :
    (op.apply c).2.physicalState = op.target c := by
  cases op with
  | markCaptureSucceeded s captureId frameBatchId inferenceJobId =>
    obtain ⟨hcapture, hbatch, hjob⟩ := h
    have hbatch' : ¬((c.station s).frameBatchId ≠ "" ∧ (c.station s).frameBatchId ≠ frameBatchId) :=
      fun hn => hbatch.elim hn.1 hn.2
    have hjob' : ¬((c.station s).inferenceJobId ≠ "" ∧
        (c.station s).inferenceJobId ≠ inferenceJobId) := fun hn => hjob.elim hn.1 hn.2
    simp only [apply, reply, ProductContext.markCaptureSucceeded]
    rw [if_neg (not_not.mpr hcapture), if_neg hbatch', if_neg hjob']
    rfl
  | markCaptureFailed s captureId reason =>
    have hcapture : (c.station s).captureId = captureId := h
    simp only [apply, reply, ProductContext.markCaptureFailed]
    rw [if_neg (not_not.mpr hcapture)]
    rfl
  | promoteCaptureCompletionFromVision s =>
    have hcompleted : (c.station s).resultCompleted = true := h
    simp [apply, reply, ProductContext.promoteCaptureCompletionFromVision, hcompleted, target,
      ProductContext.touch]
  | markConveyorResumedAfterCapture s =>
    have hdone : c.physicalState = stationDone s := h
    cases s <;> simp [apply, reply, ProductContext.markConveyorResumedAfterCapture, hdone, target,
      ProductContext.touch, stationPassed]
  | acceptSensor2 eventId step =>
    obtain ⟨hflipping, hrecorded⟩ := h
    have hentered : ∀ d : ProductContext, d.stationBSkipRequested = c.stationBSkipRequested →
        d.enterStationB.physicalState = (acceptSensor2 eventId step).target c := by
      intro d hd
      simp only [ProductContext.enterStationB, target, hd]
      split <;> rfl
    simp only [apply, reply, ProductContext.acceptSensor2, ProductContext.recordSensor]
    rw [if_neg (not_not.mpr hflipping)]
    cases hevent : c.sensorEventIds.get? 2 with
    | none => exact hentered _ rfl
    | some previous =>
      simp only [hrecorded previous hevent, ne_eq, not_true_eq_false, if_false]
      exact hentered _ rfl
  | markStationBSkipped reason =>
    obtain ⟨hskipped, hcompleted⟩ := h
    rcases mark_skipped_effect c reason with ⟨_, hto, _⟩ | ⟨_, _, hnothing⟩
    · exact hto
    · rcases hnothing with hn | hn
      · exact absurd hn hskipped
      · rw [hcompleted] at hn
        cases hn
  | bypassStationB reason =>
    obtain ⟨hwaits, hpending⟩ := h
    simp [apply, reply, ProductContext.bypassStationB, hwaits, hpending, target,
      ProductContext.touch]
  | markActuationAccepted commandId =>
    have hcommand : c.actuatorCommandId = commandId := h
    simp [apply, reply, ProductContext.markActuationAccepted, hcommand, target,
      ProductContext.touch]
  | markActuationCompleted commandId actuationId =>
    obtain ⟨hcommand, hsorting⟩ := h
    have hplace : ¬(c.physicalState ≠ .atSensor3 ∧ c.physicalState ≠ .actuating) :=
      fun hn => hsorting.elim hn.1 hn.2
    simp only [apply, reply, ProductContext.markActuationCompleted]
    rw [if_neg (not_not.mpr hcommand), if_neg hplace]
    rfl
  | _ => exact absurd h id

theorem undue_stays {op : ContextOp} {c : ProductContext} (hop : op.walks = true)
    (h : ¬op.Due c) : (op.apply c).2.physicalState = c.physicalState := by
  by_contra hmoved
  refine h ?_
  cases op with
  | markCaptureSucceeded s captureId frameBatchId inferenceJobId =>
    simp only [apply, reply, ProductContext.markCaptureSucceeded] at hmoved
    (repeat' split at hmoved) <;> simp_all [Due]
  | markCaptureFailed s captureId reason =>
    simp only [apply, reply, ProductContext.markCaptureFailed] at hmoved
    split at hmoved <;> simp_all [Due]
  | promoteCaptureCompletionFromVision s =>
    simp only [apply, reply, ProductContext.promoteCaptureCompletionFromVision] at hmoved
    split at hmoved <;> simp_all [Due]
  | markConveyorResumedAfterCapture s =>
    simp only [apply, reply, ProductContext.markConveyorResumedAfterCapture] at hmoved
    cases s <;> split at hmoved <;> simp_all [Due]
  | markStationBSkipped reason =>
    rcases mark_skipped_effect c reason with ⟨_, hto, _⟩ | ⟨_, hsame, _⟩
    · simp only [apply, reply, ProductContext.markStationBSkipped] at hmoved
      (repeat' split at hmoved) <;> simp_all [Due, StationInspection.resultCompleted]
    · exact absurd (by rw [hsame]) hmoved
  | bypassStationB reason =>
    simp only [apply, reply, ProductContext.bypassStationB] at hmoved
    (repeat' split at hmoved) <;> simp_all [Due]
  | markActuationAccepted commandId =>
    simp only [apply, reply, ProductContext.markActuationAccepted] at hmoved
    split at hmoved <;> simp_all [Due]
  | markActuationCompleted commandId actuationId =>
    simp only [apply, reply, ProductContext.markActuationCompleted] at hmoved
    (repeat' split at hmoved) <;> simp_all [Due]
  | _ => cases hop

theorem undue_sensor2_stays {c : ProductContext} {eventId : String} {step : ℤ}
    (h : ¬(acceptSensor2 eventId step).Due c) :
    ((acceptSensor2 eventId step).apply c).2.physicalState = c.physicalState := by
  by_contra hmoved
  simp only [apply, reply, ProductContext.acceptSensor2, ProductContext.recordSensor] at hmoved
  by_cases hflipping : c.physicalState = .flipping
  · rw [if_neg (not_not.mpr hflipping)] at hmoved
    refine h ⟨hflipping, fun previous hevent => ?_⟩
    by_contra hother
    simp [hevent, hother, ProductContext.Outcome.andThen] at hmoved
  · rw [if_pos hflipping] at hmoved
    exact hmoved rfl

end ContextOp
/-! ### The operations along the FIFO -/

/-- Master's operations on the FIFO: the sensors, the methods that take one product along, and
the removal of the completed products at its front. -/
inductive FlowStep where
  | sensor1 (productId eventId : String) (step : ℤ)
  | sensor2 (eventId : String) (step : ℤ)
  | sensor3 (eventId : String) (step : ℤ)
  | move (productId : String) (op : ContextOp) (walks : op.walks = true)
  | removeCompletedPrefix (nowNs : ℤ)

namespace FlowStep

def apply (L : ProductLedger) : FlowStep → ProductLedger
  | sensor1 productId eventId step =>
    match L.register productId L.nextSequence with
    | (.ok (), registered) => (registered.operate productId (.recordSensor 1 eventId step)).2
    | (.error _, unchanged) => unchanged
  | sensor2 eventId step =>
    match L.oldestInState .flipping with
    | .ok c => (L.operate c.productId (.acceptSensor2 eventId step)).2
    | .error _ => L
  | sensor3 eventId step =>
    match L.oldestInState .sensor3Wait with
    | .ok c => (L.operate c.productId (.lockAtSensor3 eventId step)).2
    | .error _ => L
  | move productId op _ => (L.operate productId op).2
  | removeCompletedPrefix nowNs => (L.removeCompletedPrefix nowNs).2

/-- Master's handlers end a capture, or skip Station B, for the product in the cycle of the
station. -/
structure Serves (L : PhysicalLine) (step : FlowStep) : Prop where
  ends : ∀ p op walks s, step = .move p op walks → op.ends s = true → L.InCycle s p
  skips : ∀ p reason walks, step = .move p (.markStationBSkipped reason) walks → L.InCycle .b p

/-- A product is taken on although the one directly ahead of it is in the way: at Sensor 2 a
product that skips Station B with one ahead that is still there, and by a method that is due with
one ahead that has not left yet. The acceptance of an actuation may also take a product back that
is done, with the one behind it done as well. -/
inductive Overtakes (L : PhysicalLine) : FlowStep → Prop where
  | passesStationB {eventId : String} {step : ℤ} {c ahead : ProductContext}
      (oldest : L.ledger.oldestInState .flipping = .ok c)
      (due : (ContextOp.acceptSensor2 eventId step).Due c)
      (skip : c.stationBSkipRequested = true)
      (aheadOf : L.ledger.productAhead c.productId = some ahead)
      (atStationB : ahead.physicalState = .stationBWait ∨ ahead.physicalState = .stationBDone) :
      Overtakes L (.sensor2 eventId step)
  | passes {p : String} {op : ContextOp} {walks : op.walks = true} {c ahead : ProductContext}
      (active : p ∈ L.ledger.active) (product : L.product? p = some c) (due : op.Due c)
      (aheadOf : L.ledger.productAhead p = some ahead)
      (blocked : op.Blocked ahead.physicalState) : Overtakes L (.move p op walks)
  | fallsBack {p commandId : String} {walks} {c behind : ProductContext}
      (active : p ∈ L.ledger.active) (product : L.product? p = some c)
      (due : (ContextOp.markActuationAccepted commandId).Due c)
      (done : c.physicalState = .done) (behindOf : L.ledger.productBehind p = some behind)
      (doneBehind : behind.physicalState = .done) :
      Overtakes L (.move p (.markActuationAccepted commandId) walks)

end FlowStep

namespace ProductLedger

theorem aligned_enqueue {L : ProductLedger} (h : L.validateAlignment = true) {p : String}
    {f : ℕ} (habsent : L.byId.get? p = none) (hfifo : L.lastSequence < f) :
    (L.enqueue p f habsent hfifo).validateAlignment = true := by
  obtain ⟨hsorted, hnodup, hchain⟩ := (validate_alignment_iff L).mp h
  have hbelow : ∀ e ∈ L.activeContexts, e.fifoSequence < f := by
    intro e he
    obtain ⟨hget, _⟩ := get?_of_active he
    exact (L.identified _ e hget).2.2.1.trans_lt hfifo
  rw [validate_alignment_iff, activeContexts_enqueue, List.map_append]
  refine ⟨?_, ?_, ?_⟩
  · refine List.pairwise_append.mpr ⟨hsorted, List.pairwise_singleton _ _, ?_⟩
    intro k hk n hn
    obtain ⟨e, he, rfl⟩ := List.mem_map.mp hk
    rw [List.mem_singleton.mp hn]
    exact (hbelow e he).le
  · refine List.nodup_append.mpr ⟨hnodup, List.nodup_singleton _, ?_⟩
    intro k hk n hn
    obtain ⟨e, he, rfl⟩ := List.mem_map.mp hk
    rw [List.mem_singleton.mp hn]
    exact (hbelow e he).ne
  · refine List.isChain_append.mpr ⟨hchain, List.isChain_singleton _, fun e _ d hd => ?_⟩
    cases hd
    have hfirst : ∀ state : ProductPhysicalState,
        ProductPhysicalState.stationAWait.value ≤ state.value := by
      intro state
      cases state <;> decide
    exact hfirst e.physicalState

theorem aligned_register {L : ProductLedger} (h : L.validateAlignment = true) (p : String)
    (f : ℕ) : (L.register p f).2.validateAlignment = true := by
  rcases L.register_cases p f with hsame | ⟨habsent, hfifo, hnew⟩
  · rw [hsame]
    exact h
  · rw [hnew]
    exact aligned_enqueue h habsent hfifo

theorem aligned_removeCompletedPrefix {L : ProductLedger} (h : L.validateAlignment = true)
    (nowNs : ℤ) : (L.removeCompletedPrefix nowNs).2.validateAlignment = true := by
  obtain ⟨hsorted, hnodup, hchain⟩ := (validate_alignment_iff L).mp h
  have hcontexts := L.activeContexts_deactivate nowNs (L.active.takeWhile L.isDone)
    (L.active.dropWhile L.isDone) List.takeWhile_append_dropWhile
  rw [hcontexts, List.map_append] at hsorted hnodup
  rw [hcontexts] at hchain
  refine (validate_alignment_iff _).mpr ⟨?_, ?_, ?_⟩
  · exact (List.pairwise_append.mp hsorted).2.1
  · exact (List.nodup_append.mp hnodup).2.1
  · exact (List.isChain_append.mp hchain).2.1

end ProductLedger
namespace FlowStep

variable {L : PhysicalLine}

theorem sensor1_aligned (h : L.ledger.validateAlignment = true) (p eventId : String) (step : ℤ) :
    ((sensor1 p eventId step).apply L.ledger).validateAlignment = true := by
  have hregistered := ProductLedger.aligned_register h p L.ledger.nextSequence
  simp only [apply]
  split
  · rename_i registered heq
    rw [heq] at hregistered
    refine ProductLedger.aligned_of_stays hregistered fun c _ => ?_
    exact (ContextOp.quiet_unmoved (.recordSensor 1 eventId step) rfl c).physicalState
  · rename_i unchanged heq
    rw [heq] at hregistered
    exact hregistered

/-- What is ahead of the oldest product that waits for Sensor 3 is past it. -/
theorem sensor3_aligned (h : L.ledger.validateAlignment = true) (eventId : String) (step : ℤ) :
    ((sensor3 eventId step).apply L.ledger).validateAlignment = true := by
  simp only [apply]
  split
  · rename_i c holdest
    obtain ⟨front, back, hsplit, hstate, _⟩ := ProductLedger.oldest_split holdest
    have hmem : c ∈ L.ledger.activeContexts := hsplit ▸ List.mem_append_right _ List.mem_cons_self
    obtain ⟨hc, hactive, _⟩ := ProductLedger.get?_of_active hmem
    obtain ⟨_, hbehind⟩ := ProductLedger.neighbours_aligned h hactive hc
    rcases ContextOp.lock_effect c eventId step with hsame | ⟨_, hto, _⟩
    · refine ProductLedger.aligned_of_stays h fun d hd => ?_
      cases hc.symm.trans hd
      rw [hsame]
    · refine (ProductLedger.aligned_operate_iff h hactive hc _).mpr ⟨fun e he => ?_, fun e he => ?_⟩
      · have hahead := ProductLedger.ahead_of_oldest holdest he
        unfold NotOvertaken
        rw [hto]
        exact hahead
      · have hbefore := hbehind e he
        unfold NotOvertaken at hbefore ⊢
        rw [hto]
        rw [hstate] at hbefore
        exact hbefore.trans (by decide)
  · exact h

theorem sensor2_aligned_iff (h : L.ledger.validateAlignment = true) (eventId : String)
    (step : ℤ) : ((sensor2 eventId step).apply L.ledger).validateAlignment = true ↔
      ¬Overtakes L (sensor2 eventId step) := by
  simp only [apply]
  split
  · rename_i c holdest
    obtain ⟨front, back, hsplit, hstate, _⟩ := ProductLedger.oldest_split holdest
    have hmem : c ∈ L.ledger.activeContexts := hsplit ▸ List.mem_append_right _ List.mem_cons_self
    obtain ⟨hc, hactive, _⟩ := ProductLedger.get?_of_active hmem
    obtain ⟨_, hbehind⟩ := ProductLedger.neighbours_aligned h hactive hc
    constructor
    · intro haligned hovertakes
      obtain ⟨hahead, _⟩ := (ProductLedger.aligned_operate_iff h hactive hc _).mp haligned
      cases hovertakes with
      | passesStationB oldest due skip aheadOf atStationB =>
        cases holdest.symm.trans oldest
        have hnot := hahead _ aheadOf
        unfold NotOvertaken at hnot
        rw [ContextOp.due_moves due, ContextOp.target, if_pos skip] at hnot
        rcases atStationB with hs | hs <;> rw [hs] at hnot <;> exact absurd hnot (by decide)
    · intro hkept
      rcases ContextOp.enter_effect c eventId step with hsame | ⟨_, _, hto⟩
      · refine ProductLedger.aligned_of_stays h fun d hd => ?_
        cases hc.symm.trans hd
        rw [hsame]
      refine (ProductLedger.aligned_operate_iff h hactive hc _).mpr ⟨fun e he => ?_, fun e he => ?_⟩
      · have hahead := ProductLedger.ahead_of_oldest holdest he
        unfold NotOvertaken
        rcases hto with ⟨hto, hskip⟩ | ⟨hto, _⟩
        · rw [hto]
          by_contra hlate
          refine hkept (.passesStationB holdest ?_ hskip he ?_)
          · by_contra hundue
            rw [ContextOp.undue_sensor2_stays hundue, hstate] at hto
            cases hto
          · cases hs : e.physicalState <;> rw [hs] at hahead hlate <;> first
              | exact .inl rfl
              | exact .inr rfl
              | exact absurd hahead (by decide)
              | exact absurd (by decide) hlate
        · rw [hto]
          exact hahead
      · have hbefore := hbehind e he
        unfold NotOvertaken at hbefore ⊢
        rw [hstate] at hbefore
        rcases hto with ⟨hto, _⟩ | ⟨hto, _⟩ <;> rw [hto] <;> exact hbefore.trans (by decide)
  · rename_i exc hnone
    refine ⟨fun _ hovertakes => ?_, fun _ => h⟩
    cases hovertakes with
    | passesStationB oldest => cases hnone.symm.trans oldest

variable {p : String} {op : ContextOp} {walks : op.walks = true} {c : ProductContext}

theorem at_station (hO : L.Occupied) {s : StationId} (hin : L.InCycle s p)
    (hc : L.product? p = some c) :
    c.physicalState = stationWait s ∨ c.physicalState = stationDone s := by
  obtain ⟨cycle, hcycle, rfl⟩ := hin
  obtain ⟨d, hd, _, hat⟩ := hO.product hcycle
  cases hc.symm.trans hd
  exact hat

/-- Master's handlers take a product back only by accepting the actuation of one that is done. -/
theorem onward_or_done (hO : L.Occupied) (hserves : Serves L (move p op walks))
    (hc : L.product? p = some c) (hdue : op.Due c) :
    c.physicalState.value ≤ (op.target c).value ∨
      c.physicalState = .done ∧ ∃ commandId, op = .markActuationAccepted commandId := by
  have hstation : ∀ s, L.InCycle s p → c.physicalState.value ≤ (stationDone s).value := by
    intro s hin
    rcases at_station hO hin hc with hs | hs <;> rw [hs]
    exact PhysicalLine.value_wait_le_done s
  cases op with
  | markCaptureSucceeded s | markCaptureFailed s | promoteCaptureCompletionFromVision s =>
    exact .inl (hstation s (hserves.ends p _ walks s rfl (by simp [ContextOp.ends])))
  | markConveyorResumedAfterCapture s =>
    have hdone : c.physicalState = stationDone s := hdue
    rw [hdone]
    exact .inl (PhysicalLine.value_done_le_passed s)
  | markStationBSkipped reason => exact .inl (hstation .b (hserves.skips p _ walks rfl))
  | bypassStationB reason =>
    rw [hdue.1, ContextOp.target]
    exact .inl (by decide)
  | markActuationAccepted commandId =>
    rw [ContextOp.target]
    cases c.physicalState <;> first
      | exact .inl (by decide)
      | exact .inr ⟨rfl, commandId, rfl⟩
  | markActuationCompleted commandId actuationId =>
    rcases hdue.2 with hs | hs <;> rw [hs, ContextOp.target] <;> exact .inl (by decide)
  | _ => cases walks

/-- In an aligned line a product is in the way exactly when it has not got as far as the method
takes the one behind it. -/
theorem blocked_iff (hO : L.Occupied) (hserves : Serves L (move p op walks))
    (hc : L.product? p = some c) (hdue : op.Due c) {ahead : ProductContext}
    (hahead : NotOvertaken ahead c) :
    op.Blocked ahead.physicalState ↔ ahead.physicalState.value < (op.target c).value := by
  unfold NotOvertaken at hahead
  have hstation : ∀ s, L.InCycle s p →
      (ahead.physicalState = stationWait s ↔
        ahead.physicalState.value < (stationDone s).value) := by
    intro s hin
    rcases at_station hO hin hc with hs | hs <;> rw [hs] at hahead <;>
      revert hahead <;> cases s <;> cases ahead.physicalState <;> decide
  cases op with
  | markCaptureSucceeded s | markCaptureFailed s | promoteCaptureCompletionFromVision s =>
    exact hstation s (hserves.ends p _ walks s rfl (by simp [ContextOp.ends]))
  | markConveyorResumedAfterCapture s =>
    have hdone : c.physicalState = stationDone s := hdue
    rw [hdone] at hahead
    simp only [ContextOp.Blocked, ContextOp.target]
    revert hahead
    cases s <;> cases ahead.physicalState <;> decide
  | markStationBSkipped reason => exact hstation .b (hserves.skips p _ walks rfl)
  | bypassStationB reason =>
    rw [hdue.1] at hahead
    simp only [ContextOp.Blocked, ContextOp.target]
    revert hahead
    cases ahead.physicalState <;> decide
  | markActuationAccepted commandId =>
    simp only [ContextOp.Blocked, ContextOp.target]
    cases ahead.physicalState <;> decide
  | markActuationCompleted commandId actuationId =>
    simp only [ContextOp.Blocked, ContextOp.target]
    cases ahead.physicalState <;> decide
  | _ => cases walks

theorem move_aligned_iff (hO : L.Occupied) (h : L.ledger.validateAlignment = true)
    (hserves : Serves L (move p op walks)) :
    ((move p op walks).apply L.ledger).validateAlignment = true ↔
      ¬Overtakes L (move p op walks) := by
  simp only [apply]
  by_cases hp : p ∈ L.ledger.active
  · obtain ⟨c, hc, _⟩ := L.ledger.active_live p hp
    obtain ⟨hfront, hbehind⟩ := ProductLedger.neighbours_aligned h hp hc
    constructor
    · intro haligned hovertakes
      obtain ⟨hahead, hafter⟩ := (ProductLedger.aligned_operate_iff h hp hc op).mp haligned
      cases hovertakes with
      | passes active product due aheadOf blocked =>
        cases hc.symm.trans product
        have hlate := (blocked_iff hO hserves hc due (hfront _ aheadOf)).mp blocked
        have hnot := hahead _ aheadOf
        unfold NotOvertaken at hnot
        rw [ContextOp.due_moves due] at hnot
        omega
      | fallsBack active product due done behindOf doneBehind =>
        cases hc.symm.trans product
        have hnot := hafter _ behindOf
        unfold NotOvertaken at hnot
        rw [ContextOp.due_moves due, ContextOp.target, doneBehind] at hnot
        exact absurd hnot (by decide)
    · intro hkept
      by_cases hdue : op.Due c
      · have hto := ContextOp.due_moves hdue
        refine (ProductLedger.aligned_operate_iff h hp hc op).mpr
          ⟨fun e he => ?_, fun e he => ?_⟩
        · unfold NotOvertaken
          rw [hto]
          by_contra hlate
          refine hkept (.passes hp hc hdue he ?_)
          exact (blocked_iff hO hserves hc hdue (hfront e he)).mpr (by omega)
        · have hbefore := hbehind e he
          unfold NotOvertaken at hbefore ⊢
          rw [hto]
          rcases onward_or_done hO hserves hc hdue with honward | ⟨hdone, command, rfl⟩
          · exact hbefore.trans honward
          · by_contra hlate
            refine hkept (.fallsBack hp hc hdue hdone he ?_)
            rw [hdone] at hbefore
            rw [ContextOp.target] at hlate
            cases hs : e.physicalState <;> rw [hs] at hlate <;> first
              | rfl
              | exact absurd (by decide) hlate
      · refine ProductLedger.aligned_of_stays h fun d hd => ?_
        cases hc.symm.trans hd
        exact ContextOp.undue_stays walks hdue
  · refine ⟨fun _ hovertakes => ?_, fun _ => ProductLedger.aligned_of_inactive h hp op⟩
    cases hovertakes with
    | passes active => exact hp active
    | fallsBack active => exact hp active

/-- In a line with its cycles in order, an operation keeps the FIFO aligned exactly when it
overtakes no product. -/
theorem aligned_iff (hO : L.Occupied) (h : L.ledger.validateAlignment = true) {step : FlowStep}
    (hserves : Serves L step) :
    (step.apply L.ledger).validateAlignment = true ↔ ¬Overtakes L step := by
  cases step with
  | sensor1 p eventId n =>
    refine ⟨fun _ hovertakes => ?_, fun _ => sensor1_aligned h p eventId n⟩
    cases hovertakes
  | sensor2 eventId n => exact sensor2_aligned_iff h eventId n
  | sensor3 eventId n =>
    refine ⟨fun _ hovertakes => ?_, fun _ => sensor3_aligned h eventId n⟩
    cases hovertakes
  | move p op walks => exact move_aligned_iff hO h hserves
  | removeCompletedPrefix nowNs =>
    refine ⟨fun _ hovertakes => ?_, fun _ => ProductLedger.aligned_removeCompletedPrefix h nowNs⟩
    cases hovertakes

end FlowStep

namespace Master

variable {m : Master}

/-- Wherever Master's handlers have got to with an aligned line, what they do next to a product
keeps the line aligned exactly when the product directly ahead is not in the way. -/
theorem alignment_kept_iff (h : Reachable m) {v : Supervision} {d : Debt}
    (hmoves : Moves (m.toSupervision, {}) (v, d))
    (haligned : v.line.ledger.validateAlignment = true) {step : FlowStep}
    (hserves : step.Serves v.line) :
    (step.apply v.line.ledger).validateAlignment = true ↔ ¬step.Overtakes v.line := by
  have hoccupied : v.line.Occupied :=
    occupied_moves (x := (m.toSupervision, {})) (reachable_occupied h) hmoves
  exact FlowStep.aligned_iff hoccupied haligned hserves

/-- The capture of a product at a station succeeds, and its images wait to be judged. -/
def captured (s : StationId) (productId captureId : String) (cameras : List String) :
    MasterEvent :=
  called (.captureResult s captureId (.ok {
    success := true, productId, stationId := s.raw, captureId, frameBatchId := "batch"
    attemptCount := 1, inferenceJobId := "job"
    images := cameras.map fun cameraId => {
      cameraId, filePath := "image.png", sha256 := String.ofList (List.replicate 64 'a')
      fileSizeBytes := 1, width := 1, height := 1, pixelFormat := "MONO8_PNG" } })) 1000

/-- The first product is captured at Station A and goes on to Station B. The capture of the
second one fails, so that it is to skip Station B. -/
def skippingBehind : List MasterEvent :=
  settledAtA ++ [captured .a "P-11111111-000001" (numberedUuid 9) ["a1", "a2", "a3"],
    sensed "sensor2" 1, sensed "sensor1" 2, called (.positionSettled (numberedUuid 0) 1) 1000,
    failedCapture .a "P-11111111-000002" (numberedUuid 15)]

example : (runLine .sim false skippingBehind).line.ledger.validateAlignment = true := by
  decide +kernel

/-- Sensor 2 sees the second product while the first one is still at Station B. -/
theorem skipping_product_overtakes :
    ¬∀ m, Reachable m → ∀ v d, Moves (m.toSupervision, {}) (v, d) →
      v.line.ledger.validateAlignment = true → ∀ step : FlowStep, step.Serves v.line →
        (step.apply v.line.ledger).validateAlignment = true := by
  intro h
  have haligned : (runLine .sim true skippingBehind).line.ledger.validateAlignment = true := by
    decide +kernel
  have hserves : (FlowStep.sensor2 "sensor2-2" 20).Serves (runLine .sim true skippingBehind).line :=
    ⟨fun _ _ _ _ hstep => (by cases hstep), fun _ _ _ hstep => by cases hstep⟩
  have hkept := h _ (reachable_runLine .sim true skippingBehind) _ _ .refl haligned _ hserves
  have hbroken : ((FlowStep.sensor2 "sensor2-2" 20).apply
      (runLine .sim true skippingBehind).line.ledger).validateAlignment = false := by
    decide +kernel
  rw [hbroken] at hkept
  cases hkept

example : ((runLine .sim false skippingBehind).line.ledger.productAhead
    "P-11111111-000002").map (·.physicalState) = some .stationBWait := by decide +kernel

/-- Without the policy it enters Station B behind the first one. -/
theorem entering_product_overtakes_none : ¬(FlowStep.sensor2 "sensor2-2" 20).Overtakes
    (runLine .sim false skippingBehind).line :=
  (alignment_kept_iff (reachable_runLine .sim false skippingBehind) .refl (by decide +kernel)
    ⟨fun _ _ _ _ hstep => (by cases hstep), fun _ _ _ hstep => by cases hstep⟩).mp
      (by decide +kernel)

end Master

end InspectionLine
