import InspectionLine.ProductRuns

/-! # The physical state only moves forward -/
namespace InspectionLine

open Supervision
open ProductContext (stationWait stationDone)
open ProductPhysicalState

namespace PhysicalLine

variable {L M : PhysicalLine}

structure Onward (L M : PhysicalLine) : Prop where
  lastSequence : L.ledger.lastSequence ≤ M.ledger.lastSequence
  products : ∀ p c', M.product? p = some c' → L.ledger.lastSequence < c'.fifoSequence ∨
    ∃ c, L.product? p = some c ∧ c.fifoSequence = c'.fifoSequence ∧
      c.physicalState.value ≤ c'.physicalState.value

theorem Onward.of_products (hlast : M.ledger.lastSequence = L.ledger.lastSequence)
    (h : ∀ p c', M.product? p = some c' → ∃ c, L.product? p = some c ∧
      c.fifoSequence = c'.fifoSequence ∧ c.physicalState.value ≤ c'.physicalState.value) :
    Onward L M := ⟨hlast.ge, fun p c' hc' => .inr (h p c' hc')⟩

theorem Onward.of_ledger (h : M.ledger = L.ledger) : Onward L M :=
  .of_products (by rw [h]) fun p c' hc' => by
    unfold product? at hc' ⊢
    rw [h] at hc'
    exact ⟨c', hc', rfl, le_rfl⟩

theorem Onward.of_carries (h : ProductLedger.Carries L.ledger M.ledger) : Onward L M :=
  .of_products h.lastSequence fun p c' hc' => by
    obtain ⟨c, hc, _, _, hplace, hfifo⟩ := h.context p c' hc'
    exact ⟨c, hc, hfifo.symm, by rw [hplace]⟩

theorem Onward.refl (L : PhysicalLine) : Onward L L := .of_ledger rfl

theorem Onward.trans {N : PhysicalLine} (h : Onward L M) (g : Onward M N) : Onward L N := by
  refine ⟨h.lastSequence.trans g.lastSequence, fun p c'' hc'' => ?_⟩
  rcases g.products p c'' hc'' with hlate | ⟨c', hc', hfifo, hvalue⟩
  · exact .inl (h.lastSequence.trans_lt hlate)
  · rcases h.products p c' hc' with hlate | ⟨c, hc, hfifo', hvalue'⟩
    · exact .inl (hfifo ▸ hlate)
    · exact .inr ⟨c, hc, hfifo'.trans hfifo, hvalue'.trans hvalue⟩

theorem Onward.product (h : Onward L M) {p : String} {c c' : ProductContext}
    (hc : L.product? p = some c) (hc' : M.product? p = some c')
    (hsame : c'.fifoSequence = c.fifoSequence) :
    c.physicalState.value ≤ c'.physicalState.value := by
  rcases h.products p c' hc' with hlate | ⟨e, he, _, hvalue⟩
  · have hbound := (L.ledger.identified p c hc).2.2.1
    omega
  · cases he.symm.trans hc
    exact hvalue

theorem lastSequence_operateAll (L : PhysicalLine) (p : String) (ops : List ContextOp) :
    (L.operateAll p ops).ledger.lastSequence = L.ledger.lastSequence := by
  induction ops generalizing L with
  | nil => rfl
  | cons op ops ih =>
    rw [show L.operateAll p (op :: ops) = (L.operate p op).operateAll p ops from rfl, ih]
    exact L.ledger.lastSequence_operate p op

theorem onward_operateAll (ops : List ContextOp) {p : String}
    (hops : ∀ c, L.product? p = some c →
      c.physicalState.value ≤ (ContextOp.applyAll ops c).physicalState.value) :
    Onward L (L.operateAll p ops) := by
  refine .of_products (lastSequence_operateAll L p ops) fun q c' hc' => ?_
  rw [product?_operateAll] at hc'
  split at hc'
  · rename_i hqp
    subst hqp
    obtain ⟨c, hc, rfl⟩ := Option.map_eq_some_iff.mp hc'
    exact ⟨c, hc, (applyAll_same_identity ops c).fifoSequence.symm, hops c hc⟩
  · exact ⟨c', hc', rfl, le_rfl⟩

/-- A method that looks where the product is before it moves it. -/
theorem onward_operate (op : ContextOp) (p : String)
    (hop : ∀ c state, L.product? p = some c → ContextOp.Arrives c op state →
      c.physicalState.value ≤ state.value) : Onward L (L.operate p op) :=
  onward_operateAll [op] fun c hc => by
    change c.physicalState.value ≤ (op.apply c).2.physicalState.value
    rcases op.arrives_or_stays c with hsame | harrives
    · rw [hsame]
    · exact hop c _ hc harrives

theorem onward_quiet (op : ContextOp) (p : String) (hop : op.quiet = true) :
    Onward L (L.operate p op) :=
  onward_operateAll [op] fun c _ => by
    change c.physicalState.value ≤ (op.apply c).2.physicalState.value
    rw [(ContextOp.quiet_unmoved _ hop c).physicalState]

theorem value_wait_le_done (s : StationId) : (stationWait s).value ≤ (stationDone s).value := by
  cases s <;> decide

theorem value_done_le_passed (s : StationId) :
    (stationDone s).value ≤ (ContextOp.stationPassed s).value := by cases s <;> decide

theorem register_last {L M : ProductLedger} {p : String}
    (h : L.register p L.nextSequence = (.ok (), M)) : M.lastSequence = L.lastSequence + 1 := by
  rcases L.register_cases p L.nextSequence with hsame | ⟨habsent, hfifo, hnew⟩
  · have habsent := (register_next h).1
    have hactive := (register_next h).2.2 p
    rw [h] at hsame
    rw [show M = L from hsame, habsent, if_pos rfl] at hactive
    cases hactive
  · rw [h] at hnew
    rw [show M = _ from hnew]
    rfl

theorem register_capture_last {L M : ProductLedger} {captureId p : String} {s : StationId}
    (h : L.registerCapture captureId p s = (.ok (), M)) : M.lastSequence = L.lastSequence := by
  unfold ProductLedger.registerCapture at h
  split at h
  · split at h
    · cases h
    · cases h
      rfl
  · cases h
    rfl

theorem onward_step {config : MasterConfig} {stale excused again : Prop} {x y : LineWatch}
    (hO : x.line.Occupied) (h : LineStep config stale excused again x y) (hagain : ¬again) :
    Onward x.line y.line := by
  cases h with
  | revise p op quiet | condemn p op quiet => exact onward_quiet _ p quiet
  | requestSkip p reason =>
    refine onward_operate _ p fun c state _ ha => ?_
    cases ha with
    | captured ends => cases ends
  | @endCapture L n d s p cycle ops unskipped cycleAt product ended =>
    refine onward_operateAll _ fun c hc => ?_
    obtain ⟨e, he, _, hat⟩ := hO.stations s cycle cycleAt
    rw [product] at he
    cases (get_eq_some.mp he).1.symm.trans hc
    rw [(ended c hc).physicalState]
    rcases hat with hwait | hdone
    · rw [hwait]
      exact value_wait_le_done s
    · rw [hdone]
  | @resume L n d s p cycle reply cycleAt product pending paid resumed =>
    refine (onward_operate _ p fun c state _ ha => ?_).trans (.of_ledger rfl)
    cases ha with
    | captured ends => cases ends
    | resumed done =>
      rw [done]
      exact value_done_le_passed s
  | @release L n d s p =>
    refine (onward_operate (.resetUnfinishedStationCycle s) p fun c state _ ha => ?_).trans
      (.of_ledger rfl)
    cases ha with
    | captured ends => cases ends
  | @start L n d s p c cycle reply ledger issued _ _ _ _ _ _ registered =>
    refine (onward_quiet (.beginStationCycle s cycle.positionCommandId cycle.captureId) p
      rfl).trans (.of_products (register_capture_last registered) fun q c' hc' => ?_)
    refine ⟨c', ?_, rfl, le_rfl⟩
    rw [← hc']
    exact congrArg (·.get? q) (register_capture_products registered).1.symm
  | bypass p reason =>
    refine onward_operate _ p fun c state _ ha => ?_
    cases ha with
    | captured ends => cases ends
    | bypassed waits =>
      rw [waits]
      decide
  | @arrive L n d p ledger eventId step registered =>
    obtain ⟨_, _, hproducts⟩ := register_next registered
    have hlast := register_last registered
    refine Onward.trans (M := { L with ledger }) ⟨?_, fun q c' hc' => ?_⟩
      (onward_quiet (.recordSensor 1 eventId step) p rfl)
    · change L.ledger.lastSequence ≤ ledger.lastSequence
      omega
    · change ledger.byId.get? q = some c' at hc'
      rw [hproducts] at hc'
      split at hc'
      · cases hc'
        exact .inl (Nat.lt_succ_self _)
      · exact .inr ⟨c', hc', rfl, le_rfl⟩
  | enterB p eventId step =>
    refine onward_operate _ p fun c state _ ha => ?_
    cases ha with
    | captured ends => cases ends
    | entered flipped | passed flipped =>
      rw [flipped]
      decide
  | lock p eventId step =>
    refine onward_operate _ p fun c state _ ha => ?_
    cases ha with
    | captured ends => cases ends
    | locked waits =>
      rw [waits]
      decide
  | @schedule L n d p u cycle =>
    refine (onward_operate (.beginActuation cycle.actuatorJobId cycle.commandId) p
      fun c state _ ha => ?_).trans (.of_ledger rfl)
    cases ha with
    | captured ends => cases ends
  | @sort L n d job cycle op sorts cycleAt onward =>
    refine onward_operate _ _ fun c state hc ha => ?_
    obtain ⟨_, _, e, he, _, hholds⟩ := hO.jobs job cycle cycleAt
    cases he.symm.trans hc
    cases ha with
    | captured ends => cases op <;> first | cases ends | cases sorts
    | accepted =>
      have hbusy : c.physicalState ≠ .done := fun hdone => hagain (onward _ rfl c hc hdone)
      cases hstate : c.physicalState <;> rw [hstate] at hbusy <;>
        first | decide | exact absurd rfl hbusy
    | completed sorting => rcases sorting with hs | hs <;> rw [hs] <;> decide
    | _ => cases sorts
  | @depart L n d nowNs =>
    exact .of_carries (L.ledger.remove_completed_prefix_carries nowNs)
  | _ => exact .of_ledger rfl

end PhysicalLine

namespace Supervision

open PhysicalLine

theorem onward_move {x y : Supervision × Debt} (hO : x.1.line.Occupied) (h : Move x y)
    (hkept : ¬Noted y.1 .reactuated) : Onward x.1.line y.1.line := by
  cases h with
  | work working started step => exact onward_step hO step hkept
  | @lineClear v d t guards nowNs =>
    exact .of_carries (v.line.ledger.clear_active_carries nowNs)
  | @prune v d cutoffNs => exact .of_carries (v.line.ledger.prune_removed_carries cutoffNs)
  | _ => exact .refl _

theorem onward_moves {x y : Supervision × Debt} (hO : x.1.line.Occupied) (h : Moves x y)
    (hkept : ¬Noted y.1 .reactuated) : Onward x.1.line y.1.line := by
  induction h with
  | refl => exact .refl _
  | tail hbefore hmove ih =>
    exact (ih fun hn => hkept (noted_of_move hmove hn)).trans
      (onward_move (occupied_moves hO hbefore) hmove hkept)

end Supervision

namespace Master

variable {m : Master}

/-- In a run in which no goal is accepted for a product that is done, no callback takes a
product back: one that is past a station never returns to it, and a done one stays done. -/
theorem products_move_onward (h : Reachable m) (e : MasterEvent)
    (hkept : ¬Noted (m.next e).toSupervision .reactuated) {p : String} {c c' : ProductContext}
    (hc : m.line.product? p = some c) (hc' : (m.next e).line.product? p = some c')
    (hsame : c'.fifoSequence = c.fifoSequence) :
    c.physicalState.value ≤ c'.physicalState.value := by
  have hoccupied := reachable_occupied h
  have hcalled := callback_of_next hoccupied e
  have honward : PhysicalLine.Onward m.line (m.next e).line := by
    generalize (m.next e).toSupervision = w at hcalled hkept
    cases hcalled with
    | moves hmoves => exact onward_moves (x := (m.toSupervision, {})) hoccupied hmoves hkept
    | confirm operatorId hmoves =>
      exact onward_moves (x := (m.toSupervision, {})) hoccupied hmoves hkept
  exact honward.product hc hc' hsame

/-- A product passes both stations, which cannot capture it. -/
def carriedPast (productId : String) (captureA captureB : ℕ) (sequence : ℕ) : List MasterEvent :=
  [sensed "sensor1" sequence, called (.positionSettled (numberedUuid 0) 1) 1000,
    failedCapture .a productId (numberedUuid captureA), sensed "sensor2" sequence,
    called (.positionSettled (numberedUuid 0) 2) 1000,
    failedCapture .b productId (numberedUuid captureB)]

/-- The second of two products is sorted first. -/
def sortedEarly : List MasterEvent :=
  commanded 2 2 :: carriedPast "P-11111111-000001" 9 13 1 ++
    carriedPast "P-11111111-000002" 17 21 2 ++
    [sensed "sensor3" 1, sensed "sensor3" 2,
      called (.actuationGoalResponse (numberedUuid 26) (numberedUuid 27) (.ok ⟨true, "goal"⟩)) 1000,
      called (.actuationResult (numberedUuid 26) (numberedUuid 27)
        (.ok ⟨true, "P-11111111-000002", "stroke", ""⟩)) 1000]

/-- The acceptance of its goal comes once more. -/
def acceptedAgain : MasterEvent :=
  called (.actuationGoalResponse (numberedUuid 26) (numberedUuid 27) (.ok ⟨true, "goal"⟩)) 1000

theorem done_product_actuates_again :
    ¬∀ m, Reachable m → ∀ e p c c', m.line.product? p = some c →
      (m.next e).line.product? p = some c' → c'.fifoSequence = c.fifoSequence →
        c.physicalState.value ≤ c'.physicalState.value := by
  intro h
  have honward := h _ (reachable_runLine .sim false sortedEarly) acceptedAgain "P-11111111-000002"
  have hbefore : ((runLine .sim false sortedEarly).line.product? "P-11111111-000002").map
      (fun c => (c.fifoSequence, c.physicalState)) = some (2, .done) := by decide +kernel
  have hafter : (((runLine .sim false sortedEarly).next acceptedAgain).line.product?
      "P-11111111-000002").map (fun c => (c.fifoSequence, c.physicalState)) =
      some (2, .actuating) := by decide +kernel
  obtain ⟨c, hc, hfacts⟩ := Option.map_eq_some_iff.mp hbefore
  obtain ⟨c', hc', hfacts'⟩ := Option.map_eq_some_iff.mp hafter
  have hvalue := honward c c' hc hc'
    ((congrArg Prod.fst hfacts').trans (congrArg Prod.fst hfacts).symm)
  rw [show c.physicalState = _ from congrArg Prod.snd hfacts,
    show c'.physicalState = _ from congrArg Prod.snd hfacts'] at hvalue
  exact absurd hvalue (by decide)

/-- The first acceptance takes the product on. -/
theorem first_acceptance_moves_onward :
    ∃ c c', (runLine .sim false (sortedEarly.take 15)).line.product? "P-11111111-000002" = some c ∧
      ((runLine .sim false (sortedEarly.take 15)).next acceptedAgain).line.product?
        "P-11111111-000002" = some c' ∧ c.physicalState.value ≤ c'.physicalState.value := by
  have hbefore : ((runLine .sim false (sortedEarly.take 15)).line.product?
      "P-11111111-000002").map (·.fifoSequence) = some 2 := by decide +kernel
  have hafter : (((runLine .sim false (sortedEarly.take 15)).next acceptedAgain).line.product?
      "P-11111111-000002").map (·.fifoSequence) = some 2 := by decide +kernel
  have hnone : ((runLine .sim false (sortedEarly.take 15)).next acceptedAgain).history.lapses =
      [] := by decide +kernel
  obtain ⟨c, hc, hfifo⟩ := Option.map_eq_some_iff.mp hbefore
  obtain ⟨c', hc', hfifo'⟩ := Option.map_eq_some_iff.mp hafter
  refine ⟨c, c', hc, hc', products_move_onward (reachable_runLine .sim false _) acceptedAgain ?_
    hc hc' (hfifo'.trans hfifo.symm)⟩
  rw [Noted, hnone]
  exact List.not_mem_nil

end Master

end InspectionLine
