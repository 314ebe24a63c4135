import InspectionLine.ProductMoves
import InspectionLine.LineClearLatch

/-! # No product on the line is forgotten

Every product that has not left the line is with a cycle, or its start is put off, or the
handler still owes it one. -/
namespace InspectionLine

open ProductContext (stationWait stationDone)

namespace ProductPhysicalState

def pastStationB : ProductPhysicalState → Bool
  | .stationBDone | .sensor3Wait | .atSensor3 | .actuating | .done => true
  | _ => false

def pastSensor3 : ProductPhysicalState → Bool
  | .atSensor3 | .actuating | .done => true
  | _ => false

theorem wait_ne_done (s t : StationId) : stationWait s ≠ stationDone t := by
  cases s <;> cases t <;> simp [stationWait, stationDone]

theorem wait_injective {s t : StationId} (h : stationWait s = stationWait t) : s = t := by
  cases s <;> cases t <;> simp_all [stationWait]

theorem done_injective {s t : StationId} (h : stationDone s = stationDone t) : s = t := by
  cases s <;> cases t <;> simp_all [stationDone]

theorem wait_before_sensor3 (s : StationId) : (stationWait s).pastSensor3 = false := by
  cases s <;> rfl

theorem done_before_sensor3 (s : StationId) : (stationDone s).pastSensor3 = false := by
  cases s <;> rfl

end ProductPhysicalState

open ProductPhysicalState

namespace PhysicalLine

/-- A product that has not left the line is in the FIFO. -/
def Live (L : PhysicalLine) : Prop :=
  ∀ p c, L.product? p = some c → c.removed = false → p ∈ L.ledger.active

/-- A product is accounted for where it stands. -/
structure Placed (L : PhysicalLine) (d : Debt) (p : String) (c : ProductContext) : Prop where
  waiting : ∀ s, c.physicalState = stationWait s →
    L.InCycle s p ∨ (p, s) ∈ L.deferredStationStarts ∨ (p, s) ∈ d.unplaced
  done : ∀ s, c.physicalState = stationDone s → L.InCycle s p
  sorted : c.physicalState.pastSensor3 = true → p ∈ d.unscheduled ∨
    ∃ cycle, L.actuationCycles.get? c.actuatorJobId = some cycle ∧ cycle.productId = p
  skipped : (c.station .b).processState = .skipped → c.physicalState.pastStationB = true

structure CycleFits (L : PhysicalLine) (d : Debt) (s : StationId) (cycle : StationCycle)
    (c : ProductContext) : Prop where
  owed : s ∈ d.unresumed → c.physicalState = stationDone s
  pending : s ∉ d.unresumed → cycle.phase = .resumePending → c.physicalState = stationDone s ∧
    (cycle.deadlineNs ≠ 0 ∨ (cycle.productId, s) ∈ L.deferredCaptureResumes ∨ s ∈ d.expiring)
  working : s ∉ d.unresumed → cycle.phase ≠ .resumePending →
    c.physicalState = stationWait s ∧ (s = .b → c.stationBSkipRequested = false)

theorem CycleFits.at_station {L : PhysicalLine} {d : Debt} {s : StationId} {cycle : StationCycle}
    {c : ProductContext} (h : L.CycleFits d s cycle c) :
    c.physicalState = stationWait s ∨ c.physicalState = stationDone s := by
  by_cases howed : s ∈ d.unresumed
  · exact .inr (h.owed howed)
  · by_cases hpending : cycle.phase = .resumePending
    · exact .inr (h.pending howed hpending).1
    · exact .inl (h.working howed hpending).1

theorem CycleFits.before_sensor3 {L : PhysicalLine} {d : Debt} {s : StationId}
    {cycle : StationCycle} {c : ProductContext} (h : L.CycleFits d s cycle c) :
    c.physicalState.pastSensor3 = false := by
  rcases h.at_station with hw | hd
  · rw [hw, wait_before_sensor3]
  · rw [hd, done_before_sensor3]

theorem CycleFits.unique {L : PhysicalLine} {d : Debt} {s t : StationId}
    {cycle other : StationCycle} {c : ProductContext} (h : L.CycleFits d s cycle c)
    (g : L.CycleFits d t other c) : s = t := by
  rcases h.at_station with hs | hs <;> rcases g.at_station with ht | ht
  · exact wait_injective (hs.symm.trans ht)
  · exact absurd (hs.symm.trans ht) (wait_ne_done s t)
  · exact absurd (ht.symm.trans hs) (wait_ne_done t s)
  · exact done_injective (hs.symm.trans ht)

/-- The products, the station cycles and the actuation cycles agree with each other. -/
structure Consistent (config : MasterConfig) (w : LineWatch) : Prop where
  products : ∀ p c, w.line.product? p = some c → c.removed = false → w.line.Placed w.debt p c
  stations : ∀ s cycle, w.line.stationCycles.get? s = some cycle →
    ∃ c, w.line.product? cycle.productId = some c ∧ c.removed = false ∧
      w.line.CycleFits w.debt s cycle c
  jobs : ∀ job cycle, w.line.actuationCycles.get? job = some cycle →
    (∃ k < w.uuidsIssued, job = config.newUuid k) ∧
      ∃ c, w.line.product? cycle.productId = some c ∧ c.removed = false ∧
        c.actuatorJobId = job ∧ c.physicalState.pastSensor3 = true

/-! ### Methods applied to one product -/

theorem applyAll_same_identity (ops : List ContextOp) (c : ProductContext) :
    ContextOp.SameIdentity c (ContextOp.applyAll ops c) := by
  induction ops generalizing c with
  | nil => exact .refl c
  | cons op ops ih =>
    have hfirst := op.apply_same_identity c
    have hrest := ih (op.apply c).2
    exact ⟨hrest.1.trans hfirst.1, hrest.2.trans hfirst.2, hrest.3.trans hfirst.3,
      hrest.4.trans hfirst.4⟩

theorem removed_applyAll (ops : List ContextOp) (c : ProductContext) :
    (ContextOp.applyAll ops c).removed = c.removed := (applyAll_same_identity ops c).removed

theorem product?_operateAll (L : PhysicalLine) (p q : String) (ops : List ContextOp) :
    (L.operateAll p ops).product? q =
      if q = p then (L.product? q).map (ContextOp.applyAll ops) else L.product? q := by
  induction ops generalizing L with
  | nil =>
    have hid : ContextOp.applyAll [] = id := rfl
    simp [operateAll, hid]
  | cons op ops ih =>
    have hone : (L.operate p op).product? q =
        if q = p then (L.product? q).map fun c => (op.apply c).2 else L.product? q :=
      L.ledger.get?_operate p q op
    rw [show L.operateAll p (op :: ops) = (L.operate p op).operateAll p ops from rfl, ih, hone]
    split
    · rw [Option.map_map]
      rfl
    · rfl

theorem product?_operate {L : PhysicalLine} {p : String} {c : ProductContext}
    (h : L.product? p = some c) (op : ContextOp) :
    (L.operate p op).product? p = some (op.apply c).2 := by
  have hget := product?_operateAll L p p [op]
  rw [if_pos rfl, h] at hget
  exact hget

/-- Methods touch nothing of the line but the products. -/
theorem operateAll_frame (L : PhysicalLine) (p : String) (ops : List ContextOp) :
    (L.operateAll p ops).stationCycles = L.stationCycles ∧
      (L.operateAll p ops).actuationCycles = L.actuationCycles ∧
      (L.operateAll p ops).deferredStationStarts = L.deferredStationStarts ∧
      (L.operateAll p ops).deferredCaptureResumes = L.deferredCaptureResumes ∧
      (L.operateAll p ops).ledger.active = L.ledger.active := by
  induction ops generalizing L with
  | nil => exact ⟨rfl, rfl, rfl, rfl, rfl⟩
  | cons op ops ih =>
    have hactive : (L.operate p op).ledger.active = L.ledger.active := by
      simp only [operate, ProductLedger.operate]
      split <;> rfl
    obtain ⟨hs, ha, hd, hr, hactives⟩ := ih (L.operate p op)
    exact ⟨hs, ha, hd, hr, hactives.trans hactive⟩

theorem live_operateAll {L : PhysicalLine} (h : L.Live) (p : String) (ops : List ContextOp) :
    (L.operateAll p ops).Live := by
  intro q c hq hr
  rw [product?_operateAll] at hq
  rw [(L.operateAll_frame p ops).2.2.2.2]
  split at hq
  · obtain ⟨e, he, rfl⟩ := Option.map_eq_some_iff.mp hq
    exact h q e he ((removed_applyAll ops e).symm.trans hr)
  · exact h q c hq hr

variable {config : MasterConfig} {L M : PhysicalLine} {n m : ℕ} {d e : Debt} {p : String}

theorem Placed.of_same {c : ProductContext} (h : L.Placed d p c)
    (hs : M.stationCycles = L.stationCycles) (ha : M.actuationCycles = L.actuationCycles)
    (hd : L.deferredStationStarts ⊆ M.deferredStationStarts)
    (hp : d.unplaced ⊆ e.unplaced) (hu : d.unscheduled ⊆ e.unscheduled) : M.Placed e p c where
  waiting s hw := by
    rcases h.waiting s hw with hin | hdef | hun
    · exact .inl (by unfold InCycle; rw [hs]; exact hin)
    · exact .inr (.inl (hd hdef))
    · exact .inr (.inr (hp hun))
  done s hw := by
    unfold InCycle
    rw [hs]
    exact h.done s hw
  sorted hb := by
    rw [ha]
    exact (h.sorted hb).imp_left fun hq => hu hq
  skipped := h.skipped

theorem CycleFits.of_same {s : StationId} {cycle : StationCycle} {c : ProductContext}
    (h : L.CycleFits d s cycle c) (hr : L.deferredCaptureResumes ⊆ M.deferredCaptureResumes)
    (hu : d.unresumed = e.unresumed) (he : d.expiring ⊆ e.expiring) :
    M.CycleFits e s cycle c where
  owed ho := h.owed (hu ▸ ho)
  pending ho hp := by
    obtain ⟨hdone, hwatched⟩ := h.pending (hu ▸ ho) hp
    exact ⟨hdone, hwatched.imp_right (Or.imp (fun hd => hr hd) fun hx => he hx)⟩
  working ho hp := h.working (hu ▸ ho) hp

/-- Only a product's own state has changed, and its cycles agree with the new one. -/
theorem Consistent.operate (ops : List ContextOp) (hC : Consistent config ⟨L, n, d⟩)
    (hp : d.unplaced ⊆ e.unplaced) (hu : d.unscheduled ⊆ e.unscheduled)
    (placed : ∀ c, L.product? p = some c → c.removed = false → L.Placed d p c →
      L.Placed e p (ContextOp.applyAll ops c))
    (fits : ∀ s cycle c, L.stationCycles.get? s = some cycle → cycle.productId = p →
      L.product? p = some c → L.CycleFits d s cycle c →
        L.CycleFits e s cycle (ContextOp.applyAll ops c))
    (others : ∀ s cycle c, L.stationCycles.get? s = some cycle → cycle.productId ≠ p →
      L.CycleFits d s cycle c → L.CycleFits e s cycle c)
    (kept : ∀ c, L.product? p = some c → c.physicalState.pastSensor3 = true →
      (ContextOp.applyAll ops c).actuatorJobId = c.actuatorJobId ∧
        (ContextOp.applyAll ops c).physicalState.pastSensor3 = true) :
    Consistent config ⟨L.operateAll p ops, n, e⟩ := by
  obtain ⟨hs, ha, hds, hdr, _⟩ := L.operateAll_frame p ops
  constructor
  · intro q c hq hr
    rw [product?_operateAll] at hq
    split at hq
    · rename_i hqp
      subst hqp
      obtain ⟨c, hc, rfl⟩ := Option.map_eq_some_iff.mp hq
      have hlive := (removed_applyAll ops c).symm.trans hr
      exact (placed c hc hlive (hC.products q c hc hlive)).of_same hs ha (hds ▸ List.Subset.refl _)
        (List.Subset.refl _) (List.Subset.refl _)
    · exact (hC.products q c hq hr).of_same hs ha (hds ▸ List.Subset.refl _) hp hu
  · intro s cycle hcycle
    rw [hs] at hcycle
    obtain ⟨c, hc, hr, hfits⟩ := hC.stations s cycle hcycle
    by_cases hcp : cycle.productId = p
    · refine ⟨ContextOp.applyAll ops c, ?_, (removed_applyAll ops c).trans hr, ?_⟩
      · rw [product?_operateAll, if_pos hcp, hc, Option.map_some]
      · exact (fits s cycle c hcycle hcp (hcp ▸ hc) hfits).of_same (hdr ▸ List.Subset.refl _) rfl
          (List.Subset.refl _)
    · refine ⟨c, by rw [product?_operateAll, if_neg hcp, hc], hr, ?_⟩
      exact (others s cycle c hcycle hcp hfits).of_same (hdr ▸ List.Subset.refl _) rfl
        (List.Subset.refl _)
  · intro job cycle hjob
    rw [ha] at hjob
    obtain ⟨hkey, c, hc, hr, hid, hpast⟩ := hC.jobs job cycle hjob
    refine ⟨hkey, ?_⟩
    by_cases hcp : cycle.productId = p
    · obtain ⟨hkeep, hstill⟩ := kept c (hcp ▸ hc) hpast
      refine ⟨ContextOp.applyAll ops c, ?_, (removed_applyAll ops c).trans hr, hkeep.trans hid,
        hstill⟩
      rw [product?_operateAll, if_pos hcp, hc, Option.map_some]
    · exact ⟨c, by rw [product?_operateAll, if_neg hcp, hc], hr, hid, hpast⟩

/-! ### One step -/

theorem Placed.stays {c c' : ProductContext} (h : L.Placed d p c)
    (hstate : c'.physicalState = c.physicalState) (hjob : c'.actuatorJobId = c.actuatorJobId)
    (hskipped : (c'.station .b).processState = .skipped →
      (c.station .b).processState = .skipped) : L.Placed d p c' where
  waiting s hw := h.waiting s (hstate ▸ hw)
  done s hw := h.done s (hstate ▸ hw)
  sorted hb := by
    rw [hjob]
    exact h.sorted (hstate ▸ hb)
  skipped hs := by
    rw [hstate]
    exact h.skipped (hskipped hs)

theorem CycleFits.unmoved {s : StationId} {cycle : StationCycle} {c c' : ProductContext}
    (h : L.CycleFits d s cycle c) (hu : c.Unmoved c') : L.CycleFits d s cycle c' where
  owed ho := hu.physicalState.trans (h.owed ho)
  pending ho hp := ⟨hu.physicalState.trans (h.pending ho hp).1, (h.pending ho hp).2⟩
  working ho hp := ⟨hu.physicalState.trans (h.working ho hp).1,
    fun hs => hu.skip.trans ((h.working ho hp).2 hs)⟩

theorem Consistent.station_unique {s t : StationId} {cycle other : StationCycle}
    (hC : Consistent config ⟨L, n, d⟩) (hs : L.stationCycles.get? s = some cycle)
    (ht : L.stationCycles.get? t = some other) (hp : other.productId = cycle.productId) :
    t = s := by
  obtain ⟨c, hc, _, hfits⟩ := hC.stations s cycle hs
  obtain ⟨c', hc', _, hfits'⟩ := hC.stations t other ht
  rw [hp, hc] at hc'
  cases hc'
  exact hfits'.unique hfits

theorem Consistent.cycle_before_sensor3 {s : StationId} {cycle : StationCycle}
    {c : ProductContext} (hC : Consistent config ⟨L, n, d⟩)
    (hs : L.stationCycles.get? s = some cycle) (hc : L.product? cycle.productId = some c) :
    c.physicalState.pastSensor3 = false := by
  obtain ⟨c', hc', _, hfits⟩ := hC.stations s cycle hs
  rw [hc] at hc'
  cases hc'
  exact hfits.before_sensor3

end PhysicalLine

end InspectionLine
