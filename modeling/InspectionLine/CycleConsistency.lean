import InspectionLine.LineConsistency

/-! # The cycles and the products keep agreeing -/
namespace InspectionLine

open ProductContext (stationWait stationDone)

open ProductPhysicalState

namespace PhysicalLine

variable {config : MasterConfig} {L M : PhysicalLine} {n m : ℕ} {d e : Debt} {p : String}

/-! ### Station cycles -/

theorem inCycle_set {s t : StationId} {cycle next : StationCycle} {q : String}
    (cycleAt : L.stationCycles.get? s = some cycle) (same : next.SameProduct cycle)
    (hs : M.stationCycles = L.stationCycles.set next) (h : L.InCycle t q) : M.InCycle t q := by
  obtain ⟨other, hother, hproduct⟩ := h
  have hstation : next.stationId = s := same.1.trans (L.stationCycles.keyed s cycle cycleAt)
  unfold InCycle
  rw [hs]
  by_cases hts : t = s
  · subst hts
    rw [cycleAt] at hother
    cases hother
    exact ⟨next, by rw [StationCycles.get?_set, if_pos hstation.symm], same.2.1.trans hproduct⟩
  · refine ⟨other, ?_, hproduct⟩
    rw [StationCycles.get?_set, if_neg (fun h => hts (h.trans hstation)), hother]

theorem Consistent.recycle (resumes : List Scope) {s : StationId} {cycle next : StationCycle}
    (hC : Consistent config ⟨L, n, d⟩) (cycleAt : L.stationCycles.get? s = some cycle)
    (same : next.SameProduct cycle) (kept : L.deferredCaptureResumes ⊆ resumes)
    (hp : d.unplaced ⊆ e.unplaced) (hu : d.unscheduled ⊆ e.unscheduled)
    (hr : d.unresumed = e.unresumed) (he : d.expiring ⊆ e.expiring)
    (fits : ∀ c, L.product? cycle.productId = some c → L.CycleFits d s cycle c →
      PhysicalLine.CycleFits
        { L with stationCycles := L.stationCycles.set next, deferredCaptureResumes := resumes }
        e s next c) :
    Consistent config ⟨{ L with
      stationCycles := L.stationCycles.set next, deferredCaptureResumes := resumes }, n, e⟩ := by
  have hstation : next.stationId = s := same.1.trans (L.stationCycles.keyed s cycle cycleAt)
  constructor
  · intro q c hq hlive
    have hplaced := hC.products q c hq hlive
    refine ⟨fun t hw => ?_, fun t hw => ?_, fun hb => (hplaced.sorted hb).imp_left (hu ·),
      hplaced.skipped⟩
    · rcases hplaced.waiting t hw with hin | hdef | hun
      · exact .inl (inCycle_set cycleAt same rfl hin)
      · exact .inr (.inl hdef)
      · exact .inr (.inr (hp hun))
    · exact inCycle_set cycleAt same rfl (hplaced.done t hw)
  · intro t other hother
    rw [StationCycles.get?_set] at hother
    split at hother
    · rename_i ht
      cases hother
      have hts : t = s := ht.trans hstation
      subst hts
      obtain ⟨c, hc, hlive, hfits⟩ := hC.stations t cycle cycleAt
      refine ⟨c, ?_, hlive, fits c hc hfits⟩
      rw [same.2.1]
      exact hc
    · obtain ⟨c, hc, hlive, hfits⟩ := hC.stations t other hother
      exact ⟨c, hc, hlive, hfits.of_same kept hr he⟩
  · exact hC.jobs

theorem product?_of_get {L : PhysicalLine} {p : String} {f : ℕ} {c : ProductContext}
    (h : L.ledger.get p f = some c) : L.product? p = some c := (Option.filter_eq_some_iff.mp h).1

theorem reply_of_operate {p : String} {c : ProductContext} {op : ContextOp} {reply : Reply}
    (hc : L.product? p = some c) (h : (L.ledger.operate p op).1 = .ok reply) :
    (op.apply c).1 = .ok reply := (ProductLedger.operate_outcome hc op).symm.trans h

/-- A station gives up its cycle. The product of the cycle has to be accounted for. -/
theorem Consistent.vacate (ops : List ContextOp) {s : StationId} {cycle : StationCycle}
    {starts resumes : List Scope} (hC : Consistent config ⟨L, n, d⟩)
    (cycleAt : L.stationCycles.get? s = some cycle) (product : cycle.productId = p)
    (hs : L.deferredStationStarts ⊆ starts)
    (hr : ∀ scope ∈ L.deferredCaptureResumes, scope ≠ (p, s) → scope ∈ resumes)
    (placed : ∀ c, L.product? p = some c → L.Placed d p c → L.CycleFits d s cycle c →
      PhysicalLine.Placed { L.operateAll p ops with
        stationCycles := L.stationCycles.pop s
        deferredStationStarts := starts
        deferredCaptureResumes := resumes } d p (ContextOp.applyAll ops c)) :
    Consistent config ⟨{ L.operateAll p ops with
      stationCycles := L.stationCycles.pop s
      deferredStationStarts := starts
      deferredCaptureResumes := resumes }, n, d⟩ := by
  obtain ⟨_, ha, _, _, _⟩ := L.operateAll_frame p ops
  have hother : ∀ t other, L.stationCycles.get? t = some other → t ≠ s → other.productId ≠ p :=
    fun t other ht hts he => hts (hC.station_unique cycleAt ht (he.trans product.symm))
  constructor
  · intro q c hq hlive
    change (L.operateAll p ops).product? q = some c at hq
    rw [product?_operateAll] at hq
    split at hq
    · rename_i hqp
      subst hqp
      obtain ⟨c, hc, rfl⟩ := Option.map_eq_some_iff.mp hq
      have hbefore := (removed_applyAll ops c).symm.trans hlive
      obtain ⟨c', hc', _, hfits⟩ := hC.stations s cycle cycleAt
      rw [product, hc] at hc'
      cases hc'
      exact placed c hc (hC.products q c hc hbefore) hfits
    · rename_i hqp
      have hplaced := hC.products q c hq hlive
      have hin : ∀ t, L.InCycle t q → (L.stationCycles.pop s).get? t = L.stationCycles.get? t := by
        rintro t ⟨other, ht, hproduct⟩
        rw [StationCycles.get?_pop, if_neg]
        rintro rfl
        rw [cycleAt] at ht
        cases ht
        exact hqp (hproduct.symm.trans product)
      refine ⟨fun t hw => ?_, fun t hw => ?_, fun hb => ?_, hplaced.skipped⟩
      · rcases hplaced.waiting t hw with hcycle | hdef | hun
        · obtain ⟨other, ht, hproduct⟩ := hcycle
          exact .inl ⟨other, (hin t ⟨other, ht, hproduct⟩).trans ht, hproduct⟩
        · exact .inr (.inl (hs hdef))
        · exact .inr (.inr hun)
      · obtain ⟨other, ht, hproduct⟩ := hplaced.done t hw
        exact ⟨other, (hin t ⟨other, ht, hproduct⟩).trans ht, hproduct⟩
      · exact ha ▸ hplaced.sorted hb
  · intro t other ht
    rw [StationCycles.get?_pop] at ht
    split at ht
    · cases ht
    · rename_i hts
      have hne := hother t other ht hts
      obtain ⟨c, hc, hlive, hfits⟩ := hC.stations t other ht
      refine ⟨c, ?_, hlive, hfits.owed, fun ho hp => ?_, hfits.working⟩
      · change (L.operateAll p ops).product? other.productId = some c
        rw [product?_operateAll, if_neg hne, hc]
      · obtain ⟨hdone, hwatched⟩ := hfits.pending ho hp
        refine ⟨hdone, hwatched.imp_right (Or.imp_left fun hd => hr _ hd ?_)⟩
        exact fun he => hts (congrArg Prod.snd he)
  · intro job other hjob
    change (L.operateAll p ops).actuationCycles.get? job = some other at hjob
    rw [ha] at hjob
    obtain ⟨hkey, c, hc, hlive, hid, hpast⟩ := hC.jobs job other hjob
    have hne : other.productId ≠ p := by
      intro he
      rw [hC.cycle_before_sensor3 cycleAt (product ▸ he ▸ hc)] at hpast
      cases hpast
    refine ⟨hkey, c, ?_, hlive, hid, hpast⟩
    change (L.operateAll p ops).product? other.productId = some c
    rw [product?_operateAll, if_neg hne, hc]

theorem register_capture_products {L M : ProductLedger} {captureId p : String} {s : StationId}
    (h : L.registerCapture captureId p s = (.ok (), M)) :
    M.byId = L.byId ∧ M.active = L.active := by
  unfold ProductLedger.registerCapture at h
  split at h
  · split at h
    · cases h
    · cases h
      exact ⟨rfl, rfl⟩
  · cases h
    exact ⟨rfl, rfl⟩

/-- Registering under the next sequence number adds a product of that name. -/
theorem register_next {L M : ProductLedger} {p : String}
    (h : L.register p L.nextSequence = (.ok (), M)) :
    L.byId.get? p = none ∧ M.active = L.active ++ [p] ∧
      ∀ q, M.byId.get? q = if q = p then some { productId := p, fifoSequence := L.nextSequence }
        else L.byId.get? q := by
  unfold ProductLedger.register at h
  split at h
  · cases h
  · split at h
    · rename_i existing hexisting
      split at h
      · cases h
      · rename_i hsame
        have hbound := (L.identified p existing hexisting).2.2.1
        have hnext : existing.fifoSequence = L.lastSequence + 1 := not_not.mp hsame
        omega
    · rename_i habsent
      split at h
      · cases h
      · split at h
        · cases h
        · cases h
          exact ⟨habsent, rfl, fun q => OrderedDict.get?_insert _ _ _ _⟩

theorem get?_removeCompletedPrefix (L : ProductLedger) (nowNs : ℤ) (q : String) :
    (L.removeCompletedPrefix nowNs).2.byId.get? q = if q ∈ L.active.takeWhile L.isDone then
      (L.byId.get? q).map (ProductLedger.markRemoved nowNs) else L.byId.get? q := by
  have hnodup : (L.active.takeWhile L.isDone).Nodup :=
    L.active_nodup.sublist (List.takeWhile_sublist _)
  exact OrderedDict.get?_foldl_modify _ hnodup _ _ _

theorem done_of_gone {L : ProductLedger} {q : String} {c : ProductContext}
    (h : q ∈ L.active.takeWhile L.isDone) (hc : L.byId.get? q = some c) :
    c.physicalState = .done := by
  have hdone := List.mem_takeWhile_imp h
  rw [ProductLedger.isDone, hc] at hdone
  simp only [Option.any_some, Bool.and_eq_true, decide_eq_true_eq] at hdone
  exact hdone.2

theorem erase_jobs (gone : List ProductContext) (cycles : OrderedDict String ActuationCycle)
    (job : String) : (gone.foldl (fun cycles c => cycles.erase c.actuatorJobId) cycles).get? job =
      if job ∈ gone.map (·.actuatorJobId) then none else cycles.get? job := by
  rw [← OrderedDict.get?_foldl_erase, List.foldl_map]

theorem mem_gone_contexts {L : ProductLedger} {nowNs : ℤ} {c : ProductContext} :
    c ∈ (L.removeCompletedPrefix nowNs).1 ↔ ∃ q ∈ L.active.takeWhile L.isDone, ∃ c',
      L.byId.get? q = some c' ∧ c = ProductLedger.markRemoved nowNs c' := by
  have hmem : ∀ q ∈ L.active.takeWhile L.isDone,
      (L.removeCompletedPrefix nowNs).2.byId.get? q =
        (L.byId.get? q).map (ProductLedger.markRemoved nowNs) := by
    intro q hq
    rw [get?_removeCompletedPrefix, if_pos hq]
  refine List.mem_filterMap.trans ⟨?_, ?_⟩
  · rintro ⟨q, hq, hget⟩
    obtain ⟨c', hc', rfl⟩ := Option.map_eq_some_iff.mp ((hmem q hq).symm.trans hget)
    exact ⟨q, hq, c', hc', rfl⟩
  · rintro ⟨q, hq, c', hc', rfl⟩
    exact ⟨q, hq, (hmem q hq).trans (by rw [hc', Option.map_some])⟩

end PhysicalLine

end InspectionLine
