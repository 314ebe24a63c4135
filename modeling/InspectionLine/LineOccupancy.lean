import InspectionLine.LineBookkeeping

/-! # Cycles belong to products on the line

This holds after every move, whatever has been reported or gone wrong before. -/
namespace InspectionLine

open ProductContext (stationWait stationDone)
open ProductPhysicalState

namespace PhysicalLine

def AtStation (s : StationId) (c : ProductContext) : Prop :=
  c.physicalState = stationWait s ∨ c.physicalState = stationDone s

theorem AtStation.before_sensor3 {s : StationId} {c : ProductContext} (h : AtStation s c) :
    c.physicalState.pastSensor3 = false := by
  rcases h with hw | hd
  · rw [hw, wait_before_sensor3]
  · rw [hd, done_before_sensor3]

theorem AtStation.unique {s t : StationId} {c : ProductContext} (h : AtStation s c)
    (g : AtStation t c) : s = t := by
  rcases h with hs | hs <;> rcases g with ht | ht
  · exact wait_injective (hs.symm.trans ht)
  · exact absurd (hs.symm.trans ht) (wait_ne_done s t)
  · exact absurd (ht.symm.trans hs) (wait_ne_done t s)
  · exact done_injective (hs.symm.trans ht)

/-- The product of an actuation cycle holds the job of the cycle. -/
structure HoldsJob (job : String) (c : ProductContext) : Prop where
  holds : c.actuatorJobId = job
  past : c.physicalState.pastSensor3 = true

def OwnLocks (L : PhysicalLine) : Prop :=
  ∀ p c locked, L.product? p = some c → c.locked = some locked → locked.productId = p

/-- Every cycle has a product on the line that is where the cycle needs it. -/
structure Occupied (L : PhysicalLine) : Prop where
  live : L.Live
  locks : L.OwnLocks
  stations : ∀ s cycle, L.stationCycles.get? s = some cycle →
    ∃ c, L.ledger.get cycle.productId cycle.fifoSequence = some c ∧ c.removed = false ∧
      AtStation s c
  jobs : ∀ job cycle, L.actuationCycles.get? job = some cycle →
    cycle.actuatorJobId = job ∧ job ≠ "" ∧
      ∃ c, L.product? cycle.productId = some c ∧ c.removed = false ∧ HoldsJob job c

variable {L M : PhysicalLine} {p : String}

theorem own_lock {ops : List ContextOp} {c : ProductContext}
    (h : ∀ locked, c.locked = some locked → locked.productId = c.productId) :
    ∀ locked, (ContextOp.applyAll ops c).locked = some locked →
      locked.productId = c.productId := by
  induction ops generalizing c with
  | nil => exact h
  | cons op ops ih =>
    have hid := (op.apply_same_identity c).productId
    have hfirst : ∀ locked, (op.apply c).2.locked = some locked →
        locked.productId = (op.apply c).2.productId := by
      intro locked hlocked
      rw [hid]
      rcases ContextOp.locked_effect op c with hsame | ⟨e, step, _, _, _, hnew, _⟩
      · exact h locked (hsame ▸ hlocked)
      · rw [hnew] at hlocked
        cases hlocked
        rfl
    exact fun locked hlocked => (ih hfirst locked hlocked).trans hid

theorem own_locks_operateAll (hL : L.OwnLocks) (p : String) (ops : List ContextOp) :
    (L.operateAll p ops).OwnLocks := by
  intro q c locked hq hlocked
  rw [product?_operateAll] at hq
  split at hq
  · obtain ⟨c', hc', rfl⟩ := Option.map_eq_some_iff.mp hq
    have hid := (L.ledger.identified q c' hc').1
    rw [← hid]
    exact own_lock (fun other hother => hid.symm ▸ hL q c' other hc' hother) locked hlocked
  · exact hL q c locked hq hlocked

theorem own_locks_of_products {M : PhysicalLine} (hL : L.OwnLocks)
    (hp : M.ledger.byId = L.ledger.byId) : M.OwnLocks := by
  intro q c locked hq
  exact hL q c locked (by rw [product?, ← hp]; exact hq)

theorem Occupied.product {s : StationId} {cycle : StationCycle} (hO : L.Occupied)
    (h : L.stationCycles.get? s = some cycle) :
    ∃ c, L.product? cycle.productId = some c ∧ c.removed = false ∧ AtStation s c := by
  obtain ⟨c, hc, hlive, hat⟩ := hO.stations s cycle h
  exact ⟨c, product?_of_get hc, hlive, hat⟩

/-- Only one product's own state has changed, and no cycle is new. -/
theorem Occupied.operate (ops : List ContextOp) (hO : L.Occupied) (p : String)
    (hproducts : M.ledger.byId = (L.operateAll p ops).ledger.byId)
    (hactive : M.ledger.active = (L.operateAll p ops).ledger.active)
    (hcycles : ∀ s cycle, M.stationCycles.get? s = some cycle → ∃ before,
      L.stationCycles.get? s = some before ∧ before.productId = cycle.productId ∧
        before.fifoSequence = cycle.fifoSequence)
    (hjobs : ∀ job cycle, M.actuationCycles.get? job = some cycle → ∃ before,
      L.actuationCycles.get? job = some before ∧ before.productId = cycle.productId ∧
        before.actuatorJobId = cycle.actuatorJobId)
    (stays : ∀ s c, M.InCycle s p → L.product? p = some c → AtStation s c →
      AtStation s (ContextOp.applyAll ops c))
    (kept : ∀ job c, job ≠ "" → L.product? p = some c → HoldsJob job c →
      HoldsJob job (ContextOp.applyAll ops c)) : M.Occupied := by
  have hget : ∀ q, M.product? q =
      if q = p then (L.product? q).map (ContextOp.applyAll ops) else L.product? q := by
    intro q
    rw [← product?_operateAll L p q ops, product?, hproducts]
    rfl
  refine ⟨live_of_ledger (live_operateAll hO.live p ops) hproducts hactive,
    own_locks_of_products (own_locks_operateAll hO.locks p ops) hproducts,
    fun s cycle hcycle => ?_, fun job cycle hjob => ?_⟩
  · obtain ⟨before, hbefore, hid, hfifo⟩ := hcycles s cycle hcycle
    obtain ⟨c, hc, hlive, hat⟩ := hO.stations s before hbefore
    rw [hid, hfifo] at hc
    obtain ⟨hproduct, hsequence⟩ := Option.filter_eq_some_iff.mp hc
    by_cases hp : cycle.productId = p
    · have hsame := applyAll_same_identity ops c
      refine ⟨ContextOp.applyAll ops c, Option.filter_eq_some_iff.mpr ⟨?_, ?_⟩,
        hsame.removed.trans hlive, ?_⟩
      · exact (hget _).trans ((if_pos hp).trans (congrArg _ hproduct))
      · rw [hsame.fifoSequence]
        exact hsequence
      · exact stays s c ⟨cycle, hcycle, hp⟩ (hp ▸ hproduct) hat
    · exact ⟨c, Option.filter_eq_some_iff.mpr
        ⟨(hget _).trans ((if_neg hp).trans hproduct), hsequence⟩, hlive, hat⟩
  · obtain ⟨before, hbefore, hid, hkey⟩ := hjobs job cycle hjob
    obtain ⟨hown, hne, c, hc, hlive, hholds⟩ := hO.jobs job before hbefore
    refine ⟨hkey ▸ hown, hne, ?_⟩
    rw [hid] at hc
    by_cases hp : cycle.productId = p
    · refine ⟨ContextOp.applyAll ops c, ?_, (removed_applyAll ops c).trans hlive,
        kept job c hne (hp ▸ hc) hholds⟩
      rw [hget, if_pos hp, hc, Option.map_some]
    · exact ⟨c, by rw [hget, if_neg hp, hc], hlive, hholds⟩

theorem same_cycle {cycles : StationCycles} (s : StationId) (cycle : StationCycle)
    (h : cycles.get? s = some cycle) : ∃ before, cycles.get? s = some before ∧
      before.productId = cycle.productId ∧ before.fifoSequence = cycle.fifoSequence :=
  ⟨cycle, h, rfl, rfl⟩

theorem same_job {jobs : OrderedDict String ActuationCycle} (job : String) (cycle : ActuationCycle)
    (h : jobs.get? job = some cycle) : ∃ before, jobs.get? job = some before ∧
      before.productId = cycle.productId ∧ before.actuatorJobId = cycle.actuatorJobId :=
  ⟨cycle, h, rfl, rfl⟩

/-- Methods that move no product from its station and none away from Sensor 3. -/
theorem Occupied.operateAll (ops : List ContextOp) (hO : L.Occupied) (p : String)
    (stays : ∀ s c, L.InCycle s p → L.product? p = some c → AtStation s c →
      AtStation s (ContextOp.applyAll ops c))
    (kept : ∀ job c, job ≠ "" → L.product? p = some c → HoldsJob job c →
      HoldsJob job (ContextOp.applyAll ops c)) : (L.operateAll p ops).Occupied := by
  obtain ⟨hs, ha, _, _, _⟩ := L.operateAll_frame p ops
  refine hO.operate _ p rfl rfl (fun s cycle h => ?_) (fun job cycle h => ?_)
    (fun s c hin => stays s c ?_) kept
  · exact same_cycle s cycle (hs ▸ h)
  · exact same_job job cycle (ha ▸ h)
  · unfold InCycle at hin ⊢
    rw [hs] at hin
    exact hin

theorem AtStation.unmoved {s : StationId} {c e : ProductContext} (h : AtStation s c)
    (hu : e.physicalState = c.physicalState) : AtStation s e := by
  unfold AtStation
  rw [hu]
  exact h

/-- Only the bookkeeping of cycles that exist already has changed. -/
theorem Occupied.recycle (hO : L.Occupied) (hledger : M.ledger = L.ledger)
    (hcycles : ∀ s cycle, M.stationCycles.get? s = some cycle → ∃ before,
      L.stationCycles.get? s = some before ∧ before.productId = cycle.productId ∧
        before.fifoSequence = cycle.fifoSequence)
    (hjobs : ∀ job cycle, M.actuationCycles.get? job = some cycle → ∃ before,
      L.actuationCycles.get? job = some before ∧ before.productId = cycle.productId ∧
        before.actuatorJobId = cycle.actuatorJobId) : M.Occupied :=
  hO.operate [] "" (congrArg _ hledger) (congrArg _ hledger) hcycles hjobs
    (fun _ _ _ _ hat => hat) fun _ _ _ _ hholds => hholds

theorem set_cycle {s t : StationId} {cycle next other : StationCycle}
    (cycleAt : L.stationCycles.get? s = some cycle) (same : next.SameProduct cycle)
    (h : (L.stationCycles.set next).get? t = some other) : ∃ before,
      L.stationCycles.get? t = some before ∧ before.productId = other.productId ∧
        before.fifoSequence = other.fifoSequence := by
  rw [StationCycles.get?_set] at h
  split at h
  · rename_i ht
    cases h
    have hstation : next.stationId = s := same.1.trans (L.stationCycles.keyed s cycle cycleAt)
    exact ⟨cycle, by rw [ht, hstation, cycleAt], same.2.1.symm, same.2.2.symm⟩
  · exact same_cycle t other h

theorem pop_cycle {s t : StationId} {other : StationCycle}
    (h : (L.stationCycles.pop s).get? t = some other) :
    t ≠ s ∧ L.stationCycles.get? t = some other := by
  rw [StationCycles.get?_pop] at h
  split at h
  · cases h
  · rename_i ht
    exact ⟨ht, h⟩

/-- A cycle leaves its station, and its product is changed along with it. -/
theorem Occupied.vacate {s : StationId} {cycle : StationCycle} {op : ContextOp}
    (hO : L.Occupied) (cycleAt : L.stationCycles.get? s = some cycle)
    (product : cycle.productId = p) (hledger : M.ledger = (L.operate p op).ledger)
    (hcycles : M.stationCycles = L.stationCycles.pop s)
    (hjobs : M.actuationCycles = L.actuationCycles) : M.Occupied := by
  have hat : ∀ c, L.product? p = some c → AtStation s c := by
    intro c hc
    obtain ⟨c', hc', _, hat⟩ := hO.product cycleAt
    rw [product, hc] at hc'
    cases hc'
    exact hat
  refine hO.operate [op] p (congrArg _ hledger) (congrArg _ hledger)
    (fun t other h => ?_) (fun job other h => same_job job other (hjobs ▸ h))
    (fun t c hin hc ht => ?_) (fun job c _ hc hholds => ?_)
  · rw [hcycles] at h
    exact same_cycle t other (pop_cycle h).2
  · obtain ⟨other, hother, _⟩ := hin
    rw [hcycles] at hother
    exact absurd (ht.unique (hat c hc)) (pop_cycle hother).1
  · have hbefore := (hat c hc).before_sensor3
    rw [hholds.past] at hbefore
    cases hbefore

/-- A cycle is opened for a product that has just come to the station. -/
theorem Occupied.open {s : StationId} {cycle : StationCycle} {c : ProductContext}
    (hO : L.Occupied) (known : L.ledger.get cycle.productId cycle.fifoSequence = some c)
    (live : c.removed = false) (at_station : AtStation s c) (station : cycle.stationId = s)
    (hledger : M.ledger = L.ledger) (hcycles : M.stationCycles = L.stationCycles.set cycle)
    (hjobs : M.actuationCycles = L.actuationCycles) : M.Occupied := by
  have hbyId : M.ledger.byId = L.ledger.byId := congrArg _ hledger
  have hactive : M.ledger.active = L.ledger.active := congrArg _ hledger
  refine ⟨live_of_ledger hO.live hbyId hactive, own_locks_of_products hO.locks hbyId,
    fun t other h => ?_, fun job other h => ?_⟩
  · rw [hcycles, StationCycles.get?_set] at h
    rw [hledger]
    split at h
    · rename_i ht
      cases h
      rw [ht, station]
      exact ⟨c, known, live, at_station⟩
    · exact hO.stations t other h
  · rw [hjobs] at h
    unfold product?
    rw [hledger]
    exact hO.jobs job other h

theorem Occupied.arrive {ledger : ProductLedger} (hO : L.Occupied)
    (registered : L.ledger.register p L.ledger.nextSequence = (.ok (), ledger)) :
    PhysicalLine.Occupied { L with ledger } := by
  obtain ⟨habsent, hactive, hproducts⟩ := register_next registered
  have hkept : ∀ q c, L.product? q = some c → ledger.byId.get? q = some c := by
    intro q c hq
    rw [hproducts, if_neg]
    · exact hq
    · rintro rfl
      exact absurd (habsent.symm.trans hq) (by simp)
  refine ⟨fun q c hq hr => ?_, fun q c locked hq hlocked => ?_, fun s cycle hcycle => ?_,
    fun job cycle hjob => ?_⟩
  · change ledger.byId.get? q = some c at hq
    change q ∈ ledger.active
    rw [hproducts] at hq
    rw [hactive]
    split at hq
    · rename_i hqp
      exact List.mem_append_right _ (hqp ▸ List.mem_singleton_self q)
    · exact List.mem_append_left _ (hO.live q c hq hr)
  · change ledger.byId.get? q = some c at hq
    rw [hproducts] at hq
    split at hq
    · cases hq
      cases hlocked
    · exact hO.locks q c locked hq hlocked
  · obtain ⟨c, hc, hrest⟩ := hO.stations s cycle hcycle
    obtain ⟨hproduct, hsequence⟩ := Option.filter_eq_some_iff.mp hc
    exact ⟨c, Option.filter_eq_some_iff.mpr ⟨hkept _ c hproduct, hsequence⟩, hrest⟩
  · obtain ⟨hown, hne, c, hc, hrest⟩ := hO.jobs job cycle hjob
    exact ⟨hown, hne, c, hkept _ c hc, hrest⟩

/-- A departed product takes its own cycle along. -/
theorem Occupied.depart (hO : L.Occupied) (nowNs : ℤ) :
    PhysicalLine.Occupied { L with
      ledger := (L.ledger.removeCompletedPrefix nowNs).2
      actuationCycles := (L.ledger.removeCompletedPrefix nowNs).1.foldl
        (fun cycles c => cycles.erase c.actuatorJobId) L.actuationCycles } := by
  refine ⟨live_depart hO.live nowNs, fun q c locked hq hlocked => ?_, fun s cycle hcycle => ?_,
    fun job cycle hjob => ?_⟩
  · change (L.ledger.removeCompletedPrefix nowNs).2.byId.get? q = some c at hq
    rw [get?_removeCompletedPrefix] at hq
    split at hq
    · obtain ⟨c', hc', rfl⟩ := Option.map_eq_some_iff.mp hq
      exact hO.locks q c' locked hc' hlocked
    · exact hO.locks q c locked hq hlocked
  · obtain ⟨c, hc, hlive, hat⟩ := hO.stations s cycle hcycle
    obtain ⟨hproduct, hsequence⟩ := Option.filter_eq_some_iff.mp hc
    refine ⟨c, Option.filter_eq_some_iff.mpr ⟨?_, hsequence⟩, hlive, hat⟩
    rw [get?_removeCompletedPrefix, if_neg]
    · exact hproduct
    · intro hgone
      have hbefore := hat.before_sensor3
      rw [done_of_gone hgone hproduct] at hbefore
      cases hbefore
  · rw [erase_jobs] at hjob
    split at hjob
    · cases hjob
    · rename_i hnot
      obtain ⟨hown, hne, c, hc, hlive, hholds⟩ := hO.jobs job cycle hjob
      refine ⟨hown, hne, c, ?_, hlive, hholds⟩
      change (L.ledger.removeCompletedPrefix nowNs).2.byId.get? cycle.productId = some c
      rw [get?_removeCompletedPrefix, if_neg]
      · exact hc
      · intro hgone
        refine hnot (List.mem_map.mpr ⟨ProductLedger.markRemoved nowNs c, ?_, hholds.holds⟩)
        exact mem_gone_contexts.mpr ⟨cycle.productId, hgone, c, hc, rfl⟩

theorem Occupied.schedule {config : MasterConfig} {u : ℕ} {cycle : ActuationCycle} {reply : Reply}
    (hO : L.Occupied) (live : ∃ c, L.product? p = some c ∧ c.removed = false)
    (product : cycle.productId = p) (fresh : cycle.actuatorJobId = config.newUuid u)
    (begun : (L.ledger.operate p
      (.beginActuation cycle.actuatorJobId cycle.commandId)).1 = .ok reply) :
    PhysicalLine.Occupied { L.operate p (.beginActuation cycle.actuatorJobId cycle.commandId) with
      actuationCycles := L.actuationCycles.insert cycle.actuatorJobId cycle } := by
  obtain ⟨c, hc, hlive⟩ := live
  obtain ⟨hat, hjob, hstill, hbegun, _⟩ :=
    ContextOp.begin_actuation_effect (reply_of_operate hc begun)
  have hO' : (L.operateAll p
      [.beginActuation cycle.actuatorJobId cycle.commandId]).Occupied := by
    refine hO.operateAll _ p (fun s c' _ hc' hs => ?_) (fun job c' hne hc' hholds => ?_)
    · rw [hc] at hc'
      cases hc'
      have hbefore := hs.before_sensor3
      rw [hat] at hbefore
      cases hbefore
    · rw [hc] at hc'
      cases hc'
      refine ⟨hbegun.trans ?_, (congrArg pastSensor3 hstill).trans rfl⟩
      rcases hjob with hempty | hsame
      · exact absurd (hholds.holds.symm.trans hempty) hne
      · exact hsame.symm.trans hholds.holds
  refine ⟨hO'.live, hO'.locks, hO'.stations, fun job other hother => ?_⟩
  rw [OrderedDict.get?_insert] at hother
  split at hother
  · rename_i hkey
    cases hother
    have hsame := ContextOp.apply_same_identity
      (.beginActuation cycle.actuatorJobId cycle.commandId) c
    refine ⟨hkey.symm, ?_, _, ?_, hsame.removed.trans hlive, ?_⟩
    · rw [hkey, fresh]
      exact config.uuid_nonempty u
    · refine (product?_operateAll L p _
        [.beginActuation cycle.actuatorJobId cycle.commandId]).trans ((if_pos product).trans ?_)
      rw [product, hc]
      rfl
    · exact ⟨hbegun.trans hkey.symm, (congrArg pastSensor3 hstill).trans rfl⟩
  · exact hO'.jobs job other hother

/-! ### All steps -/

theorem occupied_step {config : MasterConfig} {stale excused again : Prop} {x y : LineWatch}
    (hO : x.line.Occupied) (h : LineStep config stale excused again x y) : y.line.Occupied := by
  cases h with
  | revise p op quiet | condemn p op quiet =>
    have hu := fun c => ContextOp.quiet_unmoved _ quiet c
    exact hO.operateAll [op] p (fun _ c _ _ hat => hat.unmoved (hu c).physicalState)
      fun _ c _ _ hholds => ⟨(hu c).job.trans hholds.holds,
        (congrArg pastSensor3 (hu c).physicalState).trans hholds.past⟩
  | requestSkip p reason =>
    have heffect := fun c => ContextOp.request_skip_effect c reason
    exact hO.operateAll [.requestStationBSkip reason] p
      (fun _ c _ _ hat => hat.unmoved (heffect c).1)
      fun _ c _ _ hholds => ⟨(heffect c).2.1.trans hholds.holds,
        (congrArg pastSensor3 (heffect c).1).trans hholds.past⟩
  | @endCapture L n d s p cycle ops unskipped cycleAt product ended =>
    obtain ⟨c', hc', _, hat'⟩ := hO.product cycleAt
    rw [product] at hc'
    refine hO.operateAll _ p (fun t c _ hc ht => ?_) fun job c _ hc hholds => ?_
    · have hend := (ended c hc).physicalState
      rw [hc] at hc'
      cases hc'
      rw [ht.unique hat']
      exact .inr hend
    · rw [hc] at hc'
      cases hc'
      have hbefore := hat'.before_sensor3
      rw [hholds.past] at hbefore
      cases hbefore
  | pend resumes cycleAt same =>
    exact hO.recycle rfl (fun t other => set_cycle cycleAt same) same_job
  | rewatch cycleAt same => exact hO.recycle rfl (fun t other => set_cycle cycleAt same) same_job
  | expire cycleAt =>
    exact hO.recycle rfl (fun t other => set_cycle cycleAt ⟨rfl, rfl, rfl⟩) same_job
  | deferResume | deferStart | dropStart => exact hO.recycle rfl same_cycle same_job
  | resume cycleAt product => exact hO.vacate cycleAt product rfl rfl rfl
  | release cycleAt product => exact hO.vacate cycleAt product rfl rfl rfl
  | @start L n d s p c cycle reply ledger issued free known live wanted paid begun registered
      opened =>
    obtain ⟨hproducts, hactive⟩ := register_capture_products registered
    have hc := product?_of_get known
    have hwait := ContextOp.begin_cycle_effect (reply_of_operate hc begun)
    have hquiet := ContextOp.quiet_unmoved
      (.beginStationCycle s cycle.positionCommandId cycle.captureId) rfl
    have hO' : PhysicalLine.Occupied { L with ledger } :=
      hO.operate [.beginStationCycle s cycle.positionCommandId cycle.captureId] p
        hproducts hactive same_cycle same_job
        (fun _ c _ _ hat => hat.unmoved (hquiet c).physicalState)
        fun _ c _ _ hholds => ⟨(hquiet c).job.trans hholds.holds,
          (congrArg pastSensor3 (hquiet c).physicalState).trans hholds.past⟩
    have hsame := ContextOp.apply_same_identity
      (.beginStationCycle s cycle.positionCommandId cycle.captureId) c
    refine hO'.open (c := ((ContextOp.beginStationCycle s cycle.positionCommandId
      cycle.captureId).apply c).2) ?_ (hsame.removed.trans live)
      (.inl ((hquiet c).physicalState.trans hwait)) opened.1 rfl rfl rfl
    refine Option.filter_eq_some_iff.mpr ⟨?_, ?_⟩
    · change ledger.byId.get? cycle.productId = _
      rw [hproducts, opened.2.1]
      have hget := product?_operateAll L p p
        [.beginStationCycle s cycle.positionCommandId cycle.captureId]
      rw [if_pos rfl, hc] at hget
      exact hget
    · rw [hsame.fifoSequence]
      exact (Option.filter_eq_some_iff.mp known).2
  | bypass p reason idle =>
    have heffect := fun c => ContextOp.bypass_effect c reason
    refine hO.operateAll [.bypassStationB reason] p (fun s c hin _ hat => ?_)
      fun job c _ _ hholds => ?_
    · rcases heffect c with heq | ⟨hwait, _⟩
      · exact hat.unmoved (congrArg _ heq)
      · have hs := AtStation.unique hat (.inl hwait : AtStation .b c)
        subst hs
        exact absurd hin idle
    · rcases heffect c with heq | ⟨hwait, _⟩
      · exact ⟨(congrArg _ heq).trans hholds.holds,
          (congrArg (fun c => c.physicalState.pastSensor3) heq).trans hholds.past⟩
      · have hpast := hholds.past
        rw [hwait] at hpast
        cases hpast
  | @arrive L n d p ledger eventId step registered =>
    have hquiet := fun c =>
      ContextOp.quiet_unmoved (.recordSensor 1 eventId step) rfl c
    exact (hO.arrive registered).operateAll [.recordSensor 1 eventId step] p
      (fun _ c _ _ hat => hat.unmoved (hquiet c).physicalState)
      fun _ c _ _ hholds => ⟨(hquiet c).job.trans hholds.holds,
        (congrArg pastSensor3 (hquiet c).physicalState).trans hholds.past⟩
  | enterB p eventId step =>
    have heffect := fun c => ContextOp.enter_effect c eventId step
    refine hO.operateAll [.acceptSensor2 eventId step] p (fun s c _ _ hat => ?_)
      fun job c _ _ hholds => ?_
    · rcases heffect c with heq | ⟨hflip, _⟩
      · exact hat.unmoved (congrArg _ heq)
      · rcases hat with hw | hw <;> rw [hflip] at hw <;> cases s <;> cases hw
    · rcases heffect c with heq | ⟨hflip, _⟩
      · exact ⟨(congrArg _ heq).trans hholds.holds,
          (congrArg (fun c => c.physicalState.pastSensor3) heq).trans hholds.past⟩
      · have hpast := hholds.past
        rw [hflip] at hpast
        cases hpast
  | lock p eventId step =>
    have heffect := fun c => ContextOp.lock_effect c eventId step
    refine hO.operateAll [.lockAtSensor3 eventId step] p (fun s c _ _ hat => ?_)
      fun job c _ _ hholds => ?_
    · rcases heffect c with heq | ⟨hwait, _⟩
      · exact hat.unmoved (congrArg _ heq)
      · rcases hat with hw | hw <;> rw [hwait] at hw <;> cases s <;> cases hw
    · rcases heffect c with heq | ⟨hwait, _⟩
      · exact ⟨(congrArg _ heq).trans hholds.holds,
          (congrArg (fun c => c.physicalState.pastSensor3) heq).trans hholds.past⟩
      · have hpast := hholds.past
        rw [hwait] at hpast
        cases hpast
  | schedule issued rest owed live product fresh begun =>
    exact hO.schedule live product fresh.2.2 begun
  | @reactuate L n d job cycle next cycleAt same =>
    refine hO.recycle rfl same_cycle fun key other h => ?_
    change (L.actuationCycles.insert job next).get? key = some other at h
    rw [OrderedDict.get?_insert] at h
    split at h
    · rename_i hkey
      cases h
      exact ⟨cycle, hkey ▸ cycleAt, same.1.symm, same.2.symm⟩
    · exact same_job key other h
  | @sort L n d job cycle op sorts cycleAt =>
    have heffect := fun c => ContextOp.sorts_effect sorts c
    obtain ⟨_, _, c', hc', _, hholds'⟩ := hO.jobs job cycle cycleAt
    refine hO.operateAll [op] cycle.productId (fun s c _ hc hat => ?_)
      fun other c _ _ hholds => ⟨(heffect c).1.trans hholds.holds, ?_⟩
    · rw [hc] at hc'
      cases hc'
      have hbefore := hat.before_sensor3
      rw [hholds'.past] at hbefore
      cases hbefore
    · change (op.apply c).2.physicalState.pastSensor3 = true
      rcases (heffect c).2.2 with hs | hs | hs <;> rw [hs]
      · exact hholds.past
      · rfl
      · rfl
  | depart nowNs => exact hO.depart nowNs

theorem own_locks_cleared (hL : L.OwnLocks) (nowNs : ℤ) :
    PhysicalLine.OwnLocks { ledger := (L.ledger.clearActive nowNs).2 } := by
  intro q c locked hq hlocked
  have hget : (L.ledger.clearActive nowNs).2.byId.get? q = if q ∈ L.ledger.active then
      (L.ledger.byId.get? q).map (ProductLedger.markRemoved nowNs) else L.ledger.byId.get? q :=
    OrderedDict.get?_foldl_modify _ L.ledger.active_nodup _ _ _
  change (L.ledger.clearActive nowNs).2.byId.get? q = some c at hq
  rw [hget] at hq
  split at hq
  · obtain ⟨c', hc', rfl⟩ := Option.map_eq_some_iff.mp hq
    exact hL q c' locked hc' hlocked
  · exact hL q c locked hq hlocked

theorem occupied_prune (hO : L.Occupied) (cutoffNs : ℤ) :
    PhysicalLine.Occupied { L with ledger := (L.ledger.pruneRemoved cutoffNs).2 } := by
  have hkept : ∀ q c, L.product? q = some c → c.removed = false →
      (L.ledger.pruneRemoved cutoffNs).2.byId.get? q = some c :=
    fun q c => prune_keeps_live hO.live cutoffNs
  refine ⟨live_prune hO.live cutoffNs, fun q c locked hq => ?_, fun s cycle hcycle => ?_,
    fun job cycle hjob => ?_⟩
  · exact hO.locks q c locked ((L.ledger.prune_removed_retains cutoffNs).2 q c hq)
  · obtain ⟨c, hc, hlive, hat⟩ := hO.stations s cycle hcycle
    obtain ⟨hproduct, hsequence⟩ := Option.filter_eq_some_iff.mp hc
    exact ⟨c, Option.filter_eq_some_iff.mpr ⟨hkept _ c hproduct hlive, hsequence⟩, hlive, hat⟩
  · obtain ⟨hown, hne, c, hc, hlive, hholds⟩ := hO.jobs job cycle hjob
    exact ⟨hown, hne, c, hkept _ c hc hlive, hlive, hholds⟩

end PhysicalLine

namespace Supervision

open PhysicalLine

theorem occupied_move {x y : Supervision × Debt} (hO : x.1.line.Occupied) (h : Move x y) :
    y.1.line.Occupied := by
  cases h with
  | @lineClear v d t guards nowNs =>
    obtain ⟨hlive, _⟩ := consistent_cleared v.config hO.live nowNs v.uuidsIssued d
    exact ⟨hlive, own_locks_cleared hO.locks nowNs, fun _ _ h => (by cases h),
      fun _ _ h => (by cases h)⟩
  | work working started step => exact occupied_step hO step
  | prune cutoffNs => exact occupied_prune hO cutoffNs
  | _ => exact hO

theorem occupied_moves {x y : Supervision × Debt} (hO : x.1.line.Occupied) (h : Moves x y) :
    y.1.line.Occupied := by
  induction h with
  | refl => exact hO
  | tail _ hmove ih => exact occupied_move ih hmove

end Supervision

end InspectionLine
