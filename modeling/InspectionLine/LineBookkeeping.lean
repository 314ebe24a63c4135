import InspectionLine.CycleConsistency

/-! # Supervision forgets no product

Until a fault asks for the line to be emptied, every move keeps the line together; emptying the
line starts over. -/
namespace InspectionLine

namespace PhysicalLine

variable {config : MasterConfig} {L : PhysicalLine}

/-! ### All steps -/

theorem live_of_ledger {M : PhysicalLine} (hL : L.Live) (hp : M.ledger.byId = L.ledger.byId)
    (ha : M.ledger.active = L.ledger.active) : M.Live := by
  intro q c hq hr
  change M.ledger.byId.get? q = some c at hq
  rw [ha]
  exact hL q c (by rw [product?, ← hp]; exact hq) hr

theorem live_depart (hL : L.Live) (nowNs : ℤ) :
    PhysicalLine.Live { L with
      ledger := (L.ledger.removeCompletedPrefix nowNs).2
      actuationCycles := (L.ledger.removeCompletedPrefix nowNs).1.foldl
        (fun cycles c => cycles.erase c.actuatorJobId) L.actuationCycles } := by
  intro q c hq hr
  change (L.ledger.removeCompletedPrefix nowNs).2.byId.get? q = some c at hq
  change q ∈ L.ledger.active.dropWhile L.ledger.isDone
  rw [get?_removeCompletedPrefix] at hq
  split at hq
  · obtain ⟨c', _, rfl⟩ := Option.map_eq_some_iff.mp hq
    cases hr
  · rename_i hstays
    have hactive := hL q c hq hr
    rw [← List.takeWhile_append_dropWhile (p := L.ledger.isDone) (l := L.ledger.active)] at hactive
    exact (List.mem_append.mp hactive).resolve_left hstays

theorem Consistent.issue {n m : ℕ} {d e : Debt} (hC : Consistent config ⟨L, n, d⟩) (h : n ≤ m)
    (hwithin : d.LineWithin e) : Consistent config ⟨L, m, e⟩ := by
  refine ⟨fun q c hq hlive => ?_, fun s cycle hcycle => ?_, fun job cycle hcycle => ?_⟩
  · exact (hC.products q c hq hlive).of_same rfl rfl (List.Subset.refl _) hwithin.unplaced
      hwithin.unscheduled
  · obtain ⟨c, hc, hlive, hfits⟩ := hC.stations s cycle hcycle
    exact ⟨c, hc, hlive, hfits.of_same (List.Subset.refl _) hwithin.unresumed hwithin.expiring⟩
  · obtain ⟨⟨k, hk, hkey⟩, hc⟩ := hC.jobs job cycle hcycle
    exact ⟨⟨k, lt_of_lt_of_le hk h, hkey⟩, hc⟩

theorem consistent_cleared (config : MasterConfig) (hL : L.Live) (nowNs : ℤ) (n : ℕ) (d : Debt) :
    PhysicalLine.Live { ledger := (L.ledger.clearActive nowNs).2 } ∧
      Consistent config ⟨{ ledger := (L.ledger.clearActive nowNs).2 }, n, d⟩ := by
  have hgone : ∀ q c, (L.ledger.clearActive nowNs).2.byId.get? q = some c → c.removed = true := by
    intro q c hq
    have hget : (L.ledger.clearActive nowNs).2.byId.get? q = if q ∈ L.ledger.active then
        (L.ledger.byId.get? q).map (ProductLedger.markRemoved nowNs) else L.ledger.byId.get? q :=
      OrderedDict.get?_foldl_modify _ L.ledger.active_nodup _ _ _
    rw [hget] at hq
    split at hq
    · obtain ⟨c', _, rfl⟩ := Option.map_eq_some_iff.mp hq
      rfl
    · rename_i hnot
      by_contra hr
      exact hnot (hL q c hq (by simpa using hr))
  refine ⟨fun q c hq hr => ?_, fun q c hq hr => ?_, fun s cycle hcycle => ?_,
    fun job cycle hcycle => ?_⟩
  · rw [hgone q c hq] at hr
    cases hr
  · rw [hgone q c hq] at hr
    cases hr
  · cases hcycle
  · cases hcycle

theorem prune_keeps_live (hL : L.Live) (cutoffNs : ℤ) {q : String} {c : ProductContext}
    (hq : L.product? q = some c) (hlive : c.removed = false) :
    (L.ledger.pruneRemoved cutoffNs).2.byId.get? q = some c := by
  have hretains := L.ledger.prune_removed_retains cutoffNs
  have hactive := hL q c hq hlive
  rw [← hretains.1] at hactive
  obtain ⟨c', hc', _⟩ := (L.ledger.pruneRemoved cutoffNs).2.active_live q hactive
  have hbefore := hretains.2 q c' hc'
  rw [product?, hbefore] at hq
  cases hq
  exact hc'

theorem live_prune (hL : L.Live) (cutoffNs : ℤ) :
    PhysicalLine.Live { L with ledger := (L.ledger.pruneRemoved cutoffNs).2 } := by
  have hretains := L.ledger.prune_removed_retains cutoffNs
  intro q c hq hr
  change q ∈ (L.ledger.pruneRemoved cutoffNs).2.active
  rw [hretains.1]
  exact hL q c (hretains.2 q c hq) hr

end PhysicalLine

theorem Debt.LineWithin.refl (d : Debt) : d.LineWithin d :=
  ⟨List.Subset.refl _, rfl, List.Subset.refl _, List.Subset.refl _⟩

namespace Supervision

open PhysicalLine

/-- The bookkeeping of the line, which only a latched fault suspends. -/
structure Kept (v : Supervision) (d : Debt) : Prop where
  live : v.line.Live
  consistent : lineClearLatched v.transitions = false →
    Consistent v.config ⟨v.line, v.uuidsIssued, d⟩

theorem Kept.of_same {v w : Supervision} {d e : Debt} (hv : Kept v d) (hl : w.line = v.line)
    (hc : w.config = v.config)
    (ht : lineClearLatched w.transitions = false → lineClearLatched v.transitions = false)
    (hn : v.uuidsIssued ≤ w.uuidsIssued) (he : d.LineWithin e) : Kept w e := by
  refine ⟨hl ▸ hv.live, fun h => ?_⟩
  rw [hl, hc]
  exact (hv.consistent (ht h)).issue hn he

end Supervision

end InspectionLine
