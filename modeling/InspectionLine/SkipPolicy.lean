import InspectionLine.LineBookkeeping

/-! # Station B is skipped for what Station A has found bad -/
namespace InspectionLine

namespace Supervision

open PhysicalLine

/-- With the policy on, whatever is condemned is about to be given a skip. -/
def SkipsOwed (config : MasterConfig) (L : PhysicalLine) (unskipped : List String) : Prop :=
  config.skipStationBAfterStationANg = true → ∀ p c, L.product? p = some c → c.removed = false →
    c.condemned = true → p ∈ unskipped

theorem SkipsOwed.operate (ops : List ContextOp) {config : MasterConfig} {L : PhysicalLine}
    {unskipped more : List String} {p : String} (h : SkipsOwed config L unskipped)
    (hmore : unskipped ⊆ more)
    (hops : config.skipStationBAfterStationANg = true → ∀ c, L.product? p = some c →
      (ContextOp.applyAll ops c).condemned = true → c.condemned = true ∨ p ∈ more) :
    SkipsOwed config (L.operateAll p ops) more := by
  intro hpolicy q c hq hr hcondemned
  rw [product?_operateAll] at hq
  split at hq
  · rename_i hqp
    subst hqp
    obtain ⟨e, he, rfl⟩ := Option.map_eq_some_iff.mp hq
    rcases hops hpolicy e he hcondemned with hbefore | hmem
    · exact hmore (h hpolicy q e he ((removed_applyAll ops e).symm.trans hr) hbefore)
    · exact hmem
  · exact hmore (h hpolicy q c hq hr hcondemned)

theorem SkipsOwed.spared (op : ContextOp) {config : MasterConfig} {L : PhysicalLine}
    {unskipped : List String} (h : SkipsOwed config L unskipped) (p : String)
    (hop : op.judges = false) : SkipsOwed config (L.operate p op) unskipped :=
  h.operate [op] (List.Subset.refl _) fun _ _ _ hc => by
    refine .inl ((ContextOp.condemned_effect hc).resolve_right fun hcondemns => ?_)
    rw [ContextOp.judges_of_condemns hcondemns] at hop
    cases hop

theorem SkipsOwed.of_products {config : MasterConfig} {L M : PhysicalLine}
    {unskipped : List String} (h : SkipsOwed config L unskipped)
    (hp : ∀ q c, M.product? q = some c → c.removed = false → L.product? q = some c) :
    SkipsOwed config M unskipped := fun hpolicy q c hq hr hc =>
  h hpolicy q c (hp q c hq hr) hr hc

theorem skips_step {config : MasterConfig} {stale excused again : Prop} {x y : LineWatch}
    (h : SkipsOwed config x.line x.debt.unskipped) (step : LineStep config stale excused again x y)
    (hexcused : ¬excused) : SkipsOwed config y.line y.debt.unskipped := by
  cases step with
  | revise p op quiet spared =>
    exact h.operate [op] (List.Subset.refl _) fun hpolicy c hc hcondemned =>
      .inl ((spared hpolicy c hc hcondemned).resolve_right hexcused)
  | condemn p op quiet =>
    exact h.operate [op] (List.subset_cons_self _ _) fun _ _ _ _ =>
      .inr List.mem_cons_self
  | requestSkip p reason => exact h.spared _ p rfl
  | endCapture ops unskipped cycleAt product ended owes =>
    rcases owes with ⟨rfl, spared⟩ | rfl
    · exact h.operate _ (List.Subset.refl _) fun hpolicy c hc hcondemned =>
        .inl ((spared hpolicy c hc hcondemned).resolve_right hexcused)
    · exact h.operate _ (List.subset_cons_self _ _) fun _ _ _ _ => .inr List.mem_cons_self
  | resume cycleAt product => exact h.spared _ _ rfl
  | release cycleAt product => exact h.spared _ _ rfl
  | @start L n d s p c cycle reply ledger issued _ _ _ _ _ _ registered =>
    have hbegun :=
      h.spared (.beginStationCycle s cycle.positionCommandId cycle.captureId) p rfl
    refine hbegun.of_products fun q c hq _ => ?_
    rw [← hq]
    exact congrArg (·.get? q) (register_capture_products registered).1.symm
  | bypass p reason => exact h.spared _ p rfl
  | @arrive L n d p ledger eventId step registered =>
    obtain ⟨_, _, hproducts⟩ := register_next registered
    have hregistered : SkipsOwed config { L with ledger } d.unskipped := by
      intro hpolicy q c hq hr hc
      change ledger.byId.get? q = some c at hq
      rw [hproducts] at hq
      split at hq
      · cases hq
        cases hc
      · exact h hpolicy q c hq hr hc
    exact hregistered.spared _ p rfl
  | enterB p eventId step => exact h.spared _ p rfl
  | lock p eventId step => exact h.spared _ p rfl
  | schedule issued rest owed => exact h.spared _ _ rfl
  | sort op sorts =>
    refine h.spared _ _ ?_
    cases op <;> first | rfl | cases sorts
  | depart nowNs =>
    refine h.of_products fun q c hq hr => ?_
    change (ProductLedger.removeCompletedPrefix _ nowNs).2.byId.get? q = some c at hq
    rw [get?_removeCompletedPrefix] at hq
    split at hq
    · obtain ⟨e, _, rfl⟩ := Option.map_eq_some_iff.mp hq
      cases hr
    · exact hq
  | _ => exact h

/-- Nothing is condemned for long, unless a skip that was due has been left out. -/
theorem skips_move {x y : Supervision × Debt}
    (hx : SkipsOwed x.1.config x.1.line x.2.unskipped) (h : Move x y)
    (hnoted : ¬Noted y.1 .unskipped) : SkipsOwed y.1.config y.1.line y.2.unskipped := by
  cases h with
  | work working started step => exact skips_step hx step hnoted
  | discharge paid =>
    cases paid with
    | absolve rest owed spared =>
      intro hpolicy q c hq hr hc
      have hmem := hx hpolicy q c hq hr hc
      change q ∈ Debt.unskipped _ at hmem
      rw [owed] at hmem
      rcases List.mem_cons.mp hmem with rfl | hrest
      · exact absurd (spared hpolicy c hq hr hc) hnoted
      · exact hrest
    | _ => exact hx
  | lineClearFault e accepted event stops unskipped =>
    exact fun hpolicy q c hq hr hc => unskipped (hx hpolicy q c hq hr hc)
  | @lineClear v d t guards nowNs =>
    refine SkipsOwed.of_products hx fun q c hq hr => ?_
    have hget : (v.line.ledger.clearActive nowNs).2.byId.get? q =
        if q ∈ v.line.ledger.active then
          (v.line.ledger.byId.get? q).map (ProductLedger.markRemoved nowNs)
        else v.line.ledger.byId.get? q :=
      OrderedDict.get?_foldl_modify _ v.line.ledger.active_nodup _ _ _
    have hcleared := hget.symm.trans hq
    split at hcleared
    · obtain ⟨e, _, rfl⟩ := Option.map_eq_some_iff.mp hcleared
      cases hr
    · exact hcleared
  | owe more => exact fun hpolicy q c hq hr hc => more.unskipped (hx hpolicy q c hq hr hc)
  | @prune v d cutoffNs =>
    exact hx.of_products fun q c hq _ => (v.line.ledger.prune_removed_retains cutoffNs).2 q c hq
  | _ => exact hx

theorem skips_moves {x y : Supervision × Debt}
    (hx : SkipsOwed x.1.config x.1.line x.2.unskipped) (h : Moves x y)
    (hnoted : ¬Noted y.1 .unskipped) : SkipsOwed y.1.config y.1.line y.2.unskipped := by
  induction h with
  | refl => exact hx
  | tail _ hmove ih =>
    exact skips_move (ih fun hn => hnoted (noted_of_move hmove hn)) hmove hnoted

end Supervision

end InspectionLine
