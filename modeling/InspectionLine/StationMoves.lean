import InspectionLine.ControlMoves

/-! # Captures, Vision results and sorting make moves -/
namespace InspectionLine

open Supervision PhysicalLine

namespace Master

variable {a : Supervision × Debt} {m n : Master} {d : Debt} {stopped : Master → Master}

/-! ### The end of a capture -/

theorem Evolves.pend (next : StationCycle) {s : StationId} {cycle : StationCycle}
    (resumes : List Scope) (h : Evolves a m d) (hw : MayWork m.toSupervision)
    (cycleAt : m.line.stationCycles.get? s = some cycle) (same : next.SameProduct cycle)
    (phase : next.phase = .resumePending)
    (watched : next.deadlineNs ≠ 0 ∨ (next.productId, s) ∈ resumes)
    (kept : m.line.deferredCaptureResumes ⊆ resumes)
    (due : s ∈ d.unresumed ∨ cycle.phase = .resumePending ∨
      s = .b ∧ ∃ c, m.line.product? cycle.productId = some c ∧ c.stationBSkipRequested = true) :
    Evolves a { m with line := { m.line with
      stationCycles := m.line.stationCycles.set next
      deferredCaptureResumes := resumes } } d := by
  have hstation : next.stationId = s := same.1.trans (m.line.stationCycles.keyed s cycle cycleAt)
  exact h.step hw (.inr (nothing_enters_set cycleAt hstation))
    (.pend resumes cycleAt same phase watched kept due)

/-- A cycle that is watched again, or gone, owes no new deadline. -/
theorem Evolves.unexpire {s : StationId} (h : Evolves a m d) (expiring : List StationId)
    (hx : d.expiring = expiring ∨ d.expiring = s :: expiring)
    (renewed : ∀ cycle, m.line.stationCycles.get? s = some cycle → cycle.phase = .resumePending ∧
      (cycle.deadlineNs ≠ 0 ∨ (cycle.productId, s) ∈ m.line.deferredCaptureResumes)) :
    Evolves a m { d with expiring } := by
  rcases hx with rfl | hx
  · exact h
  · exact h.pay (.unexpire expiring hx renewed)

/-- The line goes on after a capture that has just ended, or one that was never to be. -/
theorem Evolves.resumeConveyorAfterCapture (hs : Settles stopped) (h : Evolves a m d)
    (hw : MayWork m.toSupervision) (productId : String) (s : StationId)
    (unresumed expiring : List StationId) (hrest : s ∉ unresumed)
    (due : d.unresumed = s :: unresumed ∨ d.unresumed = unresumed ∧ s = .b ∧
      ∃ c, m.line.product? productId = some c ∧ c.stationBSkipRequested = true)
    (hx : d.expiring = expiring ∨ d.expiring = s :: expiring) :
    Evolves a (m.resumeConveyorAfterCapture stopped productId s)
      { d with unresumed, expiring } := by
  simp only [Master.resumeConveyorAfterCapture]
  cases hcycle : (m.line.stationCycles.get? s).filter fun cycle => cycle.productId = productId with
  | none => exact h.faultStop hs _ (List.Subset.refl _)
  | some cycle =>
    obtain ⟨hget, hproduct⟩ := Option.filter_eq_some_iff.mp hcycle
    have hid : cycle.productId = productId := by simpa using hproduct
    have hstation : cycle.stationId = s := m.line.stationCycles.keyed s cycle hget
    simp only
    generalize hnext : ({ cycle with
      phase := .resumePending
      deadlineNs := m.nowNs + fromMs m.config.conveyorResumeTimeoutMs } : StationCycle) = next
    have hsame : next.SameProduct cycle := hnext ▸ ⟨rfl, rfl, rfl⟩
    have hpending : next.phase = .resumePending := hnext ▸ rfl
    have hwatched : next.deadlineNs ≠ 0 := hnext ▸ deadline_set m (timeout_bound m _ (by simp))
    have hwaiting : (m.setStationCycle next).line.stationCycles.get? s = some next :=
      (StationCycles.get?_set _ _ _).trans (if_pos (hsame.1.trans hstation).symm)
    have hset : Evolves a (m.setStationCycle next) d := by
      refine h.pend _ m.line.deferredCaptureResumes hw hget hsame hpending (.inl hwatched)
        (List.Subset.refl _) ?_
      rcases due with due | ⟨_, hb, hskip⟩
      · exact .inl (due ▸ List.mem_cons_self)
      · exact .inr (.inr ⟨hb, hid ▸ hskip⟩)
    have hsettled : Evolves a (m.setStationCycle next) { d with unresumed } := by
      rcases due with due | ⟨rfl, _⟩
      · exact hset.pay (.settle unresumed due hwaiting hpending (.inl hwatched))
      · exact hset
    have hpaid : Evolves a (m.setStationCycle next) { d with unresumed, expiring } := by
      refine hsettled.unexpire (s := s) expiring hx fun other hother => ?_
      rw [hwaiting] at hother
      cases hother
      exact ⟨hpending, .inl hwatched⟩
    split
    · exact hpaid.deferCaptureResume _
    · have hpublished := hpaid.publish .resume ("resume " ++ cycle.conveyorId.name ++
        " after station " ++ s.name ++ " capture") s.conveyor.raw
        (.inr ⟨s, next, hwaiting, hpending, rfl⟩)
      split
      · exact hpublished.confirmConveyorResumed hs productId s hrest
      · exact hpublished

theorem Evolves.endCapture {s : StationId} {cycle : StationCycle} {op : ContextOp} {reply : Reply}
    (h : Evolves a m d) (hw : MayWork m.toSupervision)
    (cycleAt : m.line.stationCycles.get? s = some cycle) (hop : op.ends s = true)
    (hreply : (m.line.ledger.operate cycle.productId op).1 = .ok reply) (unskipped : List String)
    (owes : unskipped = d.unskipped ∧ m.line.Spares m.config (Noted m.toSupervision .unskipped)
      cycle.productId [op] ∨ unskipped = cycle.productId :: d.unskipped) :
    Evolves a (m.operate cycle.productId op).2
      { d with unresumed := s :: d.unresumed, unskipped } :=
  h.step hw (.inr (nothing_enters_operate _ _ _)) (.endCapture [op] unskipped cycleAt rfl
    (fun _ hc => ContextOp.ended_of_ends hop (reply_of_operate hc hreply)) owes)

/-! ### Stations that start over -/

theorem Evolves.release {s : StationId} {p : String} {cycle : StationCycle} {reply : Reply}
    (h : Evolves a m d) (hw : MayWork m.toSupervision)
    (cycleAt : m.line.stationCycles.get? s = some cycle) (product : cycle.productId = p)
    (unfinished : cycle.phase ≠ .resumePending ∨ Noted m.toSupervision .staleReply)
    (paid : s ∉ d.unresumed)
    (reset : (m.line.ledger.operate p (.resetUnfinishedStationCycle s)).1 = .ok reply) :
    Evolves a { m with line := { m.line.operate p (.resetUnfinishedStationCycle s) with
      stationCycles := m.line.stationCycles.pop s
      deferredStationStarts := m.line.deferredStationStarts.insert (p, s) } } d :=
  h.step hw (.inr (nothing_enters_pop _ _ _ _ _ _)) (.release cycleAt product unfinished paid reset)

/-- What a station recovery leaves: a cycle that is gone or watched, or a raised exception. -/
def Reconciled (a : Supervision × Debt) (d : Debt) (expiring : List StationId)
    (r : Except FlowError Unit × Master) : Prop :=
  (∃ exc, r.1 = .error exc) ∧ Evolves a r.2 d ∨
    r.1 = .ok () ∧ Evolves a r.2 { d with expiring }

theorem Evolves.releaseStation (h : Evolves a m d) (hw : MayWork m.toSupervision)
    (hpaid : d.unresumed = []) {s : StationId} {cycle : StationCycle}
    (hget : m.line.stationCycles.get? s = some cycle) (context : ProductContext)
    (expiring : List StationId) (hx : d.expiring = expiring ∨ d.expiring = s :: expiring) :
    Reconciled a d expiring (m.releaseStation s cycle context) := by
  have hstation : cycle.stationId = s := m.line.stationCycles.keyed s cycle hget
  simp only [Master.releaseStation, Master.operate]
  split
  · split
    · rename_i exc n heq
      obtain ⟨hexc, rfl⟩ := Prod.mk.inj heq
      exact .inl ⟨⟨exc, rfl⟩, h.raised hexc (by simp)⟩
    · rename_i reply n heq
      obtain ⟨hreply, rfl⟩ := Prod.mk.inj heq
      have hended := h.endCapture hw hget (by simp [ContextOp.ends]) hreply d.unskipped
        (.inl ⟨rfl, spares_of_fair rfl _ _ _ _⟩)
      have hpended := hended.pend { cycle with phase := .resumePending, deadlineNs := 0 }
        (m.line.deferredCaptureResumes.insert (cycle.productId, s)) hw hget ⟨rfl, rfl, rfl⟩ rfl
        (.inr List.mem_insert_self) (fun _ hm => List.mem_insert_of_mem hm)
        (.inl List.mem_cons_self)
      have hwaiting : (m.line.stationCycles.set
          { cycle with phase := .resumePending, deadlineNs := 0 }).get? s =
          some { cycle with phase := .resumePending, deadlineNs := 0 } :=
        (StationCycles.get?_set _ _ _).trans (if_pos hstation.symm)
      have hsettled := hpended.pay (.settle d.unresumed rfl hwaiting rfl
        (.inr List.mem_insert_self))
      refine .inr ⟨rfl, hsettled.unexpire (s := s) expiring hx fun other hother => ?_⟩
      cases hwaiting.symm.trans hother
      exact ⟨rfl, .inr List.mem_insert_self⟩
  · have hnoted := h.noteIf (cycle.phase = .resumePending) .staleReply
    have hline := line_noteIf m (cycle.phase = .resumePending) .staleReply
    have hworking := working_noteIf hw (cycle.phase = .resumePending) .staleReply
    have hunfinished : cycle.phase ≠ .resumePending ∨
        Noted (m.noteIf (cycle.phase = .resumePending) .staleReply).toSupervision
          .staleReply := by
      by_cases hphase : cycle.phase = .resumePending
      · rw [decide_eq_true hphase]
        exact .inr (noted_noteIf m _)
      · exact .inl hphase
    generalize m.noteIf (cycle.phase = .resumePending) .staleReply = k at *
    rw [← hline] at hget
    split
    · rename_i exc n heq
      obtain ⟨hexc, rfl⟩ := Prod.mk.inj heq
      exact .inl ⟨⟨exc, rfl⟩, hnoted.raised hexc (by simp)⟩
    · rename_i reply n heq
      obtain ⟨hreply, rfl⟩ := Prod.mk.inj heq
      have hreleased := hnoted.release hworking hget rfl hunfinished (hpaid ▸ List.not_mem_nil)
        hreply
      refine .inr ⟨rfl, hreleased.unexpire (s := s) expiring hx fun other hother => ?_⟩
      have hgone := StationCycles.get?_pop k.line.stationCycles s s
      rw [if_pos rfl] at hgone
      cases hgone.symm.trans hother

theorem Evolves.reconcileStation (h : Evolves a m d) (hw : MayWork m.toSupervision)
    (hpaid : d.unresumed = []) (s : StationId) (expiring : List StationId)
    (hx : d.expiring = expiring ∨ d.expiring = s :: expiring) :
    Reconciled a d expiring (m.reconcileStation s) := by
  unfold Master.reconcileStation
  split
  · rename_i hnone
    refine .inr ⟨rfl, h.unexpire (s := s) expiring hx fun cycle hcycle => ?_⟩
    cases hnone.symm.trans hcycle
  · rename_i cycle hget
    split
    · rename_i hunknown
      obtain ⟨c, hc, _⟩ := h.line_occupied.stations s cycle hget
      cases hunknown.symm.trans hc
    · exact h.releaseStation hw hpaid hget _ expiring hx

/-- In FAULT_STOP a disabled deadline stays disabled. -/
theorem Evolves.unexpireStopped {s : StationId} (h : Evolves a m d) (expiring : List StationId)
    (hx : d.expiring = expiring ∨ d.expiring = s :: expiring ∧ ∀ cycle,
      m.line.stationCycles.get? s = some cycle → cycle.phase ≠ .resumePending)
    (hstate : m.systemState = .faultStop) : Evolves a m { d with expiring } := by
  rcases hx with rfl | ⟨hx, hphase⟩
  · exact h
  · exact h.move (.unexpire expiring hx fun cycle hcycle => ⟨hphase cycle hcycle, .inl hstate⟩)

theorem Evolves.pauseStationForRecovery (hs : Settles stopped) (h : Evolves a m d)
    (hpaid : d.unresumed = []) (s : StationId) (reason : String) (expiring : List StationId)
    (hx : d.expiring = expiring ∨ d.expiring = s :: expiring ∧ ∀ cycle,
      m.line.stationCycles.get? s = some cycle → cycle.phase ≠ .resumePending) :
    Evolves a (m.pauseStationForRecovery stopped s reason) { d with expiring } := by
  unfold Master.pauseStationForRecovery
  split
  · rename_i n hignored
    obtain ⟨hstate, hsame⟩ := ignored_of_some hignored
    exact (h.unexpireStopped expiring hx hstate).quiet hsame
  · rename_i hworking
    have hreconciled := h.reconcileStation (working_of_none hworking) hpaid s expiring
      (hx.imp_right And.left)
    rcases hr : m.reconcileStation s with ⟨_ | _, n⟩ <;> rw [hr] at hreconciled
    · rcases hreconciled with ⟨_, hraised⟩ | ⟨hok, _⟩
      · exact hraised.faultStop hs _ (List.Subset.refl _)
      · cases hok
    · rcases hreconciled with ⟨⟨exc, hexc⟩, _⟩ | ⟨_, hrecovered⟩
      · cases hexc
      · exact hrecovered.manualPause hs _

/-! ### Skipping Station B -/

theorem not_condemned_of_skip {c : ProductContext} (h : c.stationBSkipRequested = true) :
    c.condemned = false := by simp [ProductContext.condemned, h]

theorem skip_applyAll (ops : List ContextOp) {c : ProductContext}
    (h : c.stationBSkipRequested = true) :
    (ContextOp.applyAll ops c).stationBSkipRequested = true := by
  induction ops generalizing c with
  | nil => exact h
  | cons op ops ih => exact ih (op.skip_kept h)

/-- Once a product is marked to skip Station B, the skip is no longer owed. -/
theorem Evolves.absolve (h : Evolves a m d) {p : String} {unskipped : List String}
    (howed : d.unskipped = p :: unskipped) (hskip : m.config.skipStationBAfterStationANg = true →
      ∀ c, m.line.product? p = some c → c.removed = false → c.condemned = true →
        Noted m.toSupervision .unskipped) : Evolves a m { d with unskipped } :=
  h.pay (.absolve unskipped howed hskip)

theorem Evolves.absolveSkipped (h : Evolves a m d) {p : String} {unskipped : List String}
    (howed : d.unskipped = p :: unskipped)
    (hskip : ∀ c, m.line.product? p = some c → c.stationBSkipRequested = true) :
    Evolves a m { d with unskipped } := by
  refine h.absolve howed fun _ c hc _ hcondemned => ?_
  rw [not_condemned_of_skip (hskip c hc)] at hcondemned
  cases hcondemned

theorem condemned_of_fair {ops : List ContextOp} (hops : ∀ op ∈ ops, op.judges = false)
    {c : ProductContext} (h : (ContextOp.applyAll ops c).condemned = true) :
    c.condemned = true := by
  induction ops generalizing c with
  | nil => exact h
  | cons op ops ih =>
    have hfirst : (op.apply c).2.condemned = true :=
      ih (fun o ho => hops o (List.mem_cons_of_mem _ ho)) h
    refine (ContextOp.condemned_effect hfirst).resolve_right fun hcondemns => ?_
    have hfair := hops op List.mem_cons_self
    rw [ContextOp.judges_of_condemns hcondemns] at hfair
    cases hfair

/-- The capture at Station B ends in a skip. -/
theorem Evolves.endAtB (h : Evolves a m d) (hw : MayWork m.toSupervision) {cycle : StationCycle}
    {c : ProductContext} (hget : m.line.stationCycles.get? .b = some cycle)
    (hc : m.line.product? cycle.productId = some c) {ops : List ContextOp}
    (hops : ∀ op ∈ ops, op.judges = false) (hended : c.Ended .b (ContextOp.applyAll ops c))
    (hskip : (ContextOp.applyAll ops c).stationBSkipRequested = true)
    {unskipped : List String} (howed : d.unskipped = cycle.productId :: unskipped) :
    Evolves a { m with line := m.line.operateAll cycle.productId ops }
      { d with unresumed := .b :: d.unresumed, unskipped } := by
  obtain ⟨hs, _, _, _, hactive⟩ := m.line.operateAll_frame cycle.productId ops
  have hstep : Evolves a { m with line := m.line.operateAll cycle.productId ops }
      { d with unresumed := .b :: d.unresumed } := by
    refine h.step hw (.inr ⟨fun t ht => hs ▸ ht, hactive ▸ List.Subset.refl _⟩)
      (.endCapture ops d.unskipped hget rfl (fun e he => ?_)
        (.inl ⟨rfl, fun _ _ _ hcondemned => .inl (condemned_of_fair hops hcondemned)⟩))
    rw [hc] at he
    cases he
    exact hended
  refine hstep.absolveSkipped howed fun e he => ?_
  have hget := product?_operateAll m.line cycle.productId cycle.productId ops
  rw [if_pos rfl, hc, Option.map_some] at hget
  cases hget.symm.trans he
  exact hskip

theorem Evolves.cancelActiveStationB (hs : Settles stopped) (h : Evolves a m d)
    (hw : MayWork m.toSupervision) {cycle : StationCycle} {c : ProductContext} {k : Master}
    (hget : m.line.stationCycles.get? .b = some cycle)
    (hc : m.line.product? cycle.productId = some c) (request reason : String)
    (hk : k.toSupervision = { m.toSupervision with
      line := m.line.operate cycle.productId (.requestStationBSkip request) })
    {unskipped : List String} (howed : d.unskipped = cycle.productId :: unskipped)
    (hb : .b ∉ d.unresumed) :
    Evolves a (k.cancelActiveStationB stopped cycle reason) { d with unskipped } := by
  obtain ⟨_, _, hstations, hskip⟩ := ContextOp.request_skip_effect c request
  have hafter : (m.line.operate cycle.productId (.requestStationBSkip request)).product?
      cycle.productId = some ((ContextOp.requestStationBSkip request).apply c).2 :=
    product?_operate hc _
  have hresume : ∀ j : Master, ∀ ops, j.toSupervision =
      { m.toSupervision with line := m.line.operateAll cycle.productId ops } →
      (∀ op ∈ ops, op.judges = false) → c.Ended .b (ContextOp.applyAll ops c) →
      (ContextOp.applyAll ops c).stationBSkipRequested = true →
      Evolves a (j.emitLogEvent.resumeConveyorAfterCapture stopped cycle.productId .b)
        { d with unskipped } := by
    intro j ops hj hops hended hrequested
    have hline := h.endAtB hw hget hc hops hended hrequested howed
    have hj' : j.emitLogEvent.toSupervision =
        { m.toSupervision with line := m.line.operateAll cycle.productId ops } :=
      (toSupervision_emitLogEvent j).trans hj
    refine Evolves.resumeConveyorAfterCapture hs (hline.quiet hj') ?_ _ _ d.unresumed d.expiring hb
      (.inl rfl) (.inl rfl)
    rw [hj']
    exact hw
  have hrest : ∀ j : Master, j.toSupervision = { m.toSupervision with
      line := m.line.operate cycle.productId (.requestStationBSkip request) } →
      (cycle.phase = .resumePending ∨ (c.station .b).processState = .skipped) →
      Evolves a j { d with unskipped } := by
    intro j hj hfits
    have hstep : Evolves a { m with
        line := m.line.operate cycle.productId (.requestStationBSkip request) } d := by
      refine h.step hw (.inr (nothing_enters_operate _ _ _)) (.requestSkip _ request ?_)
      intro other hother _
      cases hget.symm.trans hother
      exact hfits.imp_right fun hskipped => ⟨c, hc, hskipped⟩
    refine Evolves.quiet (hstep.absolveSkipped howed fun e he => ?_) hj
    cases hafter.symm.trans he
    exact hskip
  have hcanceled : (cycle.captureGoalHandle.elim k k.cancelGoal).toSupervision =
      { m.toSupervision with
        line := m.line.operate cycle.productId (.requestStationBSkip request) } :=
    (toSupervision_elim_cancelGoal k _).trans hk
  simp only [Master.cancelActiveStationB]
  generalize cycle.captureGoalHandle.elim k k.cancelGoal = j at hcanceled
  have hline : j.line = m.line.operate cycle.productId (.requestStationBSkip request) := by
    rw [hcanceled]
  have hreply : ∀ op, (j.line.ledger.operate cycle.productId op).1 =
      (op.apply ((ContextOp.requestStationBSkip request).apply c).2).1 := by
    intro op
    rw [hline]
    exact ProductLedger.operate_outcome hafter op
  simp only [Master.operate]
  split
  · rename_i n heq
    obtain ⟨hflag, rfl⟩ := Prod.mk.inj heq
    rw [hreply] at hflag
    refine hresume _ [.requestStationBSkip request, .markStationBSkipped reason] ?_ (by simp
      [ContextOp.judges]) (ContextOp.ended_of_skip c request reason hflag)
      (skip_applyAll [.markStationBSkipped reason] hskip)
    rw [hcanceled]
    rfl
  · rename_i reply n hunmarked heq
    obtain ⟨hflag, rfl⟩ := Prod.mk.inj heq
    rw [hreply] at hflag
    rcases ContextOp.mark_skipped_effect ((ContextOp.requestStationBSkip request).apply c).2 reason
      with ⟨hmarked, _⟩ | ⟨hleft, hsame, hwhy⟩
    · exact absurd (hflag.symm.trans hmarked) hunmarked
    · have hunchanged : (j.line.ledger.operate cycle.productId (.markStationBSkipped reason)).2 =
          j.line.ledger := by
        rw [hline]
        refine ProductLedger.operate_unchanged fun e he => ?_
        cases hafter.symm.trans he
        exact hsame
      have hsee : (j.line.ledger.operate cycle.productId (.markStationBSkipped reason)).2.getById
          cycle.productId = some ((ContextOp.requestStationBSkip request).apply c).2 := by
        rw [hunchanged, hline]
        exact hafter
      have hstation : (((ContextOp.requestStationBSkip request).apply c).2.station .b) =
          c.station .b := by
        unfold ProductContext.station
        rw [hstations]
      simp only [hsee, Option.any_some, hstation]
      split
      · rename_i hcompleted
        refine hresume _ [.requestStationBSkip request, .markStationBSkipped reason,
          .promoteCaptureCompletionFromVision .b] ?_ (by simp [ContextOp.judges])
          (ContextOp.ended_of_promotion c request reason hleft hcompleted.2)
          (skip_applyAll [.markStationBSkipped reason, .promoteCaptureCompletionFromVision .b]
            hskip)
        rw [hcanceled]
        rfl
      · rename_i hundone
        refine hrest _ ?_ ?_
        · rw [hunchanged, hcanceled]
        · by_cases hphase : cycle.phase = .resumePending
          · exact .inl hphase
          · refine .inr (hwhy.elim (fun hskipped => hstation ▸ hskipped) fun hdone => ?_)
            rw [hstation] at hdone
            exact absurd ⟨hphase, hdone⟩ hundone

/-- Outside the Station B cycle a skip is only a mark on the product. -/
theorem Evolves.requestSkip (h : Evolves a m d) (hw : MayWork m.toSupervision) {p : String}
    (reason : String) (hidle : ¬m.line.InCycle .b p) {unskipped : List String}
    (howed : d.unskipped = p :: unskipped) :
    Evolves a (m.operate p (.requestStationBSkip reason)).2 { d with unskipped } := by
  have hstep : Evolves a (m.operate p (.requestStationBSkip reason)).2 d :=
    h.step hw (.inr (nothing_enters_operate _ _ _)) (.requestSkip p reason
      fun cycle hcycle hproduct => absurd ⟨cycle, hcycle, hproduct⟩ hidle)
  refine hstep.absolveSkipped howed fun e he => ?_
  have hproduct := product?_operateAll m.line p p [.requestStationBSkip reason]
  rw [if_pos rfl] at hproduct
  obtain ⟨c, _, rfl⟩ := Option.map_eq_some_iff.mp (hproduct.symm.trans he)
  exact (ContextOp.request_skip_effect c reason).2.2.2

theorem Evolves.bypass (h : Evolves a m d) (hw : MayWork m.toSupervision) (p reason : String)
    (hidle : ¬m.line.InCycle .b p) : Evolves a (m.operate p (.bypassStationB reason)).2 d :=
  h.step hw (.inr (nothing_enters_operate _ _ _)) (.bypass p reason hidle)

/-- A product that Station A has found bad is marked to skip Station B, if the policy says so. -/
theorem Evolves.cancelStationBAfterATerminal (hs : Settles stopped) (h : Evolves a m d)
    (hw : MayWork m.toSupervision) (productId reason : String) {unskipped : List String}
    (howed : d.unskipped = productId :: unskipped) (hb : .b ∉ d.unresumed) :
    Evolves a (m.cancelStationBAfterATerminal stopped productId reason)
      { d with unskipped } := by
  simp only [Master.cancelStationBAfterATerminal]
  split
  · rename_i hpolicy
    refine Evolves.emitLogEvent (h.absolve howed fun henabled => ?_)
    simp [henabled] at hpolicy
  · have hafter := product?_operateAll m.line productId productId [.requestStationBSkip reason]
    rw [if_pos rfl] at hafter
    split
    · rename_i hunknown
      have hnone : m.line.product? productId = none :=
        Option.map_eq_none_iff.mp (hafter.symm.trans hunknown)
      have hline : m.line.operate productId (.requestStationBSkip reason) = m.line := by
        simp only [PhysicalLine.operate]
        rw [ProductLedger.operate_unchanged fun c hc => ?_]
        cases hnone.symm.trans hc
      refine (h.absolve howed fun _ c hc => ?_).quiet ?_
      · cases hnone.symm.trans hc
      · change { m.toSupervision with
          line := m.line.operate productId (.requestStationBSkip reason) } = m.toSupervision
        rw [hline]
    · rename_i context hcontext
      obtain ⟨c, hc, rfl⟩ := Option.map_eq_some_iff.mp (hafter.symm.trans hcontext)
      split
      · rename_i cycle hcycle
        obtain ⟨hget, hid⟩ := Option.filter_eq_some_iff.mp hcycle
        have hproduct : cycle.productId = productId := by simpa using hid
        subst hproduct
        exact h.cancelActiveStationB hs hw hget hc reason reason rfl howed hb
      · rename_i hnone
        have hidle : ¬m.line.InCycle .b productId := by
          rintro ⟨cycle, hcycle, hproduct⟩
          have hfound : ((m.operate productId
              (.requestStationBSkip reason)).2.line.stationCycles.get? .b).filter
              (fun cycle => cycle.productId = productId) = some cycle :=
            Option.filter_eq_some_iff.mpr ⟨hcycle, by simpa using hproduct⟩
          cases hnone.symm.trans hfound
        have hmarked := h.requestSkip hw reason hidle howed
        split
        · exact hmarked.quiet rfl
        · have hcanceled := hmarked.quiet (n := (m.operate productId
            (.requestStationBSkip reason)).2.publishInferenceCancellation
              (ContextOp.applyAll [.requestStationBSkip reason] c) StationId.b.raw
              .stationATerminalNg reason) rfl
          have hbypassed := hcanceled.bypass hw productId reason hidle
          simp only [Master.operate] at hbypassed ⊢
          split
          · rename_i heq
            rw [← (Prod.mk.inj heq).2]
            exact hbypassed.emitLogEvent
          · rename_i heq
            rw [← (Prod.mk.inj heq).2]
            exact hbypassed

theorem Evolves.cancelAfterStation (unskipped : List String) (hs : Settles stopped)
    (h : Evolves a m d) (hw : MayWork m.toSupervision) (s : StationId) (productId reason : String)
    (hb : s = .a → .b ∉ d.unresumed)
    (howed : s = .a ∧ d.unskipped = productId :: unskipped ∨ s = .b ∧ d.unskipped = unskipped) :
    Evolves a (m.cancelAfterStation stopped s productId reason) { d with unskipped } := by
  simp only [Master.cancelAfterStation]
  rcases howed with ⟨rfl, howed⟩ | ⟨rfl, rfl⟩
  · rw [if_pos rfl]
    exact h.cancelStationBAfterATerminal hs hw productId reason howed (hb rfl)
  · rw [if_neg (by simp)]
    exact h

/-- What a method answers tells whether it has spoken against the product. -/
theorem spares_of_outcome {op : ContextOp} {p : String} {line : PhysicalLine}
    {r : Except FlowError Reply} (hr : (line.ledger.operate p op).1 = r)
    (hop : ¬ContextOp.Condemns op r) (config : MasterConfig) (excused : Prop) :
    line.Spares config excused p [op] := by
  intro _ c hc hcondemned
  refine .inl ((ContextOp.condemned_effect hcondemned).resolve_right fun hcondemns => hop ?_)
  rw [ProductLedger.operate_outcome hc] at hr
  exact hr ▸ hcondemns

theorem Evolves.finishCaptureFailure (hs : Settles stopped) (h : Evolves a m d)
    (hpaid : d.unresumed = []) (s : StationId) (reason : String) (errorCode : ℕ)
    (expiring : List StationId)
    (hx : d.expiring = expiring ∨ d.expiring = s :: expiring ∧ ∀ cycle,
      m.line.stationCycles.get? s = some cycle → cycle.phase ≠ .resumePending) :
    Evolves a (m.finishCaptureFailure stopped s reason errorCode) { d with expiring } := by
  unfold Master.finishCaptureFailure
  split
  · rename_i hnone
    refine h.unexpire (s := s) expiring (hx.imp_right And.left) fun cycle hcycle => ?_
    cases hnone.symm.trans hcycle
  · rename_i cycle hget
    split
    · rename_i n hignored
      obtain ⟨hstate, hsame⟩ := ignored_of_some hignored
      exact (h.unexpireStopped expiring hx hstate).quiet hsame
    · rename_i hworking
      have hw := working_of_none hworking
      split
      · exact h.faultStop hs _ (List.Subset.refl _)
      · simp only [Master.operate]
        split
        · rename_i exc n heq
          obtain ⟨hexc, rfl⟩ := Prod.mk.inj heq
          exact Evolves.faultStop hs (h.raised hexc (by simp)) _ (List.Subset.refl _)
        · rename_i reply n heq
          obtain ⟨hreply, rfl⟩ := Prod.mk.inj heq
          have hcanceled : Evolves a (Master.cancelAfterStation stopped
              (m.operate cycle.productId
                (.markCaptureFailed s cycle.captureId reason)).2.emitLogEvent
              s cycle.productId ("Station A capture failure: " ++ reason))
              { d with unresumed := s :: d.unresumed } := by
            cases s with
            | a =>
              have hended :=
                h.endCapture hw hget rfl hreply (cycle.productId :: d.unskipped) (.inr rfl)
              exact hended.emitLogEvent.cancelAfterStation _ hs (working_emitLogEvent hw) .a _ _
                (by simp [hpaid]) (.inl ⟨rfl, rfl⟩)
            | b =>
              have hfair : ¬ContextOp.Condemns (.markCaptureFailed .b cycle.captureId reason)
                  (.ok reply) := by
                rintro (⟨_, hop⟩ | ⟨_, hkind⟩)
                · cases hop
                · cases hkind
              have hended := h.endCapture hw hget rfl hreply d.unskipped
                (.inl ⟨rfl, spares_of_outcome hreply hfair _ _⟩)
              exact hended.emitLogEvent.cancelAfterStation _ hs (working_emitLogEvent hw) .b _ _
                (by simp) (.inr ⟨rfl, rfl⟩)
          simp only [Master.operate] at hcanceled
          generalize Master.cancelAfterStation stopped _ s _ _ = j at hcanceled
          have hresume : ∀ k : Master, Evolves a k { d with unresumed := s :: d.unresumed } →
              Evolves a ((k.noteIf (k.systemState = .faultStop) .captureResume
                ).resumeConveyorAfterCapture stopped cycle.productId s) { d with expiring } := by
            intro k hk
            exact Evolves.resumeConveyorAfterCapture hs (hk.noteIf _ _) (working_late k rfl) _ s
              d.unresumed expiring (by simp [hpaid]) (.inl rfl) (hx.imp_right And.left)
          split
          · exact hresume _ (hcanceled.manualPause hs _)
          · exact hresume _ hcanceled

/-! ### Captures -/

theorem Evolves.sendCaptureGoal (hs : Settles stopped) (h : Evolves a m d)
    (hw : MayWork m.toSupervision) (hpaid : d.unresumed = []) {s : StationId}
    {cycle : StationCycle} (hget : m.line.stationCycles.get? s = some cycle)
    (hphase : cycle.phase ≠ .resumePending) : Evolves a (m.sendCaptureGoal stopped cycle) d := by
  have hrequested := h.newUuid.revise
    (.markCaptureRequested cycle.stationId cycle.captureId m.newUuid.1) hw cycle.productId rfl rfl
  have hdeadline := deadline_set m (timeout_bound m m.config.captureTimeoutMs (by simp))
  simp only [Master.sendCaptureGoal, Master.operate] at hrequested ⊢
  split
  · rename_i exc n heq
    obtain ⟨_, rfl⟩ := Prod.mk.inj heq
    exact Evolves.faultStop hs hrequested _ (List.Subset.refl _)
  · rename_i reply n heq
    obtain ⟨_, rfl⟩ := Prod.mk.inj heq
    have hset := hrequested.rewatch { cycle with
        phase := .captureGoal
        deadlineNs := m.nowNs + fromMs m.config.captureTimeoutMs } hw hget ⟨rfl, rfl, rfl⟩
      (.inr ⟨by simp, .inl hphase, .inr hdeadline⟩)
    split
    · exact hset.pauseStationForRecovery hs hpaid _ _ d.expiring (.inl rfl)
    · exact hset.sendGoal hw _

theorem Evolves.maybeRequestStationCapture (hs : Settles stopped) (h : Evolves a m d)
    (hw : MayWork m.toSupervision) (hpaid : d.unresumed = []) {s : StationId}
    {cycle : StationCycle} (hget : m.line.stationCycles.get? s = some cycle)
    (hphase : cycle.phase ≠ .resumePending) :
    Evolves a (m.maybeRequestStationCapture stopped s) d := by
  simp only [Master.maybeRequestStationCapture, hget]
  split
  · exact h
  · rename_i context hcontext
    split
    · exact h
    · unfold Master.requestStationCapture
      split
      · rename_i hskip
        exact h.resumeConveyorAfterCapture hs hw _ s d.unresumed d.expiring (by simp [hpaid])
          (.inr ⟨rfl, hskip.1, context, product?_of_get hcontext, hskip.2⟩) (.inl rfl)
      · split
        · exact h.pauseStationForRecovery hs hpaid s _ d.expiring (.inl rfl)
        · exact h.sendCaptureGoal hs hw hpaid hget hphase

theorem Evolves.handlePositionSettled (hs : Settles stopped) (h : Evolves a m d)
    (hpaid : d.unresumed = []) (sessionId : String) (conveyorId : ℕ) :
    Evolves a (m.handlePositionSettled stopped sessionId conveyorId) d := by
  simp only [Master.handlePositionSettled]
  split
  · exact h
  · split
    · exact h.faultStop hs _ (List.Subset.refl _)
    · rename_i conveyor _
      split
      · rename_i n hignored
        exact h.quiet (ignored_of_some hignored).2
      · rename_i hnone
        have hw := working_of_none hnone
        split
        · exact h.emitLogEvent
        · rename_i cycle hcycle
          obtain ⟨hget, hwaiting⟩ := Option.filter_eq_some_iff.mp hcycle
          have hphase : cycle.phase ≠ .resumePending := by
            intro hpending
            simp [hpending] at hwaiting
          split
          · exact h.faultStop hs _ (List.Subset.refl _)
          · split
            · exact h.emitLogEvent
            · have hsettled := h.revise
                (.markPositionSettled conveyor.station cycle.positionCommandId) hw cycle.productId
                rfl rfl
              simp only [Master.operate] at hsettled ⊢
              split
              · rename_i exc n heq
                obtain ⟨_, rfl⟩ := Prod.mk.inj heq
                exact Evolves.faultStop hs hsettled _ (List.Subset.refl _)
              · rename_i reply n heq
                obtain ⟨_, rfl⟩ := Prod.mk.inj heq
                exact Evolves.maybeRequestStationCapture hs hsettled hw hpaid hget hphase

/-- A line that does not run, or is made to pause, keeps nothing waiting for the queue. -/
theorem Evolves.pause (hs : Settles stopped) (h : Evolves a m d) (hpaid : d.unresumed = [])
    (reason : String) (hidle : m.systemState = .paused → m.pendingRunConfirmation = false ∨
      Noted m.toSupervision .blockedResume) :
    Evolves a (m.pause stopped reason) { d with blocked := false } := by
  unfold Master.pause
  split
  · rename_i hstate
    refine h.move (.unblock ?_ hidle)
    rcases hstate with hstate | hstate | hstate <;> simp [hstate]
  · split
    · rename_i hrun
      exact h.pauseRunning hs reason _ hrun (.inl hpaid)
    · rename_i hrun
      exact h.move (.unblock hrun hidle)

/-- A full queue pauses the line. A resume that is under way is caught up with on record. -/
theorem Evolves.blockQueue (hs : Settles stopped) (h : Evolves a m d) (hpaid : d.unresumed = [])
    (reason : String) : Evolves a (Master.pause stopped
      { m.noteIf (m.systemState = .paused && m.pendingRunConfirmation) .blockedResume with
        pausedByQueue := true, queueRecoveredPending := false } reason) d := by
  generalize hlapsed : (decide (m.systemState = .paused) && m.pendingRunConfirmation) = lapsed
  have hblocked : Evolves a { m.noteIf lapsed .blockedResume with
      pausedByQueue := true, queueRecoveredPending := false } { d with blocked := true } :=
    (h.noteIf lapsed .blockedResume).move .blockQueue
  have hpaused := Evolves.pause hs hblocked hpaid reason fun hstate => ?_
  · exact hpaused.owe (unblocked_within d)
  · cases lapsed with
    | false =>
      have hidle : m.systemState = .paused := hstate
      simp only [hidle, decide_true, Bool.true_and] at hlapsed
      exact .inl hlapsed
    | true => exact .inr (noted_noteIf m _)

theorem Evolves.handleCaptureFeedback (hs : Settles stopped) (h : Evolves a m d)
    (hpaid : d.unresumed = []) (s : StationId) (captureId : String) (stage : ℕ)
    (frameBatchId : String) :
    Evolves a (m.handleCaptureFeedback stopped s captureId stage frameBatchId) d := by
  simp only [Master.handleCaptureFeedback]
  split
  · exact h
  · split
    · exact h
    · split
      · exact h.blockQueue hs hpaid _
      · exact h

theorem Evolves.handleCaptureGoalResponse (hs : Settles stopped) (h : Evolves a m d)
    (hpaid : d.unresumed = []) (s : StationId) (captureId : String)
    (response : Except String GoalReply) :
    Evolves a (m.handleCaptureGoalResponse stopped s captureId response) d := by
  unfold Master.handleCaptureGoalResponse
  split
  · exact h
  · rename_i cycle hcycle
    obtain ⟨hget, _⟩ := Option.filter_eq_some_iff.mp hcycle
    split
    · rename_i n hignored
      exact h.quiet (ignored_of_some hignored).2
    · rename_i hnone
      have hw := working_of_none hnone
      split
      · exact h.pauseStationForRecovery hs hpaid s _ d.expiring (.inl rfl)
      · split
        · exact h.pauseStationForRecovery hs hpaid s _ d.expiring (.inl rfl)
        · split
          · refine Evolves.quiet ?_ (toSupervision_cancelGoal _ _)
            exact h.rewatch _ hw hget ⟨rfl, rfl, rfl⟩ (.inl ⟨rfl, rfl⟩)
          · have hnoted := h.noteIf (cycle.phase = .resumePending) .staleReply
            have hkept : (m.noteIf (cycle.phase = .resumePending) .staleReply
                ).line.stationCycles.get? s = some cycle := by
              rw [line_noteIf]
              exact hget
            refine hnoted.rewatch _ (working_noteIf hw _ _) hkept ⟨rfl, rfl, rfl⟩
              (.inr ⟨by simp, ?_, .inl rfl⟩)
            by_cases hphase : cycle.phase = .resumePending
            · rw [decide_eq_true hphase]
              exact .inr (noted_noteIf m _)
            · exact .inl hphase

theorem Evolves.applyCaptureSuccess (hs : Settles stopped) (h : Evolves a m d)
    (hw : MayWork m.toSupervision) (hpaid : d.unresumed = []) {s : StationId}
    {cycle : StationCycle} (hget : m.line.stationCycles.get? s = some cycle)
    (result : CaptureResult) : Evolves a (m.applyCaptureSuccess stopped s cycle result) d := by
  unfold Master.applyCaptureSuccess
  split
  · exact h.faultStop hs _ (List.Subset.refl _)
  · simp only [Master.operate]
    split
    · rename_i exc n heq
      obtain ⟨hexc, rfl⟩ := Prod.mk.inj heq
      exact Evolves.faultStop hs (h.raised hexc (by simp)) _ (List.Subset.refl _)
    · rename_i reply n heq
      obtain ⟨hreply, rfl⟩ := Prod.mk.inj heq
      have hended := h.endCapture hw hget (by simp [ContextOp.ends]) hreply d.unskipped
        (.inl ⟨rfl, spares_of_fair rfl _ _ _ _⟩)
      exact Evolves.resumeConveyorAfterCapture hs hended.emitLogEvent (working_emitLogEvent hw) _ s
        d.unresumed d.expiring (by simp [hpaid]) (.inl rfl) (.inl rfl)

theorem Evolves.handleCaptureResult (hs : Settles stopped) (h : Evolves a m d)
    (hpaid : d.unresumed = []) (s : StationId) (captureId : String)
    (result : Except String CaptureResult) :
    Evolves a (m.handleCaptureResult stopped s captureId result) d := by
  simp only [Master.handleCaptureResult]
  split
  · exact h
  · rename_i cycle hcycle
    obtain ⟨hget, _⟩ := Option.filter_eq_some_iff.mp hcycle
    split
    · rename_i n hignored
      exact h.quiet (ignored_of_some hignored).2
    · rename_i hnone
      have hw := working_of_none hnone
      split
      · exact h.pauseStationForRecovery hs hpaid s _ d.expiring (.inl rfl)
      · split
        · exact h.faultStop hs _ (List.Subset.refl _)
        · split
          · rename_i hskipped
            simp only [skippedAtB, Bool.and_eq_true, decide_eq_true_eq, Option.any_eq_true]
              at hskipped
            obtain ⟨rfl, context, hcontext, hskip⟩ := hskipped
            split
            · exact h.emitLogEvent
            · refine h.emitLogEvent.resumeConveyorAfterCapture hs (working_emitLogEvent hw) _ .b
                d.unresumed d.expiring (by simp [hpaid]) (.inr ⟨rfl, rfl, context, ?_, hskip⟩)
                (.inl rfl)
              rw [toSupervision_emitLogEvent]
              exact product?_of_get hcontext
          · split
            · split
              · exact h.faultStop hs _ (List.Subset.refl _)
              · exact h.finishCaptureFailure hs hpaid s _ _ d.expiring (.inl rfl)
            · split
              · exact h.finishCaptureFailure hs hpaid s _ _ d.expiring (.inl rfl)
              · exact h.applyCaptureSuccess hs hw hpaid hget _

/-! ### Vision terminals -/

/-- A product found bad whose skip is left out is on record. -/
theorem Evolves.overlook {k : Master} {p : String}
    (h : Evolves a k { d with unskipped := p :: d.unskipped }) :
    Evolves a (k.noteIf (k.lacksSkip p) .unskipped) d := by
  refine (h.noteIf (k.lacksSkip p) .unskipped).absolve rfl fun hpolicy c hc hlive hcondemned => ?_
  rw [line_noteIf] at hc
  have hlacks : k.lacksSkip p = true := by
    have hconfig : k.config.skipStationBAfterStationANg = true := by
      cases hl : k.lacksSkip p <;> rw [hl] at hpolicy <;> exact hpolicy
    have hgetById : k.line.ledger.getById p = some c := hc
    simp only [ProductContext.condemned, Bool.and_eq_true, Bool.not_eq_true'] at hcondemned
    simp [lacksSkip, hconfig, hgetById, hlive, hcondemned.2]
  rw [hlacks]
  exact noted_noteIf k _

theorem Evolves.reviseFair (h : Evolves a m d) (hw : MayWork m.toSupervision) {p : String}
    {op : ContextOp} {r : Except FlowError Reply} (quiet : op.quiet = true)
    (hr : (m.line.ledger.operate p op).1 = r) (hop : ¬ContextOp.Condemns op r) :
    Evolves a (m.operate p op).2 d :=
  h.step hw (.inr (nothing_enters_operate _ _ _))
    (.revise p op quiet (spares_of_outcome hr hop _ _))

theorem Evolves.applyAcceptedStationResult (hs : Settles stopped) (h : Evolves a m d)
    (hw : MayWork m.toSupervision) (hpaid : d.unresumed = []) (facts : StationMessageFacts)
    (s : StationId) (verdict : Verdict) :
    Evolves a (m.applyAcceptedStationResult stopped facts s verdict) d := by
  have hcondemned := h.condemn (.applyStationResult (facts.decision s verdict)) hw
    facts.productId rfl
  simp only [Master.applyAcceptedStationResult]
  have hfair : ∀ r, (m.line.ledger.operate facts.productId
      (.applyStationResult (facts.decision s verdict))).1 = r →
      ¬ContextOp.Condemns (.applyStationResult (facts.decision s verdict)) r →
      Evolves a (m.operate facts.productId
        (.applyStationResult (facts.decision s verdict))).2 d :=
    fun r hr hop => h.reviseFair hw rfl hr hop
  have hstation : (facts.decision s verdict).stationId = s := rfl
  have hverdict : (facts.decision s verdict).verdict = verdict := rfl
  generalize facts.decision s verdict = decision at *
  simp only [Master.operate] at hcondemned hfair ⊢
  split
  · rename_i n heq
    obtain ⟨hreply, rfl⟩ := Prod.mk.inj heq
    split
    · refine Evolves.cancelStationBAfterATerminal hs hcondemned.emitLogEvent
        (working_emitLogEvent hw) _ _ rfl ?_
      simp [hpaid]
    · by_cases hagainst : s = .a ∧ verdict ≠ .pass
      · simp only [hagainst.1, ne_eq, hagainst.2, not_false_eq_true, decide_true, Bool.true_and]
        exact hcondemned.emitLogEvent.overlook
      · have hspared := hfair _ hreply fun hcondemns => by
          cases hcondemns with
          | decided other hop hat _ hbad =>
            cases hop
            exact hagainst ⟨hstation ▸ hat, hverdict ▸ hbad⟩
          | failed kind hkind => cases hkind
        exact Evolves.noteIf hspared.emitLogEvent _ _
  · rename_i reply n hunstored heq
    obtain ⟨hreply, rfl⟩ := Prod.mk.inj heq
    refine hfair _ hreply fun hcondemns => ?_
    cases hcondemns with
    | decided other hop hat hstored => exact hunstored (Except.ok.inj hstored)
    | failed kind hkind => cases hkind
  · rename_i message n heq
    obtain ⟨hreply, rfl⟩ := Prod.mk.inj heq
    refine Evolves.emitLogEvent ?_
    by_cases hat : s = .a
    · simp only [hat, decide_true, Bool.true_and]
      exact hcondemned.overlook
    · refine Evolves.noteIf (hfair _ hreply fun hcondemns => ?_) _ _
      cases hcondemns with
      | decided other hop _ hstored => cases hstored
      | failed kind hkind =>
        simp only [ContextOp.recordedFailure, Option.some.injEq, Prod.mk.injEq] at hkind
        exact hat (hstation ▸ hkind.1)
  · rename_i exc n hother heq
    obtain ⟨hreply, rfl⟩ := Prod.mk.inj heq
    refine Evolves.faultStop hs (hfair _ hreply fun hcondemns => ?_) _ (List.Subset.refl _)
    cases hcondemns with
    | decided _ _ _ hstored => cases hstored
    | failed kind hkind =>
      unfold ContextOp.recordedFailure at hkind
      split at hkind
      all_goals simp_all

/-- A failure of a station that is recorded; at Station A the product is to skip Station B. -/
theorem Evolves.failStation (op : ContextOp) (hs : Settles stopped) (h : Evolves a m d)
    (hw : MayWork m.toSupervision) (hpaid : d.unresumed = []) (s : StationId)
    (productId reason : String) (quiet : op.quiet = true)
    (hop : s = .b → ∀ r, ¬ContextOp.Condemns op r) :
    Evolves a ((m.operate productId op).2.emitLogEvent.cancelAfterStation stopped s productId
      reason) d := by
  cases s with
  | a =>
    have hcondemned := h.condemn op hw productId quiet
    exact hcondemned.emitLogEvent.cancelAfterStation _ hs (working_emitLogEvent hw) .a productId
      reason (by simp [hpaid]) (.inl ⟨rfl, rfl⟩)
  | b =>
    have hspared := h.reviseFair (p := productId) hw quiet rfl (hop rfl _)
    exact hspared.emitLogEvent.cancelAfterStation _ hs (working_emitLogEvent hw) .b productId
      reason (by simp) (.inr ⟨rfl, rfl⟩)

theorem fair_contract_failure (reason : String) (r : Except FlowError Reply) :
    ¬ContextOp.Condemns (.recordStationContractFailure .b reason) r := by
  rintro (⟨_, hop⟩ | ⟨kind, hkind⟩)
  · cases hop
  · unfold ContextOp.recordedFailure at hkind
    split at hkind
    all_goals simp_all

theorem fair_failure (captureId frameBatchId inferenceJobId : String) (revision : ℕ)
    (reason : String) (r : Except FlowError Reply) : ¬ContextOp.Condemns
      (.recordStationFailure .b captureId frameBatchId inferenceJobId revision reason) r := by
  rintro (⟨_, hop⟩ | ⟨kind, hkind⟩)
  · cases hop
  · unfold ContextOp.recordedFailure at hkind
    split at hkind
    all_goals simp_all

theorem Evolves.recordContractFailure (hs : Settles stopped) (h : Evolves a m d)
    (hw : MayWork m.toSupervision) (hpaid : d.unresumed = []) (productId : String)
    (s : StationId) (reason : String) :
    Evolves a (m.recordContractFailure stopped productId s reason) d :=
  h.failStation _ hs hw hpaid s productId reason rfl fun hb r => hb ▸ fair_contract_failure reason r

theorem Evolves.handleStationResult (hs : Settles stopped) (h : Evolves a m d)
    (hpaid : d.unresumed = []) (sessionId : String) (facts : StationMessageFacts) :
    Evolves a (m.handleStationResult stopped sessionId facts) d := by
  simp only [Master.handleStationResult]
  split
  · exact h
  · split
    · rename_i n hignored
      exact h.quiet (ignored_of_some hignored).2
    · rename_i hnone
      have hw := working_of_none hnone
      split
      · exact h.faultStop hs _ (List.Subset.refl _)
      · exact h.faultStop hs _ (List.Subset.refl _)
      · exact h.faultStop hs _ (List.Subset.refl _)
      · exact h.recordContractFailure hs hw hpaid _ _ _
      · exact h.applyAcceptedStationResult hs hw hpaid _ _ _
      · exact h.emitLogEvent

theorem Evolves.applyAcceptedStationFailure (hs : Settles stopped) (h : Evolves a m d)
    (hw : MayWork m.toSupervision) (hpaid : d.unresumed = []) (facts : StationMessageFacts)
    (s : StationId) (errorCode : ℕ) (reason : String) :
    Evolves a (m.applyAcceptedStationFailure stopped facts s errorCode reason) d := by
  have hfailed := h.failStation (.recordStationFailure s facts.captureId facts.frameBatchId
    facts.inferenceJobId facts.resultRevision reason) hs hw hpaid s facts.productId
    ("Station A inference failure: " ++ reason) rfl
    fun hb r => hb ▸ fair_failure _ _ _ _ _ r
  simp only [Master.applyAcceptedStationFailure, Master.operate] at hfailed ⊢
  split
  · rename_i exc n heq
    obtain ⟨hexc, rfl⟩ := Prod.mk.inj heq
    exact Evolves.faultStop hs (h.raised hexc (by simp)) _ (List.Subset.refl _)
  · rename_i n heq
    obtain ⟨_, rfl⟩ := Prod.mk.inj heq
    split
    · exact hfailed.manualPause hs _
    · exact hfailed
  · rename_i reply n hunrecorded heq
    obtain ⟨hreply, rfl⟩ := Prod.mk.inj heq
    refine h.reviseFair hw rfl hreply fun hcondemns => ?_
    cases hcondemns with
    | decided _ hop => cases hop
    | failed kind hkind =>
      unfold ContextOp.recordedFailure at hkind
      split at hkind
      all_goals simp_all

theorem Evolves.handleStationFailure (hs : Settles stopped) (h : Evolves a m d)
    (hpaid : d.unresumed = []) (sessionId : String) (facts : StationMessageFacts)
    (errorCode : ℕ) (reason : String) :
    Evolves a (m.handleStationFailure stopped sessionId facts errorCode reason) d := by
  simp only [Master.handleStationFailure]
  split
  · exact h
  · split
    · rename_i n hignored
      exact h.quiet (ignored_of_some hignored).2
    · rename_i hnone
      have hw := working_of_none hnone
      split
      · exact h.faultStop hs _ (List.Subset.refl _)
      · exact h.faultStop hs _ (List.Subset.refl _)
      · exact h.faultStop hs _ (List.Subset.refl _)
      · exact h.recordContractFailure hs hw hpaid _ _ _
      · exact h.applyAcceptedStationFailure hs hw hpaid _ _ _ _
      · exact h.emitLogEvent

/-! ### Sorting -/

theorem Evolves.schedule (cycle : ActuationCycle) {p : String} {reply : Reply} (h : Evolves a m d)
    (hw : MayWork m.toSupervision) {unscheduled : List String}
    (howed : d.unscheduled = p :: unscheduled)
    (live : ∃ c, m.line.product? p = some c ∧ c.removed = false) (product : cycle.productId = p)
    (fresh : cycle.actuatorJobId = m.config.newUuid m.uuidsIssued)
    (begun : (m.line.ledger.operate p
      (.beginActuation cycle.actuatorJobId cycle.commandId)).1 = .ok reply) :
    Evolves a { m with
      line := { m.line.operate p (.beginActuation cycle.actuatorJobId cycle.commandId) with
        actuationCycles := m.line.actuationCycles.insert cycle.actuatorJobId cycle }
      uuidsIssued := m.uuidsIssued + 2 } { d with unscheduled } :=
  h.move (.work (.inl hw) (.inr ⟨fun _ hs => hs, (nothing_enters_operate _ _ _).active⟩)
    (.schedule (m.uuidsIssued + 2) unscheduled howed live product
      ⟨le_rfl, by omega, fresh⟩ begun))

theorem Evolves.scheduleActuation (hs : Settles stopped) (h : Evolves a m d)
    (hw : MayWork m.toSupervision) (locked : LockedProduct) {unscheduled : List String}
    (howed : d.unscheduled = locked.productId :: unscheduled)
    (live : ∃ c, m.line.product? locked.productId = some c ∧ c.removed = false) :
    Evolves a (m.scheduleActuation stopped locked) { d with unscheduled } := by
  unfold Master.scheduleActuation
  split
  · exact h.faultStop hs _ (List.Subset.refl _)
  · simp only [Master.operate]
    split
    · rename_i exc n heq
      obtain ⟨hexc, rfl⟩ := Prod.mk.inj heq
      exact Evolves.faultStop hs (h.newUuid.newUuid.raised hexc (by simp)) _ (List.Subset.refl _)
    · rename_i reply n heq
      obtain ⟨hreply, rfl⟩ := Prod.mk.inj heq
      have hscheduled := h.schedule {
        productId := locked.productId, fifoSequence := locked.fifoSequence
        actuatorJobId := m.newUuid.1, commandId := m.newUuid.2.newUuid.1 } hw howed live rfl rfl
        hreply
      exact hscheduled.sendActuationGoal hs hw locked

theorem Evolves.sort (op : ContextOp) {job : String} {cycle : ActuationCycle} (h : Evolves a m d)
    (hw : MayWork m.toSupervision) (sorts : op.sorts = true)
    (cycleAt : m.line.actuationCycles.get? job = some cycle)
    (onward : ∀ commandId, op = .markActuationAccepted commandId → ∀ c,
      m.line.product? cycle.productId = some c → c.physicalState = .done →
        Noted m.toSupervision .reactuated) :
    Evolves a (m.operate cycle.productId op).2 d :=
  h.step hw (.inr (nothing_enters_operate _ _ _)) (.sort op sorts cycleAt onward)

theorem Evolves.handleActuationGoalResponse (hs : Settles stopped) (h : Evolves a m d)
    (actuatorJobId commandId : String) (response : Except String GoalReply) :
    Evolves a (m.handleActuationGoalResponse stopped actuatorJobId commandId response) d := by
  unfold Master.handleActuationGoalResponse
  split
  · exact h
  · rename_i cycle hcycle
    obtain ⟨hget, _⟩ := Option.filter_eq_some_iff.mp hcycle
    split
    · rename_i n hignored
      exact h.quiet (ignored_of_some hignored).2
    · rename_i hnone
      have hw := working_of_none hnone
      split
      · exact h.manualPause hs _
      · split
        · exact h.manualPause hs _
        · split
          · exact h.faultStop hs _ (List.Subset.refl _)
          · rename_i context hcontext
            have hnoted := h.noteIf (context.physicalState = .done) .reactuated
            have hline := line_noteIf m (context.physicalState = .done) .reactuated
            have hkept : (m.noteIf (context.physicalState = .done)
                .reactuated).line.actuationCycles.get? actuatorJobId = some cycle := hline ▸ hget
            have haccepted := hnoted.sort (.markActuationAccepted commandId)
              (working_noteIf hw _ _) rfl hkept fun _ _ c hc hdone => by
                rw [hline] at hc
                cases hc.symm.trans (get_eq_some.mp hcontext).1
                rw [hdone]
                exact noted_noteIf m .reactuated
            simp only [Master.operate] at haccepted ⊢
            split
            · rename_i exc n heq
              obtain ⟨_, rfl⟩ := Prod.mk.inj heq
              exact Evolves.faultStop hs haccepted _ (List.Subset.refl _)
            · rename_i reply n heq
              obtain ⟨_, rfl⟩ := Prod.mk.inj heq
              exact haccepted.reactuate _ (working_noteIf hw _ _) hkept ⟨rfl, rfl⟩

theorem toSupervision_forget (removed : List ProductContext) (m : Master) :
    (removed.foldl (fun m context =>
      { m with line.actuationCycles :=
          m.line.actuationCycles.erase context.actuatorJobId }.emitLogEvent) m).toSupervision =
      { m.toSupervision with
        line.actuationCycles := removed.foldl (fun cycles c => cycles.erase c.actuatorJobId)
          m.line.actuationCycles } := by
  induction removed generalizing m with
  | nil => rfl
  | cons c removed ih =>
    rw [List.foldl_cons, List.foldl_cons, ih, toSupervision_emitLogEvent]

theorem Evolves.removeCompletedFifoPrefix (h : Evolves a m d) (hpaid : d.unscheduled = []) :
    Evolves a m.removeCompletedFifoPrefix d := by
  unfold Master.removeCompletedFifoPrefix
  split
  · rename_i n hignored
    exact h.quiet (ignored_of_some hignored).2
  · rename_i hnone
    have hactive : (m.line.ledger.removeCompletedPrefix m.nowNs).2.active ⊆
        m.line.ledger.active := (List.dropWhile_sublist _).subset
    have hdeparted : Evolves a { m with line := { m.line with
        ledger := (m.line.ledger.removeCompletedPrefix m.nowNs).2
        actuationCycles := (m.line.ledger.removeCompletedPrefix m.nowNs).1.foldl
          (fun cycles c => cycles.erase c.actuatorJobId) m.line.actuationCycles } } d :=
      h.step (working_of_none hnone) (.inr ⟨fun _ hs => hs, hactive⟩) (.depart m.nowNs hpaid)
    exact hdeparted.quiet (toSupervision_forget _ _)

theorem Evolves.completeActuation (hs : Settles stopped) (h : Evolves a m d)
    (hw : MayWork m.toSupervision) (hpaid : d.unscheduled = []) {job : String}
    {cycle : ActuationCycle} (hget : m.line.actuationCycles.get? job = some cycle)
    (actuationId : String) :
    Evolves a (m.completeActuation stopped cycle actuationId) d := by
  unfold Master.completeActuation
  split
  · exact h.faultStop hs _ (List.Subset.refl _)
  · have hcompleted := h.sort (.markActuationCompleted cycle.commandId actuationId) hw rfl
      hget fun _ hop => by cases hop
    simp only [Master.operate] at hcompleted ⊢
    split
    · rename_i exc n heq
      obtain ⟨_, rfl⟩ := Prod.mk.inj heq
      exact Evolves.faultStop hs hcompleted _ (List.Subset.refl _)
    · rename_i reply n heq
      obtain ⟨_, rfl⟩ := Prod.mk.inj heq
      refine Evolves.removeCompletedFifoPrefix (Evolves.emitLogEvent ?_) hpaid
      exact hcompleted.reactuate _ hw hget ⟨rfl, rfl⟩

theorem Evolves.handleActuationResult (hs : Settles stopped) (h : Evolves a m d)
    (hpaid : d.unscheduled = []) (actuatorJobId commandId : String)
    (result : Except String ActuationResult) :
    Evolves a (m.handleActuationResult stopped actuatorJobId commandId result) d := by
  have hkept : ∀ owners, Evolves a { m with actuationIdOwners := owners } d :=
    fun owners => h.quiet rfl
  simp only [Master.handleActuationResult]
  split
  · exact h
  · rename_i cycle hcycle
    obtain ⟨hget, _⟩ := Option.filter_eq_some_iff.mp hcycle
    split
    · rename_i n hignored
      exact h.quiet (ignored_of_some hignored).2
    · rename_i hnone
      have hw := working_of_none hnone
      split
      · exact h.faultStop hs _ (List.Subset.refl _)
      · split
        · exact h.faultStop hs _ (List.Subset.refl _)
        · split
          · exact h.faultStop hs _ (List.Subset.refl _)
          · have hcompleted : ∀ owners actuationId, Evolves a ({ m with
                actuationIdOwners := owners }.completeActuation stopped cycle actuationId) d :=
              fun owners actuationId => (hkept owners).completeActuation hs hw hpaid hget _
            split
            · exact h.faultStop hs _ (List.Subset.refl _)
            · split
              · exact (hkept _).faultStop hs _ (List.Subset.refl _)
              · exact hcompleted _ _
              · exact hcompleted _ _

end Master

end InspectionLine
