import InspectionLine.StationMoves

/-! # A reset makes moves -/
namespace InspectionLine

open Supervision PhysicalLine

namespace Master

variable {a : Supervision × Debt} {m n : Master} {d : Debt} {stopped : Master → Master}

/-! ### Recovery in place -/

/-- The products given up at Station A are to skip Station B. -/
def owedSkips (scopes : List Scope) : List String :=
  (scopes.filter fun scope => scope.2 = .a).map Prod.fst

structure Steady (m n : Master) : Prop where
  systemState : n.systemState = m.systemState
  recoveryPolicy : n.recoveryPolicy = m.recoveryPolicy

theorem Steady.trans {k : Master} (hm : Steady m n) (hn : Steady n k) : Steady m k :=
  ⟨hn.systemState.trans hm.systemState, hn.recoveryPolicy.trans hm.recoveryPolicy⟩

theorem Steady.working (hr : Steady m n) (hstate : m.systemState ≠ .faultStop) :
    MayWork n.toSupervision := .inl (hr.systemState ▸ hstate)

theorem Steady.of_eq (h : n.toSupervision = m.toSupervision) : Steady m n := by
  refine ⟨?_, ?_⟩ <;> rw [h]

structure Recovers (s : StationId) (m n : Master) : Prop extends Steady m n where
  cycles : ∀ t, t ≠ s → n.line.stationCycles.get? t = m.line.stationCycles.get? t

theorem get?_set_of_ne {cycles : StationCycles} {s t : StationId} {cycle : StationCycle}
    (hs : cycle.stationId = s) (ht : t ≠ s) : (cycles.set cycle).get? t = cycles.get? t := by
  rw [StationCycles.get?_set, if_neg]
  rw [hs]
  exact ht

theorem get?_set_self {cycles : StationCycles} {s : StationId} {cycle : StationCycle}
    (hs : cycle.stationId = s) : (cycles.set cycle).get? s = some cycle :=
  (StationCycles.get?_set _ _ _).trans (if_pos hs.symm)

/-- A capture that is over waits for the next run of the line. -/
theorem Evolves.awaitResume {s : StationId} {cycle : StationCycle} {unskipped : List String}
    {ledger : ProductLedger}
    (h : Evolves a { m with line.ledger := ledger }
      { d with unresumed := s :: d.unresumed, unskipped })
    (hw : MayWork m.toSupervision) (hget : m.line.stationCycles.get? s = some cycle)
    {expiring : List StationId} (hx : d.expiring = s :: expiring) :
    Evolves a { m with line := { m.line with
      ledger
      stationCycles := m.line.stationCycles.set { cycle with phase := .resumePending }
      deferredCaptureResumes := m.line.deferredCaptureResumes.insert (cycle.productId, s) } }
      { d with expiring, unskipped } := by
  have hstation : cycle.stationId = s := m.line.stationCycles.keyed s cycle hget
  have hpended := h.pend { cycle with phase := .resumePending }
    (m.line.deferredCaptureResumes.insert (cycle.productId, s)) hw hget ⟨rfl, rfl, rfl⟩ rfl
    (.inr List.mem_insert_self) (fun _ hm => List.mem_insert_of_mem hm)
    (.inl List.mem_cons_self)
  have hwaiting : (m.line.stationCycles.set { cycle with phase := .resumePending }).get? s =
      some { cycle with phase := .resumePending } := get?_set_self hstation
  have hsettled := hpended.pay (.settle d.unresumed rfl hwaiting rfl (.inr List.mem_insert_self))
  refine hsettled.unexpire (s := s) expiring (.inr hx) fun other hother => ?_
  cases hwaiting.symm.trans hother
  exact ⟨rfl, .inr List.mem_insert_self⟩

/-- What the recovery of one station leaves: an exception, or a cycle that is gone or watched,
and perhaps a product to skip Station B. -/
def Recovered (a : Supervision × Debt) (d : Debt) (expiring : List StationId) (s : StationId)
    (p : String) (m : Master) (r : Except FlowError Bool × Master) : Prop :=
  (∃ exc, r.1 = .error exc) ∧ Evolves a r.2 d ∨
    ∃ givenUp : Bool, r.1 = .ok givenUp ∧ Recovers s m r.2 ∧ Evolves a r.2 { d with
      expiring
      unskipped := owedSkips (if givenUp then [(p, s)] else []) ++ d.unskipped }

/-- One station: it goes on as before, gives its capture up, or starts over. -/
theorem Evolves.recoverStation (h : Evolves a m d) (hw : MayWork m.toSupervision)
    (hpaid : d.unresumed = []) {s : StationId} {cycle : StationCycle}
    (hget : m.line.stationCycles.get? s = some cycle) (context : ProductContext)
    {expiring : List StationId} (hx : d.expiring = s :: expiring) :
    Recovered a d expiring s cycle.productId m (m.recoverStation s cycle context) := by
  have hstation : cycle.stationId = s := m.line.stationCycles.keyed s cycle hget
  have hset : ∀ (ledger : ProductLedger) (resumes : List Scope) (next : StationCycle),
      next.stationId = s → Recovers s m { m with line := { m.line with
        ledger
        stationCycles := m.line.stationCycles.set next
        deferredCaptureResumes := resumes } } := fun ledger resumes next hnext =>
    ⟨⟨rfl, rfl⟩, fun t ht => get?_set_of_ne hnext ht⟩
  simp only [Master.recoverStation]
  split
  · rename_i hphase
    refine .inr ⟨false, rfl, ⟨⟨rfl, rfl⟩, fun _ _ => rfl⟩, ?_⟩
    refine (h.deferCaptureResume (cycle.productId, s)).unexpire (s := s) expiring (.inr hx)
      fun other hother => ?_
    cases hget.symm.trans hother
    exact ⟨hphase, .inr List.mem_insert_self⟩
  · rename_i hphase
    split
    · simp only [Master.operate]
      split
      · rename_i exc n heq
        obtain ⟨hexc, rfl⟩ := Prod.mk.inj heq
        exact .inl ⟨⟨exc, rfl⟩, h.raised hexc (by simp)⟩
      · rename_i reply n heq
        obtain ⟨hreply, rfl⟩ := Prod.mk.inj heq
        refine .inr ⟨false, rfl, hset _ _ _ hstation, ?_⟩
        have hended := h.endCapture hw hget (by simp [ContextOp.ends]) hreply d.unskipped
          (.inl ⟨rfl, spares_of_fair rfl _ _ _ _⟩)
        exact hended.awaitResume hw hget hx
    · split
      · simp only [Master.operate]
        split
        · rename_i exc n heq
          obtain ⟨hexc, rfl⟩ := Prod.mk.inj heq
          exact .inl ⟨⟨exc, rfl⟩, h.raised hexc (by simp)⟩
        · rename_i reply n heq
          obtain ⟨hreply, rfl⟩ := Prod.mk.inj heq
          refine .inr ⟨true, rfl, hset _ _ _ hstation, ?_⟩
          cases s with
          | a =>
            have hended := h.endCapture hw hget rfl hreply (cycle.productId :: d.unskipped)
              (.inr rfl)
            exact hended.awaitResume hw hget hx
          | b =>
            have hfair : ¬ContextOp.Condemns (.markCaptureFailed .b cycle.captureId
                nonresidualReason) (.ok reply) := by
              rintro (⟨_, hop⟩ | ⟨_, hkind⟩)
              · cases hop
              · cases hkind
            have hended := h.endCapture hw hget rfl hreply d.unskipped
              (.inl ⟨rfl, spares_of_outcome hreply hfair _ _⟩)
            exact hended.awaitResume hw hget hx
      · simp only [Master.operate]
        split
        · rename_i exc n heq
          obtain ⟨hexc, rfl⟩ := Prod.mk.inj heq
          exact .inl ⟨⟨exc, rfl⟩, h.raised hexc (by simp)⟩
        · rename_i reply n heq
          obtain ⟨hreply, rfl⟩ := Prod.mk.inj heq
          have hreleased := h.release hw hget rfl (.inl hphase) (hpaid ▸ List.not_mem_nil) hreply
          refine .inr ⟨false, rfl, ⟨⟨rfl, rfl⟩, fun t ht => ?_⟩,
            hreleased.unexpire (s := s) expiring (.inr hx) fun other hother => ?_⟩
          · exact (StationCycles.get?_pop _ _ _).trans (if_neg ht)
          · have hgone := StationCycles.get?_pop m.line.stationCycles s s
            rw [if_pos rfl] at hgone
            cases hgone.symm.trans hother

/-- The skips that are owed may be owed in any order. -/
theorem Evolves.reorderSkips {unskipped owed : List String}
    (h : Evolves a m { d with unskipped }) (hsub : unskipped ⊆ owed) :
    Evolves a m { d with unskipped := owed } :=
  h.owe ⟨⟨List.Subset.refl _, rfl, List.Subset.refl _, List.Subset.refl _⟩, hsub, id⟩

/-- The skip that a recovery owes is left out on record when a later station cannot recover. -/
theorem Evolves.abandonRecovery {s : StationId} {p : String} {givenUp : Bool}
    (h : Evolves a m { d with
      unskipped := owedSkips (if givenUp then [(p, s)] else []) ++ d.unskipped }) :
    Evolves a (m.noteIf (givenUp && s = .a && m.lacksSkip p) .unskipped) d := by
  cases givenUp with
  | false => exact h
  | true =>
    cases s with
    | a => exact h.overlook
    | b => exact h

theorem Evolves.recoverStations (hs : Settles stopped) (items : List (StationId × StationCycle))
    (hnodup : (items.map Prod.fst).Nodup)
    (hitems : ∀ s cycle, (s, cycle) ∈ items → m.line.stationCycles.get? s = some cycle)
    (h : Evolves a m d) (hpaid : d.unresumed = []) (hstate : m.systemState ≠ .faultStop) :
    (recoverStations stopped items m).1 = none ∧
        Evolves a (recoverStations stopped items m).2 d ∨
      ∃ scopes, (recoverStations stopped items m).1 = some scopes ∧
        Steady m (recoverStations stopped items m).2 ∧
        Evolves a (recoverStations stopped items m).2
          { d with unskipped := owedSkips scopes ++ d.unskipped } := by
  induction items generalizing m d with
  | nil => exact .inr ⟨[], rfl, ⟨rfl, rfl⟩, h⟩
  | cons item rest ih =>
    obtain ⟨s, cycle⟩ := item
    have hget := hitems s cycle List.mem_cons_self
    have hstation : cycle.stationId = s := m.line.stationCycles.keyed s cycle hget
    have hw : MayWork m.toSupervision := .inl hstate
    have hexpired : Evolves a (m.setStationCycle { cycle with deadlineNs := 0 })
        { d with expiring := s :: d.expiring } :=
      h.step hw (.inr (nothing_enters_set hget hstation)) (.expire hget)
    have hset : (m.setStationCycle { cycle with deadlineNs := 0 }).line.stationCycles.get? s =
        some { cycle with deadlineNs := 0 } := get?_set_self hstation
    have hothers : ∀ t, t ≠ s → (m.setStationCycle
        { cycle with deadlineNs := 0 }).line.stationCycles.get? t =
          m.line.stationCycles.get? t := fun t ht => get?_set_of_ne hstation ht
    have hsame : Steady m (m.setStationCycle { cycle with deadlineNs := 0 }) := ⟨rfl, rfl⟩
    simp only [Master.recoverStations]
    generalize m.setStationCycle { cycle with deadlineNs := 0 } = k at hexpired hset hothers hsame ⊢
    split
    · exact .inl ⟨rfl, Evolves.faultStop hs hexpired _ (List.Subset.refl _)⟩
    · rename_i context _
      have hone := hexpired.recoverStation (hsame.working hstate) hpaid hset context rfl
      rcases hr : k.recoverStation s { cycle with deadlineNs := 0 } context with ⟨_ | givenUp, n⟩
      · rw [hr] at hone
        rcases hone with ⟨_, hraised⟩ | ⟨_, hok, _⟩
        · exact .inl ⟨rfl, Evolves.faultStop hs hraised _ (List.Subset.refl _)⟩
        · cases hok
      · rw [hr] at hone
        rcases hone with ⟨⟨_, hexc⟩, _⟩ | ⟨givenUp', hok, hrecovers, hrecovered⟩
        · cases hexc
        · cases hok
          have hcycles : ∀ t other, (t, other) ∈ rest →
              n.line.stationCycles.get? t = some other := by
            intro t other hmem
            have hne : t ≠ s := by
              rintro rfl
              exact (List.nodup_cons.mp hnodup).1 (List.mem_map.mpr ⟨_, hmem, rfl⟩)
            rw [hrecovers.cycles t hne, hothers t hne]
            exact hitems t other (List.mem_cons_of_mem _ hmem)
          have hrest := ih (List.nodup_cons.mp hnodup).2 hcycles hrecovered hpaid
            (by rw [hrecovers.systemState, hsame.systemState]; exact hstate)
          simp only
          rcases hr' : Master.recoverStations stopped rest n with ⟨_ | scopes, j⟩
          · rw [hr'] at hrest
            rcases hrest with ⟨_, hfailed⟩ | ⟨_, hsome, _⟩
            · exact .inl ⟨rfl, hfailed.abandonRecovery⟩
            · cases hsome
          · rw [hr'] at hrest
            rcases hrest with ⟨hnone, _⟩ | ⟨_, hsome, hsteady, hfinished⟩
            · cases hnone
            · cases hsome
              refine .inr ⟨_, rfl, ?_, ?_⟩
              · exact hsame.trans (hrecovers.toSteady.trans hsteady)
              · refine hfinished.reorderSkips ?_
                cases givenUp <;> cases s <;> simp [owedSkips]

/-! ### The products given up -/

theorem Steady.deferredResume (cycle : StationCycle) {s : StationId} {productId : String}
    (hstate : m.systemState ≠ .runSys) (hget : m.line.stationCycles.get? s = some cycle)
    (hid : cycle.productId = productId) :
    Steady m (m.resumeConveyorAfterCapture stopped productId s) := by
  have hfound : (m.line.stationCycles.get? s).filter (fun cycle => cycle.productId = productId) =
      some cycle := Option.filter_eq_some_iff.mpr ⟨hget, by simpa using hid⟩
  have hkept : (m.setStationCycle { cycle with
      phase := .resumePending
      deadlineNs := m.nowNs + fromMs m.config.conveyorResumeTimeoutMs }).systemState ≠
        .runSys := hstate
  simp only [Master.resumeConveyorAfterCapture, hfound]
  rw [if_pos hkept]
  exact ⟨rfl, rfl⟩

/-- While the line is being reset, a skip at Station B is only noted down. -/
theorem Steady.cancelActiveStationB {cycle : StationCycle} (reason : String)
    (hstate : m.systemState ≠ .runSys) (hget : m.line.stationCycles.get? .b = some cycle) :
    Steady m (m.cancelActiveStationB stopped cycle reason) := by
  have hcanceled : (cycle.captureGoalHandle.elim m m.cancelGoal).toSupervision =
      m.toSupervision := toSupervision_elim_cancelGoal m _
  simp only [Master.cancelActiveStationB]
  generalize cycle.captureGoalHandle.elim m m.cancelGoal = k at hcanceled
  have hresume : ∀ j : Master, j.line.stationCycles = m.line.stationCycles → Steady m j →
      Steady m (j.emitLogEvent.resumeConveyorAfterCapture stopped cycle.productId .b) := by
    intro j hj hsteady
    have hlogged : Steady m j.emitLogEvent :=
      hsteady.trans (.of_eq (toSupervision_emitLogEvent j))
    refine hlogged.trans (.deferredResume cycle ?_ ?_ rfl)
    · rw [hlogged.systemState]
      exact hstate
    · rw [toSupervision_emitLogEvent, hj]
      exact hget
  have hoperated : ∀ (j : Master) op, Steady m j →
      j.line.stationCycles = m.line.stationCycles →
      Steady m (j.operate cycle.productId op).2 ∧
        (j.operate cycle.productId op).2.line.stationCycles = m.line.stationCycles :=
    fun j op hsteady hcycles => ⟨⟨hsteady.systemState, hsteady.recoveryPolicy⟩, hcycles⟩
  obtain ⟨hsteady, hcycles⟩ := hoperated k (.markStationBSkipped reason) (.of_eq hcanceled)
    (by rw [hcanceled])
  generalize k.operate cycle.productId (.markStationBSkipped reason) = marked at hsteady hcycles ⊢
  split
  · exact hresume _ hcycles hsteady
  · split
    · obtain ⟨hpromoted, hstill⟩ :=
        hoperated _ (.promoteCaptureCompletionFromVision .b) hsteady hcycles
      exact hresume _ hstill hpromoted
    · exact hsteady

theorem Steady.cancelAfterStation (s : StationId) (productId reason : String)
    (hstate : m.systemState ≠ .runSys) :
    Steady m (m.cancelAfterStation stopped s productId reason) := by
  simp only [Master.cancelAfterStation]
  split
  · simp only [Master.cancelStationBAfterATerminal]
    split
    · exact .of_eq (toSupervision_emitLogEvent m)
    · split
      · exact ⟨rfl, rfl⟩
      · rename_i context _
        have hmarked : Steady m ((m.operate productId (.requestStationBSkip reason)
            ).2.publishInferenceCancellation context StationId.b.raw .stationATerminalNg
              reason) := ⟨rfl, rfl⟩
        split
        · rename_i cycle hcycle
          have hget := (Option.filter_eq_some_iff.mp hcycle).1
          exact hmarked.trans (.cancelActiveStationB reason hstate hget)
        · split
          · exact hmarked
          · generalize ((m.operate productId (.requestStationBSkip reason)
                ).2.publishInferenceCancellation context StationId.b.raw .stationATerminalNg
                  reason) = k at hmarked
            have hbypassed : Steady m (k.operate productId (.bypassStationB reason)).2 :=
              ⟨hmarked.systemState, hmarked.recoveryPolicy⟩
            generalize k.operate productId (.bypassStationB reason) = bypassed at hbypassed
            split
            · exact hbypassed.trans (.of_eq (toSupervision_emitLogEvent _))
            · exact hbypassed
  · exact ⟨rfl, rfl⟩

theorem Evolves.cancelGivenUp (hs : Settles stopped) (scopes : List Scope)
    (h : Evolves a m { d with unskipped := owedSkips scopes ++ d.unskipped })
    (hpaid : d.unresumed = []) (hstate : m.systemState = .resetting) :
    Evolves a (scopes.foldl (fun m scope =>
        m.emitLogEvent.cancelAfterStation stopped scope.2 scope.1 nonresidualReason) m) d ∧
      Steady m (scopes.foldl (fun m scope =>
        m.emitLogEvent.cancelAfterStation stopped scope.2 scope.1 nonresidualReason) m) := by
  induction scopes generalizing m with
  | nil => exact ⟨h, rfl, rfl⟩
  | cons scope rest ih =>
    obtain ⟨p, s⟩ := scope
    have hw : MayWork m.emitLogEvent.toSupervision :=
      working_emitLogEvent (.inl (by simp [hstate]))
    have hlogged : m.emitLogEvent.systemState = m.systemState := by
      rw [toSupervision_emitLogEvent]
    have hcanceled := h.emitLogEvent.cancelAfterStation (owedSkips rest ++ d.unskipped) hs hw s p
      nonresidualReason (by simp [hpaid])
      (by cases s <;> simp [owedSkips])
    have hsteady : Steady m (m.emitLogEvent.cancelAfterStation stopped s p nonresidualReason) :=
      Steady.trans (.of_eq (toSupervision_emitLogEvent m))
        (.cancelAfterStation s p nonresidualReason (by simp [hstate]))
    obtain ⟨hrest, hkept⟩ := ih hcanceled (hsteady.systemState.trans hstate)
    exact ⟨hrest, hsteady.trans hkept⟩

theorem Evolves.disableActuationDeadlines (h : Evolves a m d)
    (hstate : m.systemState = .resetting) :
    Evolves a m.disableActuationDeadlines d ∧ Steady m m.disableActuationDeadlines := by
  have hloop : ∀ (values : List ActuationCycle) (k : Master), Evolves a k d → Steady m k →
      (∀ v ∈ values, ∃ cycle, k.line.actuationCycles.get? v.actuatorJobId = some cycle ∧
        v.productId = cycle.productId ∧ v.actuatorJobId = cycle.actuatorJobId) →
      Evolves a (values.foldl (fun m cycle => if cycle.phase = .goalPending then
          m.setActuationCycle { cycle with deadlineNs := 0 } else m) k) d ∧
        Steady m (values.foldl (fun m cycle => if cycle.phase = .goalPending then
          m.setActuationCycle { cycle with deadlineNs := 0 } else m) k) := by
    intro values
    induction values with
    | nil => exact fun k hk hsteady _ => ⟨hk, hsteady⟩
    | cons v rest ih =>
      intro k hk hsteady hcycles
      rw [List.foldl_cons]
      split
      · obtain ⟨cycle, hcycle, hsame⟩ := hcycles v List.mem_cons_self
        refine ih _ (hk.reactuate _ (hsteady.working (by simp [hstate])) hcycle hsame)
          (hsteady.trans ⟨rfl, rfl⟩) fun w hw => ?_
        obtain ⟨other, hother, hid, hjob⟩ := hcycles w (List.mem_cons_of_mem _ hw)
        change ∃ cycle, (k.line.actuationCycles.insert v.actuatorJobId
          { v with deadlineNs := 0 }).get? w.actuatorJobId = some cycle ∧ _
        rw [OrderedDict.get?_insert]
        split
        · rename_i hkey
          rw [hkey, hcycle] at hother
          cases hother
          exact ⟨_, rfl, hid.trans hsame.1.symm, hkey⟩
        · exact ⟨other, hother, hid, hjob⟩
      · exact ih k hk hsteady fun w hw => hcycles w (List.mem_cons_of_mem _ hw)
  refine hloop _ m h ⟨rfl, rfl⟩ fun v hv => ?_
  obtain ⟨⟨job, cycle⟩, hmem, rfl⟩ := List.mem_map.mp hv
  have hget := OrderedDict.get?_eq_some.mpr hmem
  have hown := (h.line_occupied.jobs job cycle hget).1
  exact ⟨cycle, hown.symm ▸ hget, rfl, rfl⟩

theorem Evolves.prepareInPlaceRecovery (hs : Settles stopped) (h : Evolves a m d)
    (hpaid : d.unresumed = []) (hstate : m.systemState = .resetting) :
    Evolves a (m.prepareInPlaceRecovery stopped).2 d ∧
      ((m.prepareInPlaceRecovery stopped).1 = true →
        Steady m (m.prepareInPlaceRecovery stopped).2) := by
  simp only [Master.prepareInPlaceRecovery]
  split
  · exact ⟨h.faultStop hs _ (List.Subset.refl _), fun hb => by cases hb⟩
  · have hcanceled := toSupervision_cancelTrackedOperationGoals m false
    generalize m.cancelTrackedOperationGoals false = i at hcanceled
    have hrecovered := Evolves.recoverStations hs i.line.stationCycles.items
      i.line.stationCycles.entries.nodup (fun s cycle hmem => OrderedDict.get?_eq_some.mpr hmem)
      (h.quiet hcanceled) hpaid (by simp [hcanceled, hstate])
    rcases hr : Master.recoverStations stopped i.line.stationCycles.items i with
      ⟨_ | scopes, k⟩ <;> rw [hr] at hrecovered
    · rcases hrecovered with ⟨_, hfailed⟩ | ⟨_, hsome, _⟩
      · exact ⟨hfailed, fun hb => by cases hb⟩
      · cases hsome
    · rcases hrecovered with ⟨hnone, _⟩ | ⟨_, hsome, hsteady, hrecovered⟩
      · cases hnone
      · cases hsome
        have hsteady := (Steady.of_eq hcanceled).trans hsteady
        obtain ⟨hgiven, hkept⟩ := Evolves.cancelGivenUp hs scopes hrecovered hpaid
          (hsteady.systemState.trans hstate)
        have hsteady := hsteady.trans hkept
        dsimp only
        generalize scopes.foldl (fun m scope => m.emitLogEvent.cancelAfterStation stopped scope.2
          scope.1 nonresidualReason) k = j at hgiven hsteady ⊢
        obtain ⟨hdisabled, hlast⟩ := Evolves.disableActuationDeadlines (m := { j with
          visionOutageAffectedScopes := [], visionOutageResidualScopes := [] })
          (hgiven.quiet rfl) (hsteady.systemState.trans hstate)
        have hemptied : Steady j { j with
            visionOutageAffectedScopes := [], visionOutageResidualScopes := [] } := ⟨rfl, rfl⟩
        exact ⟨hdisabled, fun _ => hsteady.trans (hemptied.trans hlast)⟩

/-! ### The reset -/

theorem Evolves.reportResetFailed (h : Evolves a m d) (reason : String) :
    Evolves a (m.reportResetFailed reason) d := by
  simp only [Master.reportResetFailed]
  cases hm : m.applySystemEvent .resetFailed reason with
  | none => simpa [hm] using h
  | some n => simpa [hm] using h.transit hm rfl (by simp)

theorem Evolves.lineClear (h : Evolves a m d) (hstate : m.systemState = .resetting)
    (hpolicy : m.recoveryPolicy = .lineClearRequired) :
    Evolves a (m.clearLine.emitLogEvent.reportResetSucceeded true).2 d := by
  have hcleared : m.clearLine.emitLogEvent.toSupervision = { m.toSupervision with
      line := { ledger := (m.line.ledger.clearActive m.nowNs).2 }
      sensorEvents := m.sensorEvents.reset
      pausedByQueue := false
      queueRecoveredPending := false } := toSupervision_emitLogEvent _
  generalize m.clearLine.emitLogEvent = k at hcleared
  have hk : k.systemState = .resetting := by
    rw [hcleared]
    exact hstate
  simp only [Master.reportResetSucceeded, if_true]
  cases hm : k.applySystemEvent .resetSucceededEmptyLine "reset guard completed" with
  | none => simp [applySystemEvent, hk, decideSystemTransition, faultRule, transitionRule] at hm
  | some n =>
    obtain ⟨t, hevent, haccepted, hn⟩ := apply_system_event_spec hm
    refine h.move ?_
    change Move _ ({ n.toSupervision with recoveryPolicy := .none }, d)
    rw [hn, hcleared]
    have hsame : Accepts m.toSupervision t := by
      rw [hcleared] at haccepted
      exact haccepted
    exact .lineClear m.nowNs hsame hevent hpolicy

theorem Evolves.resetInPlace (h : Evolves a m d) (hstate : m.systemState = .resetting)
    (hpolicy : m.recoveryPolicy ≠ .lineClearRequired) :
    Evolves a (m.reportResetSucceeded false).2 d := by
  simp only [Master.reportResetSucceeded, Bool.false_eq_true, if_false]
  cases hm : m.applySystemEvent .resetSucceededInPlace "reset guard completed" with
  | none => simp [applySystemEvent, hstate, decideSystemTransition, faultRule, transitionRule] at hm
  | some n =>
    obtain ⟨t, hevent, haccepted, hn⟩ := apply_system_event_spec hm
    refine h.move ?_
    change Move _ ({ n.toSupervision with recoveryPolicy := .none }, d)
    rw [hn]
    exact .resetInPlace haccepted hevent hpolicy

theorem Evolves.confirmResetCompleted (hs : Settles stopped) (h : Evolves a m d)
    (hpaid : d.unresumed = []) : Evolves a (m.confirmResetCompleted stopped).2 d := by
  simp only [Master.confirmResetCompleted]
  split
  · exact h
  · rename_i hresetting
    have hstate : m.systemState = .resetting := not_not.mp hresetting
    split
    · rename_i hpolicy
      split
      · exact h.reportResetFailed _
      · have hcanceled := toSupervision_cancelTrackedOperationGoals m true
        refine Evolves.lineClear (h.quiet hcanceled) ?_ ?_ <;> rw [hcanceled]
        · exact hstate
        · exact hpolicy
    · rename_i hpolicy
      split
      · exact h.reportResetFailed _
      · obtain ⟨hprepared, hsteady⟩ := h.prepareInPlaceRecovery hs hpaid hstate
        rcases hr : m.prepareInPlaceRecovery stopped with ⟨_ | _, k⟩ <;>
          rw [hr] at hprepared hsteady
        · exact hprepared
        · have hkept := hsteady rfl
          have hcleared : Evolves a ({ k with
              pausedByQueue := false, queueRecoveredPending := false } : Master)
              { d with blocked := false } := hprepared.move .clearQueue
          refine (Evolves.resetInPlace hcleared ?_ ?_).owe (unblocked_within d)
          · exact hkept.systemState.trans hstate
          · exact fun hnone => hpolicy (hkept.recoveryPolicy.symm.trans hnone)

theorem Evolves.startResetSequence (hs : Settles stopped) (h : Evolves a m d)
    (hpaid : d.unresumed = []) (reason : String) :
    Evolves a (m.startResetSequence stopped reason) d := by
  have hadvanced : Evolves a
      (m.advanceCommandEpoch "reset sequence started" none true) d := h.quiet rfl
  have hpublished := hadvanced.publish .reset reason allConveyors
    (.inl (by simp [systemCommand, CommandType.raw]))
  simp only [Master.startResetSequence]
  split
  · exact hpublished.confirmResetCompleted hs hpaid
  · exact hpublished

theorem Evolves.requestReset (hs : Settles stopped) (h : Evolves a m d)
    (hpaid : d.unresumed = []) (reason : String) :
    Evolves a (m.requestReset stopped reason).2 d := by
  simp only [Master.requestReset]
  split
  · exact h
  · rename_i hentry
    split
    · exact h
    · rename_i n hm
      refine (h.transit hm rfl fun _ hpolicy => ?_).startResetSequence hs hpaid reason
      simp only [verifyResetEntryConditions, hpolicy, Bool.not_eq_true', Bool.not_eq_false,
        Bool.and_eq_true] at hentry
      simp only [EquipmentSnapshot.lineClearGuardsSatisfied, Bool.and_eq_true] at hentry
      exact hentry.2.1.1.1.1

end Master

end InspectionLine
