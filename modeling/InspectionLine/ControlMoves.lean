import InspectionLine.MasterMoves

/-! # Resuming the line, and what follows a confirmed stop -/
namespace InspectionLine

open Supervision PhysicalLine

namespace Master

variable {a : Supervision × Debt} {m n : Master} {d e : Debt} {stopped : Master → Master}

/-! ### Resuming -/

theorem Evolves.raised (h : Evolves a m d) {p : String} {op : ContextOp} {exc : FlowError}
    (hexc : (m.line.ledger.operate p op).1 = .error exc)
    (hop : ∀ decision, op ≠ .applyStationResult decision) :
    Evolves a { m with line.ledger := (m.line.ledger.operate p op).2 } d := by
  rw [ProductLedger.operate_raised hexc hop]
  exact h

theorem nothing_enters_pop (line : PhysicalLine) (p : String) (op : ContextOp) (s : StationId)
    (starts resumes : List Scope) : NothingEnters line { line.operate p op with
      stationCycles := line.stationCycles.pop s
      deferredStationStarts := starts
      deferredCaptureResumes := resumes } := by
  refine ⟨fun t ht => ?_, (nothing_enters_operate line p op).active⟩
  rw [StationCycles.get?_pop, ht]
  split <;> rfl

theorem Evolves.resume {s : StationId} {p : String} {cycle : StationCycle} {reply : Reply}
    (h : Evolves a m d) (hw : MayWork m.toSupervision)
    (cycleAt : m.line.stationCycles.get? s = some cycle) (product : cycle.productId = p)
    (pending : cycle.phase = .resumePending) (paid : s ∉ d.unresumed)
    (resumed : (m.line.ledger.operate p (.markConveyorResumedAfterCapture s)).1 = .ok reply) :
    Evolves a { m with line := { m.line.operate p (.markConveyorResumedAfterCapture s) with
      stationCycles := m.line.stationCycles.pop s
      deferredCaptureResumes := m.line.deferredCaptureResumes.erase (p, s) } } d :=
  h.step hw (.inr (nothing_enters_pop _ _ _ _ _ _)) (.resume cycleAt product pending paid resumed)

theorem Evolves.confirmConveyorResumed (hs : Settles stopped) (h : Evolves a m d)
    (productId : String) (s : StationId) (paid : s ∉ d.unresumed) :
    Evolves a (m.confirmConveyorResumed stopped productId s).2 d := by
  simp only [Master.confirmConveyorResumed]
  cases hcycle : m.line.stationCycles.get? s with
  | none => exact h
  | some cycle =>
    simp only
    split
    · exact h
    · rename_i hfits
      obtain ⟨hproduct, hphase⟩ := not_or.mp hfits
      have hid : cycle.productId = productId := not_not.mp hproduct
      subst hid
      cases hignored : m.ignoreOperationWhileFaultStopped with
      | some n => exact h.quiet (ignored_of_some hignored).2
      | none =>
        have hw := working_of_none hignored
        simp only
        split
        · exact h.faultStop hs _ (List.Subset.refl _)
        · simp only [Master.operate]
          split
          · rename_i exc n heq
            obtain ⟨hexc, rfl⟩ := Prod.mk.inj heq
            exact Evolves.faultStop hs (h.raised hexc (by simp)) _ (List.Subset.refl _)
          · rename_i reply n heq
            obtain ⟨hreply, rfl⟩ := Prod.mk.inj heq
            refine Evolves.emitLogEvent ?_
            exact h.resume hw hcycle rfl (not_not.mp hphase) paid hreply

/-- A product that is accounted for again is no longer owed a start. -/
theorem Evolves.place {p : String} {s : StationId} (h : Evolves a m d) (unplaced : List Scope)
    (hu : d.unplaced = unplaced ∨ d.unplaced = (p, s) :: unplaced)
    (placed : (p, s) ∈ m.line.deferredStationStarts ∨ m.line.InCycle s p ∨
      ∀ c, m.line.product? p = some c → c.physicalState ≠ ProductContext.stationWait s) :
    Evolves a m { d with unplaced } := by
  rcases hu with rfl | hu
  · exact h
  · exact h.pay (.place unplaced hu placed)

theorem fromMs_pos {ms : ℤ} (h : 100 ≤ ms) : 0 < fromMs ms := by
  unfold fromMs
  omega

theorem deadline_set (m : Master) {ms : ℤ} (h : 100 ≤ ms) : m.nowNs + fromMs ms ≠ 0 := by
  have hnow : 0 ≤ m.nowNs := m.around.nowNs_nonneg
  have hms := fromMs_pos h
  omega

theorem timeout_bound (m : Master) (ms : ℤ) (h : ms ∈ [m.config.positionTimeoutMs,
    m.config.captureTimeoutMs, m.config.actuationTimeoutMs, m.config.conveyorResumeTimeoutMs,
    m.config.pauseStopTimeoutMs, m.config.shutdownStopTimeoutMs]) : 100 ≤ ms :=
  (m.config.action_timeouts ms h).1

theorem Evolves.start {s : StationId} {p : String} {c : ProductContext} {reply : Reply}
    {ledger : ProductLedger} (cycle : StationCycle) (h : Evolves a m d)
    (hrun : m.systemState = .runSys) (free : m.line.stationCycles.get? s = none)
    (known : m.line.ledger.get p cycle.fifoSequence = some c) (live : c.removed = false)
    (wanted : s = .b → c.stationBSkipRequested = false) (paid : s ∉ d.unresumed)
    (begun : (m.line.ledger.operate p
      (.beginStationCycle s cycle.positionCommandId cycle.captureId)).1 = .ok reply)
    (registered : (m.line.ledger.operate p (.beginStationCycle s cycle.positionCommandId
      cycle.captureId)).2.registerCapture cycle.captureId p s = (.ok (), ledger))
    (opened : cycle.stationId = s ∧ cycle.productId = p ∧ cycle.phase = .waitingPosition ∧
      cycle.deadlineNs ≠ 0) :
    Evolves a { m with line := { m.line with
      ledger := ledger
      stationCycles := m.line.stationCycles.set cycle
      deferredStationStarts := m.line.deferredStationStarts.erase (p, s) } } d :=
  h.step (.inl (by simp [hrun])) (.inl (by simp [hrun, BeforeRun]))
    (.start m.uuidsIssued free known live wanted paid begun registered opened le_rfl)

theorem Evolves.openStationCycle (hs : Settles stopped) (h : Evolves a m d)
    (hrun : m.systemState = .runSys) (productId : String) (fifoSequence : ℕ) (s : StationId)
    {c : ProductContext} (free : m.line.stationCycles.get? s = none)
    (known : m.line.ledger.get productId fifoSequence = some c) (live : c.removed = false)
    (wanted : s = .b → c.stationBSkipRequested = false) (paid : s ∉ d.unresumed)
    (unplaced : List Scope)
    (hu : d.unplaced = unplaced ∨ d.unplaced = (productId, s) :: unplaced) :
    Evolves a (m.openStationCycle stopped productId fifoSequence s) { d with unplaced } := by
  have hw : MayWork m.toSupervision := .inl (by simp [hrun])
  have hissued := (h.newUuid).newUuid
  simp only [Master.openStationCycle, Master.operate]
  split
  · rename_i exc n heq
    obtain ⟨hexc, rfl⟩ := Prod.mk.inj heq
    exact Evolves.faultStop hs (Evolves.raised hissued hexc (by simp)) _ (List.Subset.refl _)
  · rename_i reply n heq
    obtain ⟨hreply, rfl⟩ := Prod.mk.inj heq
    split
    · refine Evolves.faultStop (d := d) hs ?_ _ (List.Subset.refl _)
      exact hissued.revise (.beginStationCycle s m.newUuid.1 m.newUuid.2.newUuid.1) hw
        productId rfl rfl
    · rename_i ledger hledger
      have hdeadline : m.nowNs + fromMs m.config.positionTimeoutMs ≠ 0 :=
        deadline_set m (timeout_bound m _ (by simp))
      refine Evolves.place (p := productId) (s := s) ?_ unplaced hu
        (.inr (.inl ⟨_, (StationCycles.get?_set _ _ _).trans (if_pos rfl), rfl⟩))
      exact hissued.start _ hrun free known live wanted paid hreply hledger
        ⟨rfl, rfl, rfl, hdeadline⟩

theorem Evolves.startStationCycle (hs : Settles stopped) (h : Evolves a m d)
    (productId : String) (fifoSequence : ℕ) (s : StationId)
    (live : ∀ c, m.line.ledger.get productId fifoSequence = some c → c.removed = false)
    (paid : s ∉ d.unresumed) (unplaced : List Scope)
    (hu : d.unplaced = unplaced ∨ d.unplaced = (productId, s) :: unplaced ∧
      (s = .b → ∀ c, m.line.product? productId = some c → c.stationBSkipRequested = false)) :
    Evolves a (m.startStationCycle stopped productId fifoSequence s) { d with unplaced } := by
  have howed := hu.imp_right And.left
  simp only [Master.startStationCycle]
  split
  · exact (h.deferStationStart (productId, s)).place unplaced howed
      (.inl List.mem_insert_self)
  · rename_i hstate
    have hrun : m.systemState = .runSys := not_not.mp hstate
    have hw : MayWork m.toSupervision := .inl (by simp [hrun])
    split
    · rename_i existing hexisting
      split
      · rename_i hsame
        exact h.place unplaced howed (.inr (.inl ⟨existing, hexisting, hsame⟩))
      · exact h.faultStop hs _ (List.Subset.refl _)
    · rename_i hfree
      split
      · exact h.faultStop hs _ (List.Subset.refl _)
      · rename_i context hcontext
        split
        · rename_i hskip
          obtain ⟨rfl, hrequested⟩ := hskip
          have hidle : ¬m.line.InCycle .b productId := by
            rintro ⟨cycle, hcycle, _⟩
            rw [hfree] at hcycle
            cases hcycle
          have hpaid : d.unplaced = unplaced := by
            rcases hu with hu | ⟨_, hnone⟩
            · exact hu
            · rw [hnone rfl context (product?_of_get hcontext)] at hrequested
              cases hrequested
          subst hpaid
          refine Evolves.emitLogEvent ?_
          exact h.step hw (.inr (nothing_enters_operate _ _ _)) (.bypass _ _ hidle)
        · rename_i hskip
          split
          · exact h.faultStop hs _ (List.Subset.refl _)
          · refine h.openStationCycle hs hrun productId fifoSequence s hfree hcontext
              (live context hcontext) (fun hb => ?_) paid unplaced howed
            by_contra hrequested
            exact hskip ⟨hb, by simpa using hrequested⟩

theorem Evolves.sendActuationGoal (hs : Settles stopped) (h : Evolves a m d)
    (hw : MayWork m.toSupervision) (locked : LockedProduct) :
    Evolves a (m.sendActuationGoal stopped locked) d := by
  simp only [Master.sendActuationGoal]
  split
  · exact h.faultStop hs _ (List.Subset.refl _)
  · split
    · exact h.faultStop hs _ (List.Subset.refl _)
    · split
      · exact h.faultStop hs _ (List.Subset.refl _)
      · rename_i cycle hcycle
        split
        · exact h.manualPause hs _
        · have hset := h.reactuate { cycle with
              phase := .goalPending
              deadlineNs := m.nowNs + fromMs m.config.actuationTimeoutMs } hw hcycle ⟨rfl, rfl⟩
          split
          · exact hset.manualPause hs _
          · exact hset.sendGoal hw _

/-- A deferred product that is still on the line is the one its scope names. -/
theorem Evolves.resumeDeferredStart (hs : Settles stopped) (h : Evolves a m d)
    (hpaid : d.unresumed = []) (scope : Scope) :
    Evolves a (m.resumeDeferredStart stopped scope) d := by
  unfold Master.resumeDeferredStart
  split
  · rename_i hnone
    refine h.move (.work (.inr ⟨rfl, rfl, rfl⟩) (.inr ⟨fun _ hs => hs, List.Subset.refl _⟩)
      (.dropStart scope fun c hc => ?_))
    by_contra hlive
    have hkept := Option.filter_eq_none_iff.mp hnone c hc
    simp [hlive] at hkept
  · rename_i context hcontext
    obtain ⟨hproduct, hlive⟩ := Option.filter_eq_some_iff.mp hcontext
    have hid := (m.line.ledger.identified scope.1 context hproduct).1
    refine h.startStationCycle hs _ _ _ (fun c hc => ?_) (hpaid ▸ List.not_mem_nil) d.unplaced
      (.inl rfl)
    have hsame := product?_of_get hc
    change m.line.ledger.byId.get? context.productId = some c at hsame
    change m.line.ledger.byId.get? scope.1 = some context at hproduct
    rw [hid, hproduct] at hsame
    cases hsame
    simpa using hlive

theorem Evolves.resumePendingActuation (hs : Settles stopped) (h : Evolves a m d)
    (actuatorJobId : String) :
    Evolves a (m.resumePendingActuation stopped actuatorJobId) d := by
  unfold Master.resumePendingActuation
  split
  · exact h
  · split
    · exact h
    · split
      · exact h
      · exact (h.noteIf _ .pendingActuation).sendActuationGoal hs (working_late m rfl) _

theorem Evolves.resumeDeferredOperations (hs : Settles stopped) (h : Evolves a m d)
    (hpaid : d.unresumed = []) : Evolves a (m.resumeDeferredOperations stopped) d := by
  have hnone : ∀ s, s ∉ d.unresumed := fun s => hpaid ▸ List.not_mem_nil
  simp only [Master.resumeDeferredOperations]
  refine Evolves.foldl (fun _ job hk => hk.resumePendingActuation hs job) _ ?_
  refine Evolves.foldl (fun _ scope hk => hk.resumeDeferredStart hs hpaid scope) _ ?_
  exact h.foldl (fun _ scope hk => hk.confirmConveyorResumed hs scope.1 scope.2 (hnone _)) _

theorem Evolves.confirmAllConveyorsRunning (hs : Settles stopped) (h : Evolves a m d)
    (hpaid : d.unresumed = []) : Evolves a (m.confirmAllConveyorsRunning stopped).2 d := by
  simp only [Master.confirmAllConveyorsRunning]
  split
  · exact h
  · rename_i hpending
    split
    · exact h
    · rename_i n hm
      obtain ⟨t, hevent, haccepted, hn⟩ := apply_system_event_spec hm
      refine Evolves.resumeDeferredOperations hs (h.move ?_) hpaid
      have hequipment : n.equipment = m.equipment := by rw [hn]; rfl
      generalize hset : (if m.systemState = .ready
        then n.equipment.markAllRunning.clearOperatorConfirmation
        else n.equipment.markAllRunning) = equipment
      have hrun : Move (m.toSupervision, d) ({ m.toSupervision.enter t
          ⟨m.startGuardsSatisfied, m.verifyResumeConditions⟩ with
          pendingRunConfirmation := false, equipment }, d) := by
        refine .run equipment haccepted hevent (by simpa using hpending) ?_ ?_ <;>
          rw [← hset, hequipment] <;> split
        · exact .inr rfl
        · exact .inl ⟨rfl, rfl⟩
        · rfl
        · rfl
      rw [← hn] at hrun
      exact hrun

theorem Evolves.requestConveyorRun (hs : Settles stopped) {reason : String}
    (h : Evolves a (m.publishSystemCommand .resume reason allConveyors) d)
    (hpaid : d.unresumed = []) : Evolves a (m.requestConveyorRun stopped reason) d := by
  simp only [Master.requestConveyorRun]
  split
  · exact h.confirmAllConveyorsRunning hs hpaid
  · exact h.quiet rfl

/-- What the guards of START stand for. -/
theorem start_guarded (hg : m.startGuardsSatisfied = true) : m.line.ledger.active = [] ∧
    m.equipment.lineClearConfirmed = true ∧ m.equipment.estopAsserted = false := by
  simp only [startGuardsSatisfied, Bool.and_eq_true, decide_eq_true_eq,
    Bool.not_eq_true'] at hg
  obtain ⟨⟨⟨⟨⟨⟨_, hempty⟩, hconfirmed⟩, _⟩, _⟩, _⟩, hestop⟩ := hg
  exact ⟨List.length_eq_zero_iff.mp hempty, hconfirmed, hestop⟩

theorem Evolves.requestRun (hs : Settles stopped) (h : Evolves a m d) (hpaid : d.unresumed = [])
    (reason : String) : Evolves a (m.requestRun stopped reason).2 d := by
  simp only [Master.requestRun]
  split
  · exact h
  · rename_i hguards
    split
    · exact h
    · rename_i n hm
      obtain ⟨t, hevent, haccepted, hn⟩ := apply_system_event_spec hm
      have hg : m.startGuardsSatisfied = true := by simpa using hguards
      refine Evolves.requestConveyorRun hs (h.move ?_) hpaid
      have hgranted : ∀ command, RunsAll command → Move (m.toSupervision, d)
          ({ n.toSupervision with pendingRunConfirmation := true }.publish command reason, d) := by
        intro command hruns
        rw [hn]
        exact .grantRun haccepted hevent hg (start_guarded hg) hruns
      exact hgranted _ (runs_all _ reason)

theorem resume_guarded (hg : m.verifyResumeConditions = true) :
    m.recoveryPolicy ≠ .lineClearRequired ∧ m.equipment.estopAsserted = false := by
  simp only [verifyResumeConditions, Bool.and_eq_true, decide_eq_true_eq,
    EquipmentSnapshot.inPlaceGuardsSatisfied, Bool.not_eq_true'] at hg
  exact ⟨hg.1.2, hg.1.1.1.2.2⟩

theorem Evolves.requestResume (hs : Settles stopped) (h : Evolves a m d)
    (hpaid : d.unresumed = []) (reason : String) (automatic : Bool) :
    Evolves a (m.requestResume stopped reason automatic).2
      { d with blocked := d.blocked || automatic } := by
  have hrejected : Evolves a m { d with blocked := d.blocked || automatic } :=
    h.owe ⟨⟨List.Subset.refl _, rfl, List.Subset.refl _, List.Subset.refl _⟩,
      List.Subset.refl _, fun hb => by simp [hb]⟩
  simp only [Master.requestResume]
  split
  · exact hrejected
  · split
    · exact hrejected
    · rename_i hguards
      split
      · exact hrejected
      · rename_i n hm
        obtain ⟨t, hevent, haccepted, hn⟩ := apply_system_event_spec hm
        have hg : m.verifyResumeConditions = true := by simpa using hguards
        have hresumes : t.event = .resumeRequest ∨ t.event = .deviceRecovered := by
          cases automatic with
          | false => exact .inl hevent
          | true => exact .inr hevent
        refine Evolves.requestConveyorRun hs (h.move ?_) hpaid
        have hgranted : ∀ command, RunsAll command → Move (m.toSupervision, d)
            ({ n.toSupervision with
              pendingRunConfirmation := true
              history.resumeRequests := ⟨n.line, n.pausedByQueue, automatic⟩ ::
                n.history.resumeRequests }.publish command reason,
              { d with blocked := d.blocked || automatic }) := by
          intro command hruns
          rw [hn]
          exact .grantResume automatic haccepted hresumes hg (resume_guarded hg) hruns
        exact hgranted _ (runs_all _ reason)

theorem request_resume_rejected {reason : String} {automatic : Bool}
    (h : m.requestResume stopped reason automatic = (false, n)) : n = m := by
  simp only [Master.requestResume] at h
  split at h
  · exact (congrArg Prod.snd h).symm
  · split at h
    · exact (congrArg Prod.snd h).symm
    · split at h
      · exact (congrArg Prod.snd h).symm
      · cases h

theorem Evolves.resumeAfterQueueRecovery (hs : Settles stopped) (h : Evolves a m d)
    (hpaid : d.unresumed = []) : Evolves a (m.resumeAfterQueueRecovery stopped) d := by
  have hresumed := h.requestResume hs hpaid "Vision queue recovered" true
  unfold Master.resumeAfterQueueRecovery
  split
  · exact h
  · split
    · rename_i n heq
      rw [heq] at hresumed
      have hcleared : Evolves a
          ({ n with pausedByQueue := false, queueRecoveredPending := false } : Master)
          { d with blocked := false } := hresumed.move .clearQueue
      exact hcleared.owe (unblocked_within d)
    · rename_i n heq
      have hsame : n = m := request_resume_rejected heq
      rw [hsame]
      exact h

/-! ### Initialization, log spool and shutdown -/

theorem Evolves.reportInitializationDone (h : Evolves a m d) :
    Evolves a m.reportInitializationDone.2 d := by
  simp only [Master.reportInitializationDone]
  split
  · exact h
  · split
    · exact h.quiet rfl
    · split
      · exact h
      · rename_i n hm
        exact h.transit hm rfl (by simp)

theorem Evolves.maybeCompleteInitialization (h : Evolves a m d) :
    Evolves a m.maybeCompleteInitialization d := by
  have hdone : Evolves a
      ({ m with initializationCompletionReported := true } : Master).reportInitializationDone.2 d :=
    Evolves.reportInitializationDone (h.quiet rfl)
  unfold Master.maybeCompleteInitialization
  split
  · exact h
  · split
    · rename_i n heq
      rw [heq] at hdone
      exact hdone
    · rename_i n heq
      rw [heq] at hdone
      exact hdone.quiet rfl

theorem Evolves.checkLogSpoolCapacity (hs : Settles stopped) (h : Evolves a m d) :
    Evolves a (m.checkLogSpoolCapacity stopped) d := by
  have hpause : ∀ k : Master, k.toSupervision = m.toSupervision → Evolves a
      (k.requestRecoverableDevicePause stopped "Master log spool hard threshold reached"
        .storageRecovery).2 d := fun k hk =>
    (h.quiet hk).requestRecoverableDevicePause hs _ _ (.inr (by simp))
  simp only [Master.checkLogSpoolCapacity]
  split
  · exact h
  · split <;> split
    · exact hpause _ rfl
    · exact h.quiet rfl
    · exact hpause _ rfl
    · exact h

theorem Evolves.spoolRecovered (h : Evolves a m d) : Evolves a m.spoolRecovered d := by
  unfold Master.spoolRecovered
  split
  · exact h.quiet rfl
  · split
    · exact h.maybeCompleteInitialization
    · exact h

theorem Evolves.readLogSpool (hs : Settles stopped) (h : Evolves a m d) :
    Evolves a (m.readLogSpool stopped) d := by
  unfold Master.readLogSpool
  split
  · exact h.quiet rfl
  · exact h.checkLogSpoolCapacity hs

theorem Evolves.flushLogSpool (hs : Settles stopped) (h : Evolves a m d) :
    Evolves a (m.flushLogSpool stopped) d := by
  unfold Master.flushLogSpool
  split
  · exact h.readLogSpool hs
  · split
    · exact h
    · exact Evolves.readLogSpool hs (Evolves.spoolRecovered (h.quiet rfl))

theorem Evolves.finalizeShutdownSequence (hs : Settles stopped) (h : Evolves a m d) :
    Evolves a (m.finalizeShutdownSequence stopped) d := by
  have hcanceled : ∀ k : Master, k.toSupervision = m.toSupervision → Evolves a
      { (k.cancelTrackedOperationGoals true).emitLogEvent.flushLogSpool stopped with
        shutdownPhase := .readyToExit } d := by
    intro k hk
    have hflushed : Evolves a
        ((k.cancelTrackedOperationGoals true).emitLogEvent.flushLogSpool stopped) d :=
      Evolves.flushLogSpool hs (h.quiet (by simp [hk]))
    exact hflushed.quiet rfl
  simp only [Master.finalizeShutdownSequence]
  split
  · exact h
  · exact hcanceled _ rfl

theorem resume_needs_auto {reason : String} (h : m.pauseReason ≠ some .deviceRecoveryAuto) :
    m.requestResume stopped reason true = (false, m) := by
  simp [Master.requestResume, h]

theorem Evolves.afterConveyorsStopped (hs : Settles stopped) (h : Evolves a m d)
    (hr : MayResume m d) : Evolves a (m.afterConveyorsStopped stopped) d := by
  unfold Master.afterConveyorsStopped
  split
  · exact h.finalizeShutdownSequence hs
  · split
    · exact h
    · split
      · rcases hr with hpaid | hmanual
        · exact h.resumeAfterQueueRecovery hs hpaid
        · unfold Master.resumeAfterQueueRecovery
          rw [resume_needs_auto hmanual]
          split <;> exact h
      · exact h

theorem Evolves.confirmAllConveyorsStopped (hs : Settles stopped) (h : Evolves a m d)
    (hr : MayResume m d) : Evolves a (m.confirmAllConveyorsStopped stopped) d := by
  have hreported : Evolves a ({ m with
      equipment := m.equipment.markAllStopped, pauseDeadlineNs := 0 } : Master) d :=
    h.move (.report _ ⟨rfl, rfl⟩ id)
  simp only [Master.confirmAllConveyorsStopped]
  split
  · exact hreported.afterConveyorsStopped hs hr
  · split
    · exact hreported.faultStop hs _ (List.Subset.refl _)
    · split
      · exact hreported
      · rename_i n hm
        have hpaused := hreported.transit hm rfl (by simp)
        have hsame := pauseReason_applySystemEvent hm
        have hstill : MayResume n d := by
          unfold MayResume
          rw [hsame]
          exact hr
        split
        · exact Evolves.afterConveyorsStopped hs (hpaused.quiet rfl) hstill
        · exact hpaused.afterConveyorsStopped hs hstill

theorem flush_in_fault (hstate : m.systemState = .faultStop) :
    (m.flushLogSpool stopped).toSupervision = m.toSupervision := by
  have hread : ∀ k : Master, k.toSupervision = m.toSupervision →
      (k.readLogSpool stopped).toSupervision = m.toSupervision := by
    intro k hk
    have hstopped : k.systemState ≠ .runSys := by
      rw [hk, hstate]
      simp
    simp only [Master.readLogSpool, Master.checkLogSpoolCapacity]
    split
    · exact hk
    · split
      · exact hk
      · split <;> split
        · rename_i hrun
          exact absurd hrun.2.2 hstopped
        · exact hk
        · rename_i hrun
          exact absurd hrun.2.2 hstopped
        · exact hk
  unfold Master.flushLogSpool
  split
  · exact hread m rfl
  · split
    · rfl
    · refine hread _ ?_
      simp [Master.spoolRecovered, hstate]

/-- In FAULT_STOP a confirmed stop changes what is known of the conveyors. -/
theorem stopped_in_fault (hstate : m.systemState = .faultStop) :
    (m.confirmAllConveyorsStopped stopped).toSupervision =
      { m.toSupervision with equipment := m.equipment.markAllStopped } := by
  have hother : m.systemState ≠ .pausing := by simp [hstate]
  simp only [Master.confirmAllConveyorsStopped]
  rw [if_pos hother]
  unfold Master.afterConveyorsStopped
  split
  · simp only [Master.finalizeShutdownSequence]
    split
    · rfl
    · have hcanceled : ∀ k : Master, k.toSupervision =
          { m.toSupervision with equipment := m.equipment.markAllStopped } →
          ({ (k.cancelTrackedOperationGoals true).emitLogEvent.flushLogSpool stopped with
            shutdownPhase := .readyToExit } : Master).toSupervision =
            { m.toSupervision with equipment := m.equipment.markAllStopped } := by
        intro k hk
        have hsame : (k.cancelTrackedOperationGoals true).emitLogEvent.toSupervision =
            k.toSupervision := by simp
        have hfault : (k.cancelTrackedOperationGoals true).emitLogEvent.systemState =
            .faultStop := by
          rw [hsame, hk]
          exact hstate
        exact (flush_in_fault hfault).trans (hsame.trans hk)
      exact hcanceled _ rfl
  · simp [hstate]

/-- Confirmed stops make moves, however deep they nest. -/
theorem settles_whenStopped (depth : ℕ) : Settles (whenStopped depth) := by
  induction depth with
  | zero =>
    exact ⟨fun h _ => h, fun {m} _ => ⟨m.equipment, ⟨rfl, rfl⟩, rfl, rfl⟩⟩
  | succ depth ih =>
    refine ⟨fun h hr => h.confirmAllConveyorsStopped ih hr, fun {m} hstate => ?_⟩
    exact ⟨m.equipment.markAllStopped, ⟨rfl, rfl⟩, rfl, stopped_in_fault hstate⟩

end Master

end InspectionLine
