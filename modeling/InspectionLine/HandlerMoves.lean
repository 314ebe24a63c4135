import InspectionLine.WorkerMoves
import InspectionLine.ResetMoves

/-! # Sensors, equipment, queue and deadlines make moves -/
namespace InspectionLine

open Supervision PhysicalLine

namespace Master

variable {a : Supervision × Debt} {m n : Master} {d : Debt} {stopped : Master → Master}

/-! ### Sensors -/

theorem before_run_of_sensed (h : ¬(m.systemState ≠ .runSys ∧ m.systemState ≠ .pausing)) :
    BeforeRun m.systemState = false ∧ MayWork m.toSupervision := by
  by_cases hrun : m.systemState = .runSys
  · exact ⟨by simp [hrun, BeforeRun], .inl (by simp [hrun])⟩
  · have hpausing : m.systemState = .pausing := by
      by_contra hne
      exact h ⟨hrun, hne⟩
    exact ⟨by simp [hpausing, BeforeRun], .inl (by simp [hpausing])⟩

/-- A product enters the line and waits for Station A, at once or later. -/
theorem Evolves.handleSensor1Entry (hs : Settles stopped) (h : Evolves a m d)
    (hpaid : d.unresumed = []) (message : SensorEvent) :
    Evolves a (m.handleSensor1Entry stopped message) d := by
  simp only [Master.handleSensor1Entry]
  split
  · exact h
  · rename_i hsensed
    obtain ⟨hbefore, hw⟩ := before_run_of_sensed hsensed
    split
    · exact h.faultStop hs _ (List.Subset.refl _)
    · split
      · exact h
      · rename_i ledger hregistered
        generalize m.productIdOf m.line.ledger.nextSequence = productId at hregistered ⊢
        obtain ⟨_, _, hproducts⟩ := register_next hregistered
        have hadmitted : Evolves a ((({ m with line.ledger := ledger } : Master).operate productId
            (.recordSensor 1 message.eventId message.estimatedStep)).2.emitLogEvent)
            { d with unplaced := (productId, .a) :: d.unplaced } := by
          refine Evolves.emitLogEvent ?_
          exact h.step hw (.inl hbefore) (.arrive message.eventId message.estimatedStep hregistered)
        have hlive : ∀ c, ((({ m with line.ledger := ledger } : Master).operate productId
            (.recordSensor 1 message.eventId message.estimatedStep)).2.emitLogEvent
            ).line.ledger.get productId m.line.ledger.nextSequence = some c →
            c.removed = false := by
          intro c hc
          have hget := product?_of_get hc
          rw [toSupervision_emitLogEvent] at hget
          have hnew : (PhysicalLine.operateAll { m.line with ledger } productId
              [.recordSensor 1 message.eventId message.estimatedStep]).product? productId =
              some c := hget
          rw [product?_operateAll, if_pos rfl, product?, hproducts, if_pos rfl] at hnew
          cases hnew
          exact (removed_applyAll _ _).trans rfl
        generalize (({ m with line.ledger := ledger } : Master).operate productId
          (.recordSensor 1 message.eventId message.estimatedStep)).2.emitLogEvent = k
          at hadmitted hlive ⊢
        split
        · have hdeferred := (hadmitted.deferStationStart (productId, .a)).place d.unplaced
            (.inr rfl) (.inl List.mem_insert_self)
          split
          · exact hdeferred.manualPause hs _
          · exact hdeferred
        · exact hadmitted.startStationCycle hs productId _ .a hlive
            (hpaid ▸ List.not_mem_nil) d.unplaced (.inr ⟨rfl, fun hb => by cases hb⟩)

/-- A flipped product comes to Station B, or passes it. -/
theorem Evolves.handleSensor2Entry (hs : Settles stopped) (h : Evolves a m d)
    (hpaid : d.unresumed = []) (message : SensorEvent) :
    Evolves a (m.handleSensor2Entry stopped message) d := by
  simp only [Master.handleSensor2Entry]
  split
  · exact h
  · rename_i hsensed
    obtain ⟨hbefore, hw⟩ := before_run_of_sensed hsensed
    split
    · exact h.faultStop hs _ (List.Subset.refl _)
    · rename_i context hcontext
      obtain ⟨hproduct, hlive, hflipping⟩ := ProductLedger.oldest_waits hcontext
      simp only [Master.operate]
      split
      · rename_i exc n heq
        obtain ⟨hexc, rfl⟩ := Prod.mk.inj heq
        exact Evolves.faultStop hs (h.raised hexc (by simp)) _ (List.Subset.refl _)
      · rename_i reply n heq
        obtain ⟨_, rfl⟩ := Prod.mk.inj heq
        have hentered : Evolves a (({ m with line.ledger := (m.line.ledger.operate
            context.productId (.acceptSensor2 message.eventId message.estimatedStep)).2 } :
            Master).emitLogEvent)
            { d with unplaced := (context.productId, .b) :: d.unplaced } := by
          refine Evolves.emitLogEvent ?_
          exact h.step hw (.inl hbefore) (.enterB _ message.eventId message.estimatedStep)
        have hafter : (({ m with line.ledger := (m.line.ledger.operate context.productId
            (.acceptSensor2 message.eventId message.estimatedStep)).2 } :
            Master).emitLogEvent).line.product? context.productId = some
            ((ContextOp.acceptSensor2 message.eventId message.estimatedStep).apply context).2 := by
          rw [toSupervision_emitLogEvent]
          exact product?_operate hproduct _
        have hkept := ContextOp.apply_same_identity
          (.acceptSensor2 message.eventId message.estimatedStep) context
        have heffect := ContextOp.enter_effect context message.eventId message.estimatedStep
        generalize ((ContextOp.acceptSensor2 message.eventId
          message.estimatedStep).apply context).2 = entered at hafter hkept heffect
        generalize ({ m with line.ledger := (m.line.ledger.operate context.productId
          (.acceptSensor2 message.eventId message.estimatedStep)).2 } : Master).emitLogEvent = k
          at hentered hafter ⊢
        have hget : k.line.ledger.getById context.productId = some entered := hafter
        have hstays : ∀ c, k.line.ledger.get context.productId context.fifoSequence = some c →
            c.removed = false := by
          intro c hc
          cases hafter.symm.trans (product?_of_get hc)
          exact hkept.removed.trans hlive
        simp only [hget, Option.any_some, decide_eq_true_eq]
        have hplaced : entered.physicalState ≠ .stationBWait → Evolves a k d := by
          intro hne
          refine hentered.place d.unplaced (.inr rfl) (.inr (.inr fun c hc => ?_))
          cases hafter.symm.trans hc
          exact hne
        split
        · rename_i hpassed
          exact (hplaced (by simp [hpassed])).emitLogEvent
        · rename_i hpassed
          rcases heffect with hsame | ⟨_, _, ⟨hpast, _⟩ | ⟨_, _, hskip, _⟩⟩
          · have hne : entered.physicalState ≠ .stationBWait := by simp [hsame, hflipping]
            exact (hplaced hne).startStationCycle hs _ _ .b hstays (hpaid ▸ List.not_mem_nil)
              d.unplaced (.inl rfl)
          · exact absurd hpast hpassed
          · refine hentered.startStationCycle hs _ _ .b hstays (hpaid ▸ List.not_mem_nil)
              d.unplaced (.inr ⟨rfl, fun _ c hc => ?_⟩)
            cases hafter.symm.trans hc
            exact hskip

/-! ### The lock -/

theorem toSupervision_acceptLocked (hs : Settles stopped) (locked : LockedProduct)
    (h : Evolves a m d) : Evolves a (m.acceptLocked stopped locked) d ∧
      (m.acceptLocked stopped locked).line = m.line := by
  unfold Master.acceptLocked
  split
  · exact ⟨h.faultStop hs _ (List.Subset.refl _), line_faultStop hs _ _⟩
  · have hsame := toSupervision_foldl (f := fun (m : Master) ready =>
      ({ m with outbox.lockedResults := ready :: m.outbox.lockedResults } : Master).emitLogEvent)
      (fun k ready => toSupervision_emitLogEvent _)
    exact ⟨h.quiet (hsame _ _), by rw [hsame]⟩

theorem Evolves.handleSensor3Entry (hs : Settles stopped) (h : Evolves a m d)
    (message : SensorEvent) : Evolves a (m.handleSensor3Entry stopped message) d := by
  simp only [Master.handleSensor3Entry]
  split
  · exact h
  · rename_i hsensed
    obtain ⟨hbefore, hw⟩ := before_run_of_sensed hsensed
    split
    · exact h.faultStop hs _ (List.Subset.refl _)
    · rename_i context hcontext
      obtain ⟨hproduct, hlive, _⟩ := ProductLedger.oldest_waits hcontext
      have hlocked : Evolves a (m.operate context.productId
          (.lockAtSensor3 message.eventId message.estimatedStep)).2
          { d with unscheduled := context.productId :: d.unscheduled } :=
        h.step hw (.inl hbefore) (.lock _ message.eventId message.estimatedStep)
      simp only [Master.operate] at hlocked ⊢
      split
      · rename_i locked n heq
        obtain ⟨hreply, rfl⟩ := Prod.mk.inj heq
        obtain ⟨_, hown, hlock⟩ := ContextOp.lock_reply (reply_of_operate hproduct hreply)
        cases hown
        have hid : locked.productId = context.productId := by
          rcases hlock with hbefore | rfl
          · exact h.line_occupied.locks _ _ _ hproduct hbefore
          · rfl
        have hafter : ∃ c, (({ m with line.ledger := (m.line.ledger.operate context.productId
            (.lockAtSensor3 message.eventId message.estimatedStep)).2 } :
            Master).publishInferenceCancellation context 0 .sensor3Locked
              "Sensor3 locked the product result").line.product? locked.productId = some c ∧
              c.removed = false := by
          rw [hid]
          exact ⟨_, product?_operate hproduct _,
            (ContextOp.apply_same_identity _ context).removed.trans hlive⟩
        obtain ⟨haccepted, hline⟩ := toSupervision_acceptLocked (m := ({ m with
          line.ledger := (m.line.ledger.operate context.productId
            (.lockAtSensor3 message.eventId message.estimatedStep)).2 } :
            Master).publishInferenceCancellation context 0 .sensor3Locked
              "Sensor3 locked the product result") hs locked (hlocked.quiet rfl)
        rw [← hline] at hafter
        generalize Master.acceptLocked stopped _ locked = k at haccepted hafter
        refine (haccepted.noteIf _ .scheduledActuation).scheduleActuation hs (working_late k rfl)
          locked (hid ▸ rfl) ?_
        rw [line_noteIf]
        exact hafter
      · rename_i exc n heq
        obtain ⟨hexc, rfl⟩ := Prod.mk.inj heq
        exact Evolves.faultStop hs (h.raised hexc (by simp)) _ (List.Subset.refl _)
      · rename_i reply n hother heq
        obtain ⟨hreply, rfl⟩ := Prod.mk.inj heq
        obtain ⟨locked, rfl, _⟩ := ContextOp.lock_reply (reply_of_operate hproduct hreply)
        exact absurd rfl (hother locked)

theorem Evolves.handleSensorEvent (hs : Settles stopped) (h : Evolves a m d)
    (hpaid : d.unresumed = []) (message : SensorEvent) :
    Evolves a (m.handleSensorEvent stopped message) d := by
  simp only [Master.handleSensorEvent]
  split
  · exact h
  · split
    · exact h
    · rename_i sensorIndex _
      have hsensed : ∀ sensorEvents, Evolves a { m with sensorEvents } d :=
        fun sensorEvents => h.move (.sense sensorEvents)
      split
      · exact hsensed _
      · split
        · exact hsensed _
        · split
          · exact (hsensed _).handleSensor1Entry hs hpaid message
          · exact (hsensed _).handleSensor2Entry hs hpaid message
          · exact (hsensed _).handleSensor3Entry hs message
      · exact (hsensed _).faultStop hs _ (List.Subset.refl _)

/-! ### Equipment -/

theorem Evolves.updateEquipmentSnapshot (hs : Settles stopped) (h : Evolves a m d)
    (u : EquipmentUpdate) : Evolves a (m.updateEquipmentSnapshot stopped u) d := by
  simp only [Master.updateEquipmentSnapshot]
  split
  · exact h.reportEstopAsserted hs _ ⟨rfl, rfl⟩
  · rename_i hestop
    refine h.move (.report _ ⟨rfl, rfl⟩ fun hasserted => ?_)
    change u.estopAsserted.getD m.equipment.estopAsserted = true at hasserted
    cases hu : u.estopAsserted with
    | none => simpa [hu] using hasserted
    | some asserted =>
      rw [hu] at hasserted hestop
      exact absurd (congrArg some hasserted) hestop

theorem Evolves.confirmPendingResume (hs : Settles stopped) (h : Evolves a m d)
    (hpaid : d.unresumed = []) (conveyor : ConveyorId) :
    Evolves a (m.confirmPendingResume stopped conveyor) d := by
  refine h.foldl (fun k item hk => ?_) _
  obtain ⟨s, cycle⟩ := item
  simp only
  split
  · exact hk.confirmConveyorResumed hs _ _ (hpaid ▸ List.not_mem_nil)
  · exact hk

theorem Evolves.handleEquipmentState (hs : Settles stopped) (h : Evolves a m d)
    (hpaid : d.unresumed = []) (message : EquipmentState) :
    Evolves a (m.handleEquipmentState stopped message) d := by
  have hresume : ∀ (started : Bool) (conveyor : ConveyorId) (k : Master), Evolves a k d →
      Evolves a (if started then k.confirmPendingResume stopped conveyor else k) d := by
    intro started conveyor k hk
    split
    · exact hk.confirmPendingResume hs hpaid conveyor
    · exact hk
  have hrun : ∀ k : Master, Evolves a k d →
      Evolves a (if k.pendingRunConfirmation && k.equipment.allConveyorsRunning then
        (k.confirmAllConveyorsRunning stopped).2 else k) d := by
    intro k hk
    split
    · exact hk.confirmAllConveyorsRunning hs hpaid
    · exact hk
  have hstop : ∀ k : Master, Evolves a k d →
      Evolves a (if k.equipment.allConveyorsStopped then k.confirmAllConveyorsStopped stopped
        else k) d := by
    intro k hk
    split
    · exact hk.confirmAllConveyorsStopped hs (.inl hpaid)
    · exact hk
  have hreset : ∀ k : Master, Evolves a k d →
      Evolves a (if k.systemState = .resetting ∧ k.resetGuardsSatisfied then
        (k.confirmResetCompleted stopped).2 else k) d := by
    intro k hk
    split
    · exact hk.confirmResetCompleted hs hpaid
    · exact hk
  simp only [Master.handleEquipmentState]
  split
  · exact h
  · exact hreset _ (hstop _ (hrun _ (hresume _ _ _ (hresume _ _ _
      (h.updateEquipmentSnapshot hs message.update)))))

/-! ### The queue -/

def restartDeadline (m : Master) : StationId × StationCycle → Master := fun (_, cycle) =>
  if cycle.phase = .waitingCaptureResult ∧ cycle.deadlineNs = 0 then
    m.setStationCycle { cycle with deadlineNs := m.nowNs + fromMs m.config.captureTimeoutMs }
  else m

theorem Evolves.restartCaptureDeadlines (h : Evolves a m d) (hstate : m.systemState ≠ .faultStop) :
    Evolves a m.restartCaptureDeadlines d := by
  have hloop : ∀ (items : List (StationId × StationCycle)) (k : Master), Evolves a k d →
      k.systemState ≠ .faultStop → (items.map Prod.fst).Nodup →
      (∀ s cycle, (s, cycle) ∈ items → k.line.stationCycles.get? s = some cycle) →
      Evolves a (items.foldl restartDeadline k) d := by
    intro items
    induction items with
    | nil => exact fun k hk _ _ _ => hk
    | cons item rest ih =>
      intro k hk hworking hnodup hitems
      obtain ⟨s, cycle⟩ := item
      have hget := hitems s cycle List.mem_cons_self
      have hstation : cycle.stationId = s := k.line.stationCycles.keyed s cycle hget
      rw [List.foldl_cons]
      simp only [restartDeadline]
      split
      · rename_i hdisabled
        have hphase : cycle.phase ≠ .resumePending := by simp [hdisabled.1]
        have hdeadline := deadline_set k (timeout_bound k k.config.captureTimeoutMs
          (by simp))
        refine ih _ (hk.rewatch _ (.inl hworking) hget ⟨rfl, rfl, rfl⟩
          (.inr ⟨hphase, .inl hphase, .inr hdeadline⟩)) hworking (List.nodup_cons.mp hnodup).2
          fun t other hmem => ?_
        have hne : t ≠ s := by
          rintro rfl
          exact (List.nodup_cons.mp hnodup).1 (List.mem_map.mpr ⟨_, hmem, rfl⟩)
        refine (get?_set_of_ne ?_ hne).trans (hitems t other (List.mem_cons_of_mem _ hmem))
        exact hstation
      · exact ih k hk hworking (List.nodup_cons.mp hnodup).2
          fun t other hmem => hitems t other (List.mem_cons_of_mem _ hmem)
  exact hloop _ m h hstate m.line.stationCycles.entries.nodup
    fun s cycle hmem => OrderedDict.get?_eq_some.mpr hmem

theorem Evolves.handleQueueState (hs : Settles stopped) (h : Evolves a m d)
    (hpaid : d.unresumed = []) (sessionId : String) (state : ℕ) (blockedFrameBatchId : String) :
    Evolves a (m.handleQueueState stopped sessionId state blockedFrameBatchId) d := by
  simp only [Master.handleQueueState]
  split
  · exact h
  · split
    · exact h
    · rename_i hstate
      split
      · split
        · exact h
        · exact h.blockQueue hs hpaid _
      · split
        · have hrecovered : Evolves a { m with queueRecoveredPending := true } d :=
            h.move .recoverQueue
          have hrestarted := hrecovered.restartCaptureDeadlines hstate
          split
          · exact hrestarted.resumeAfterQueueRecovery hs hpaid
          · exact hrestarted
        · exact h

/-! ### Operator and shutdown -/

theorem Evolves.requestInitialize (h : Evolves a m d) (reason : String) :
    Evolves a (m.requestInitialize reason).2 d := by
  simp only [Master.requestInitialize]
  split
  · exact h
  · rename_i n hm
    exact (h.transit hm rfl (by simp)).startWorkerInitialization

/-- Every command but the confirmation of the empty line makes moves. -/
theorem Evolves.operatorHandler (hs : Settles stopped) (h : Evolves a m d)
    (hpaid : d.unresumed = []) {request : OperatorRequest} {reason : String} {accepted : Bool}
    (hrun : m.operatorHandler stopped request reason = some (accepted, n))
    (hconfirm : request.commandType ≠ 6) : Evolves a n d := by
  have hanswer : ∀ r : Bool × Master, Evolves a r.2 d → some r = some (accepted, n) →
      Evolves a n d := by
    intro r hr heq
    rw [Option.some.inj heq] at hr
    exact hr
  unfold Master.operatorHandler at hrun
  split at hrun
  · exact hanswer _ (h.requestInitialize reason) hrun
  · exact hanswer _ (h.requestRun hs hpaid reason) hrun
  · exact hanswer _ (h.requestPause hs reason) hrun
  · refine hanswer _ ?_ hrun
    have hresumed := h.requestResume hs hpaid reason false
    simpa using hresumed
  · exact hanswer _ (h.requestReset hs hpaid reason) hrun
  · exact absurd ‹_› hconfirm
  · cases hrun

theorem Evolves.requestAllConveyorsStop (hs : Settles stopped) (h : Evolves a m d)
    (hr : MayResume m d) (reason : String) :
    Evolves a (m.requestAllConveyorsStop stopped reason) d := by
  obtain ⟨k, hk, hsame, hstopped⟩ := request_stop_cases stopped m reason
  have hpublished : Evolves a k d := by
    refine h.move ?_
    rw [hk]
    exact .publish reason (.inl (by simp [systemCommand, CommandType.raw]))
  rcases hstopped with hstopped | hstopped
  · rw [hstopped]
    refine hs.evolves hpublished ?_
    rw [MayResume, hsame]
    exact hr
  · rw [hstopped]
    exact hpublished

theorem Evolves.beginShutdownSequence (hs : Settles stopped) (h : Evolves a m d)
    (hpaid : d.unresumed = []) : Evolves a (m.beginShutdownSequence stopped) d := by
  have hwaiting : Evolves a m.awaitShutdownStop d := h.quiet rfl
  unfold Master.beginShutdownSequence
  split
  · exact h
  · split
    · have hpaused := hwaiting.requestPause hs "shutdown safe stop"
      split
      · rename_i n heq
        rw [heq] at hpaused
        exact hpaused
      · rename_i n heq
        rw [heq] at hpaused
        exact hpaused.quiet rfl
    · split
      · exact hwaiting.requestAllConveyorsStop hs (.inl hpaid) _
      · split
        · exact hwaiting.requestAllConveyorsStop hs (.inl hpaid) _
        · exact h.finalizeShutdownSequence hs

theorem Evolves.requestShutdown (hs : Settles stopped) (h : Evolves a m d)
    (hpaid : d.unresumed = []) : Evolves a (m.requestShutdown stopped) d := by
  simp only [Master.requestShutdown]
  split
  · exact h
  · exact Evolves.beginShutdownSequence hs (h.quiet rfl) hpaid

/-! ### Deadlines -/

theorem Evolves.pruneContexts (h : Evolves a m d) : Evolves a m.pruneContexts d := by
  simp only [Master.pruneContexts]
  split
  · exact h
  · exact h.move (.prune _)

theorem Evolves.checkPauseDeadline (hs : Settles stopped) (h : Evolves a m d) :
    Evolves a (m.checkPauseDeadline stopped) d := by
  simp only [Master.checkPauseDeadline]
  split
  · rename_i hdue
    have hcleared : Evolves a { m with pauseDeadlineNs := 0 } d := h.quiet rfl
    exact hcleared.reportPauseFailed hs hdue.2 _
  · exact h

theorem Evolves.checkRunDeadline (h : Evolves a m d) : Evolves a m.checkRunDeadline d := by
  simp only [Master.checkRunDeadline]
  split
  · have hcleared : Evolves a { m with runConfirmationDeadlineNs := 0 } d := h.quiet rfl
    exact hcleared.reportRunFailed _
  · exact h

theorem Evolves.checkShutdownDeadline (hs : Settles stopped) (h : Evolves a m d) :
    Evolves a (m.checkShutdownDeadline stopped) d := by
  simp only [Master.checkShutdownDeadline]
  split
  · have hblocked : Evolves a { m with shutdownDeadlineNs := 0, shutdownPhase := .blocked } d :=
      h.quiet rfl
    exact hblocked.reportEquipmentCheck hs _
  · exact h

/-- A station cycle whose deadline is disabled gets a new one, starts over or stays watched. -/
theorem Evolves.expireStationCycle (hs : Settles stopped) (h : Evolves a m d)
    (hpaid : d.unresumed = []) (hblocked : d.blocked = false) (s : StationId) :
    Evolves a (m.expireStationCycle stopped s) d := by
  unfold Master.expireStationCycle
  split
  · exact h
  · rename_i cycle hget
    split
    · exact h
    · have hstation : cycle.stationId = s := m.line.stationCycles.keyed s cycle hget
      have hnoted := h.noteIf (m.systemState = .faultStop) .expiredCycle
      have hworking := working_late m (x := .expiredCycle) rfl
      have hline := line_noteIf m (m.systemState = .faultStop) .expiredCycle
      generalize m.noteIf (m.systemState = .faultStop) .expiredCycle = k at hnoted hworking hline ⊢
      rw [← hline] at hget
      have hexpired : Evolves a (k.setStationCycle { cycle with deadlineNs := 0 })
          { d with expiring := s :: d.expiring } :=
        hnoted.step hworking (.inr (nothing_enters_set hget hstation)) (.expire hget)
      have hset : (k.setStationCycle { cycle with deadlineNs := 0 }).line.stationCycles.get? s =
          some { cycle with deadlineNs := 0 } := get?_set_self hstation
      simp only
      generalize k.setStationCycle { cycle with deadlineNs := 0 } = j at hexpired hset ⊢
      have hphase : cycle.phase ≠ .resumePending → ∀ other,
          j.line.stationCycles.get? s = some other → other.phase ≠ .resumePending := by
        intro hne other hother
        cases hset.symm.trans hother
        exact hne
      have hcapture : cycle.phase ≠ .resumePending → Evolves a (if j.pausedByQueue then j else
          (cycle.captureGoalHandle.elim j j.cancelGoal).finishCaptureFailure stopped s
            "CaptureProduct timed out") d := by
        intro hne
        split
        · rename_i hpaused
          exact hexpired.move (.unexpire d.expiring rfl fun other hother =>
            ⟨hphase hne other hother, .inr ⟨hpaused, hblocked⟩⟩)
        · have hcanceled := toSupervision_elim_cancelGoal j cycle.captureGoalHandle
          refine Evolves.finishCaptureFailure hs (hexpired.quiet hcanceled) hpaid s _ _ d.expiring
            (.inr ⟨rfl, ?_⟩)
          rw [hcanceled]
          exact hphase hne
      split
      · exact hcapture (by simp [*])
      · exact hcapture (by simp [*])
      · rename_i hwaiting
        split
        · exact hexpired.pauseStationForRecovery hs hpaid s _ d.expiring
            (.inr ⟨rfl, hphase (by simp [hwaiting])⟩)
        · exact hexpired.faultStop hs _ (List.Subset.refl _)
      · rename_i hpending
        refine Evolves.manualPause hs ((hexpired.deferCaptureResume
          (cycle.productId, s)).unexpire (s := s) d.expiring (.inr rfl) fun other hother => ?_) _
        cases hset.symm.trans hother
        exact ⟨hpending, .inr List.mem_insert_self⟩

theorem Evolves.expireActuationCycle (hs : Settles stopped) (h : Evolves a m d)
    (actuatorJobId : String) : Evolves a (m.expireActuationCycle stopped actuatorJobId) d := by
  unfold Master.expireActuationCycle
  split
  · exact h
  · rename_i cycle hget
    split
    · exact h
    · have hnoted := h.noteIf (m.systemState = .faultStop) .expiredCycle
      have hworking := working_late m (x := .expiredCycle) rfl
      have hline := line_noteIf m (m.systemState = .faultStop) .expiredCycle
      generalize m.noteIf (m.systemState = .faultStop) .expiredCycle = k at hnoted hworking hline ⊢
      rw [← hline] at hget
      have hset : Evolves a (k.setActuationCycle { cycle with deadlineNs := 0 }) d :=
        hnoted.reactuate _ hworking hget ⟨rfl, rfl⟩
      simp only
      split
      · exact hset.faultStop hs _ (List.Subset.refl _)
      · exact hset.manualPause hs _
      · exact hset

theorem Evolves.checkOperationDeadlines (hs : Settles stopped) (h : Evolves a m d)
    (hpaid : d.unresumed = []) (hblocked : d.blocked = false) :
    Evolves a (m.checkOperationDeadlines stopped) d := by
  have hchecked :=
    (((h.pruneContexts).checkPauseDeadline hs).checkRunDeadline).checkShutdownDeadline hs
  simp only [Master.checkOperationDeadlines]
  split
  · exact hchecked
  · refine Evolves.foldl (fun _ job hk => hk.expireActuationCycle hs job) _ ?_
    exact hchecked.foldl (fun _ s hk => hk.expireStationCycle hs hpaid hblocked s) _

/-! ### Replay -/

theorem toSupervision_requestStationResultReplay (m : Master) :
    m.requestStationResultReplay.toSupervision = m.toSupervision := by
  simp only [Master.requestStationResultReplay]
  (repeat' split) <;> rfl

theorem Evolves.handleStationResultReplay (hs : Settles stopped) (h : Evolves a m d)
    (hpaid : d.unresumed = []) (generation : ℕ) (response : Except String ReplayResponse) :
    Evolves a (m.handleStationResultReplay stopped generation response) d := by
  have hanswered : Evolves a { m with stationReplayInflight := false } d := h.quiet rfl
  simp only [Master.handleStationResultReplay]
  split
  · exact hanswered
  · split
    · exact hanswered
    · rename_i response
      split
      · exact hanswered
      · have hresults := hanswered.foldl (fun _ (message : StationResultMessage) hk =>
          hk.handleStationResult hs hpaid message.sessionId message.facts) response.results
        have hfailures := hresults.foldl (fun _ (message : StationFailureMessage) hk =>
          hk.handleStationFailure hs hpaid message.sessionId message.facts message.errorCode
            message.reason) response.failures
        generalize response.failures.foldl _ _ = k at hfailures ⊢
        have hmoved : Evolves a { k with stationReplayOffset := response.nextOffset } d :=
          hfailures.quiet rfl
        split
        · exact hmoved
        · exact Evolves.emitLogEvent (hmoved.quiet rfl)

end Master

end InspectionLine
