import InspectionLine.MasterHandlers
import InspectionLine.LineOccupancy

/-! # Master is built from the moves of supervision

Every function of Master only makes moves of the abstract machine. The lemmas follow the
functions; each one extends a chain of moves by those of one call, and says what debt the call
leaves behind. -/
namespace InspectionLine

open Supervision PhysicalLine

namespace Master

structure Evolves (a : Supervision × Debt) (m : Master) (d : Debt) : Prop where
  occupied : a.1.line.Occupied
  moves : Moves a (m.toSupervision, d)

/-- No resume is owed, or a confirmed stop will not lead to an automatic one. -/
def MayResume (m : Master) (d : Debt) : Prop :=
  d.unresumed = [] ∨ m.pauseReason ≠ some .deviceRecoveryAuto

/-- What is assumed of the treatment of a confirmed stop: it makes moves, and in FAULT_STOP it
only notes that the conveyors have stopped. -/
structure Settles (stopped : Master → Master) : Prop where
  evolves : ∀ {a m d}, Evolves a m d → MayResume m d → Evolves a (stopped m) d
  quiet : ∀ {m}, m.systemState = .faultStop → ∃ equipment,
    KeepsConfirmation m.equipment equipment ∧
      equipment.estopAsserted = m.equipment.estopAsserted ∧
      (stopped m).toSupervision = { m.toSupervision with equipment }

/-! ### Updates outside supervision -/

@[simp] theorem toSupervision_emitLogEvent (m : Master) :
    m.emitLogEvent.toSupervision = m.toSupervision := by
  unfold emitLogEvent
  split <;> rfl

@[simp] theorem pauseReason_emitLogEvent (m : Master) :
    m.emitLogEvent.pauseReason = m.pauseReason := by
  unfold emitLogEvent
  split <;> rfl

@[simp] theorem toSupervision_cancelGoal (m : Master) (handle : GoalHandle) :
    (m.cancelGoal handle).toSupervision = m.toSupervision := rfl

@[simp] theorem toSupervision_elim_cancelGoal (m : Master) (handle : Option GoalHandle) :
    (handle.elim m m.cancelGoal).toSupervision = m.toSupervision := by
  cases handle <;> rfl

/-- A loop whose every round leaves supervision alone leaves it alone. -/
theorem toSupervision_foldl {β : Type} {f : Master → β → Master}
    (hf : ∀ m b, (f m b).toSupervision = m.toSupervision) (l : List β) (m : Master) :
    (l.foldl f m).toSupervision = m.toSupervision := by
  induction l generalizing m with
  | nil => rfl
  | cons b l ih => exact (ih (f m b)).trans (hf m b)

@[simp] theorem toSupervision_cancelTrackedOperationGoals (m : Master) (includeActuation : Bool) :
    (m.cancelTrackedOperationGoals includeActuation).toSupervision = m.toSupervision :=
  toSupervision_foldl (f := cancelGoal) (fun _ _ => rfl) _ _

theorem ignored_of_some {m n : Master} (h : m.ignoreOperationWhileFaultStopped = some n) :
    m.systemState = .faultStop ∧ n.toSupervision = m.toSupervision := by
  unfold ignoreOperationWhileFaultStopped at h
  split at h
  · cases h
  · rename_i hstate
    cases h
    exact ⟨not_not.mp hstate, toSupervision_emitLogEvent m⟩

theorem working_of_none {m : Master} (h : m.ignoreOperationWhileFaultStopped = none) :
    MayWork m.toSupervision := by
  unfold ignoreOperationWhileFaultStopped at h
  split at h
  · exact .inl ‹_›
  · cases h

/-! ### The single moves -/

variable {a : Supervision × Debt} {m n : Master} {d e : Debt} {stopped : Master → Master}

theorem Evolves.line_occupied (h : Evolves a m d) : m.line.Occupied :=
  occupied_moves h.occupied h.moves

theorem Evolves.quiet (h : Evolves a m d) (hq : n.toSupervision = m.toSupervision) :
    Evolves a n d := ⟨h.occupied, hq ▸ h.moves⟩

theorem Evolves.emitLogEvent (h : Evolves a m d) : Evolves a m.emitLogEvent d :=
  h.quiet (toSupervision_emitLogEvent m)

theorem Evolves.move (h : Evolves a m d) (hm : Move (m.toSupervision, d) (n.toSupervision, e)) :
    Evolves a n e := ⟨h.occupied, h.moves.tail hm⟩

theorem Evolves.foldl {β : Type} {f : Master → β → Master}
    (hf : ∀ m b, Evolves a m d → Evolves a (f m b) d) (l : List β)
    (h : Evolves a m d) : Evolves a (l.foldl f m) d := by
  induction l generalizing m with
  | nil => exact h
  | cons b l ih => exact ih (hf m b h)

theorem Evolves.newUuid (h : Evolves a m d) : Evolves a m.newUuid.2 d := h.move .draw

theorem Evolves.owe (h : Evolves a m d) (hw : d.Within e) : Evolves a m e := h.move (.owe hw)

theorem Evolves.pay (h : Evolves a m d)
    (hp : Discharge m.config (Noted m.toSupervision .unskipped) m.line d e) : Evolves a m e :=
  h.move (.discharge hp)

theorem Evolves.noteIf (h : Evolves a m d) (lapsed : Bool) (x : Lapse) :
    Evolves a (m.noteIf lapsed x) d := by
  cases lapsed with
  | false => exact h
  | true => exact h.move (.lapse x)

theorem noted_noteIf (m : Master) (x : Lapse) : Noted (m.noteIf true x).toSupervision x :=
  List.mem_cons_self

@[simp] theorem line_noteIf (m : Master) (lapsed : Bool) (x : Lapse) :
    (m.noteIf lapsed x).line = m.line := by cases lapsed <;> rfl

theorem working_noteIf (hw : MayWork m.toSupervision) (lapsed : Bool) (x : Lapse) :
    MayWork (m.noteIf lapsed x).toSupervision := by
  cases lapsed with
  | false => exact hw
  | true => exact hw.imp_right fun ⟨y, hy, hlate⟩ => ⟨y, List.mem_cons_of_mem _ hy, hlate⟩

theorem unblocked_within (d : Debt) : Debt.Within { d with blocked := false } d :=
  ⟨⟨List.Subset.refl _, rfl, List.Subset.refl _, List.Subset.refl _⟩, List.Subset.refl _,
    fun h => by cases h⟩

/-- Work after a fault that the handler has raised itself is a lapse. -/
theorem working_late (m : Master) {x : Lapse} (hx : x.late = true) :
    MayWork (m.noteIf (decide (m.systemState = .faultStop)) x).toSupervision := by
  by_cases hstate : m.systemState = .faultStop
  · rw [decide_eq_true hstate]
    exact .inr ⟨x, noted_noteIf m x, hx⟩
  · rw [decide_eq_false hstate]
    exact .inl hstate

theorem working_emitLogEvent (hw : MayWork m.toSupervision) :
    MayWork m.emitLogEvent.toSupervision := by
  rw [toSupervision_emitLogEvent]
  exact hw

theorem Evolves.sendGoal (h : Evolves a m d) (hw : MayWork m.toSupervision)
    (goal : OperationGoal) : Evolves a (m.sendGoal goal) d := h.move (.send goal hw)

theorem Evolves.publish (h : Evolves a m d) (commandType : CommandType) (reason : String)
    (target : ℕ) (hsafe : Safe m.toSupervision (m.systemCommand commandType reason target)) :
    Evolves a (m.publishSystemCommand commandType reason target) d :=
  h.move (.publish reason hsafe)

/-! ### Steps of the line -/

theorem nothing_enters_operate (line : PhysicalLine) (p : String) (op : ContextOp) :
    NothingEnters line (line.operate p op) := by
  have hactive : (line.operate p op).ledger.active = line.ledger.active :=
    (line.operateAll_frame p [op]).2.2.2.2
  exact ⟨fun _ h => h, hactive ▸ List.Subset.refl _⟩

theorem nothing_enters_set {line : PhysicalLine} {s : StationId} {cycle next : StationCycle}
    {starts resumes : List Scope} (h : line.stationCycles.get? s = some cycle)
    (hs : next.stationId = s) : NothingEnters line { line with
      stationCycles := line.stationCycles.set next
      deferredStationStarts := starts
      deferredCaptureResumes := resumes } := by
  refine ⟨fun t ht => ?_, List.Subset.refl _⟩
  rw [StationCycles.get?_set, if_neg, ht]
  rintro rfl
  rw [hs, h] at ht
  cases ht

/-- A step of the line that issues no identifier. -/
theorem Evolves.step {line : PhysicalLine} (h : Evolves a m d) (hw : MayWork m.toSupervision)
    (hk : BeforeRun m.systemState = false ∨ NothingEnters m.line line)
    (hstep : LineStep m.config (Noted m.toSupervision .staleReply)
      (Noted m.toSupervision .unskipped) (Noted m.toSupervision .reactuated)
      ⟨m.line, m.uuidsIssued, d⟩ ⟨line, m.uuidsIssued, e⟩) :
    Evolves a { m with line } e := h.move (.work (.inl hw) hk hstep)

/-- A method that does not judge spares every product. -/
theorem spares_of_fair {op : ContextOp} (hop : op.judges = false) (line : PhysicalLine)
    (config : MasterConfig) (excused : Prop) (p : String) :
    line.Spares config excused p [op] := by
  intro _ c _ hcondemned
  refine .inl ((ContextOp.condemned_effect hcondemned).resolve_right fun hcondemns => ?_)
  rw [ContextOp.judges_of_condemns hcondemns] at hop
  cases hop

theorem Evolves.revise (op : ContextOp) (h : Evolves a m d) (hw : MayWork m.toSupervision)
    (p : String) (quiet : op.quiet = true) (hop : op.judges = false) :
    Evolves a (m.operate p op).2 d :=
  h.step hw (.inr (nothing_enters_operate _ _ _)) (.revise p op quiet (spares_of_fair hop _ _ _ _))

theorem Evolves.condemn (op : ContextOp) (h : Evolves a m d) (hw : MayWork m.toSupervision)
    (p : String) (quiet : op.quiet = true) :
    Evolves a (m.operate p op).2 { d with unskipped := p :: d.unskipped } :=
  h.step hw (.inr (nothing_enters_operate _ _ _)) (.condemn p op quiet)

theorem Evolves.deferStationStart (h : Evolves a m d) (scope : Scope) :
    Evolves a (m.deferStationStart scope) d :=
  h.move (.work (.inr ⟨rfl, rfl, rfl⟩) (.inr ⟨fun _ hs => hs, List.Subset.refl _⟩)
    (.deferStart scope))

theorem Evolves.deferCaptureResume (h : Evolves a m d) (scope : Scope) :
    Evolves a (m.deferCaptureResume scope) d :=
  h.move (.work (.inr ⟨rfl, rfl, rfl⟩) (.inr ⟨fun _ hs => hs, List.Subset.refl _⟩)
    (.deferResume scope))

theorem Evolves.rewatch (next : StationCycle) {s : StationId} {cycle : StationCycle}
    (h : Evolves a m d) (hw : MayWork m.toSupervision)
    (cycleAt : m.line.stationCycles.get? s = some cycle) (same : next.SameProduct cycle)
    (phase : next.phase = cycle.phase ∧ next.deadlineNs = cycle.deadlineNs ∨
      next.phase ≠ .resumePending ∧
        (cycle.phase ≠ .resumePending ∨ Noted m.toSupervision .staleReply) ∧
        (next.deadlineNs = cycle.deadlineNs ∨ next.deadlineNs ≠ 0)) :
    Evolves a (m.setStationCycle next) d := by
  have hstation : next.stationId = s := same.1.trans (m.line.stationCycles.keyed s cycle cycleAt)
  exact h.step hw (.inr (nothing_enters_set cycleAt hstation)) (.rewatch cycleAt same phase)

theorem Evolves.reactuate (next : ActuationCycle) {job : String} {cycle : ActuationCycle}
    (h : Evolves a m d) (hw : MayWork m.toSupervision)
    (cycleAt : m.line.actuationCycles.get? job = some cycle)
    (same : next.productId = cycle.productId ∧ next.actuatorJobId = cycle.actuatorJobId) :
    Evolves a (m.setActuationCycle next) d := by
  have hkey : next.actuatorJobId = job :=
    same.2.trans (h.line_occupied.jobs job cycle cycleAt).1
  subst hkey
  exact h.step hw (.inr ⟨fun _ hs => hs, List.Subset.refl _⟩) (.reactuate cycleAt same)

/-! ### Transitions -/

theorem apply_system_event_spec {event : SystemEvent} {reason : String}
    (h : m.applySystemEvent event reason = some n) :
    ∃ t, t.event = event ∧ Accepts m.toSupervision t ∧ n.toSupervision =
      m.toSupervision.enter t ⟨m.startGuardsSatisfied, m.verifyResumeConditions⟩ := by
  obtain ⟨t, ht, rfl⟩ := Option.map_eq_some_iff.mp h
  obtain ⟨hprevious, hevent, hafter⟩ := decide_system_transition_spec ht
  refine ⟨t, hevent, ⟨hprevious, hevent ▸ hafter⟩, ?_⟩
  simp only [onSystemStateEntered, toSupervision_emitLogEvent]
  split <;> rfl

theorem pauseReason_applySystemEvent {event : SystemEvent} {reason : String}
    (h : m.applySystemEvent event reason = some n) : n.pauseReason = m.pauseReason := by
  obtain ⟨t, _, rfl⟩ := Option.map_eq_some_iff.mp h
  simp only [onSystemStateEntered, pauseReason_emitLogEvent]
  split <;> rfl

theorem after_of_applied {event : SystemEvent} {reason : String}
    (h : m.applySystemEvent event reason = some n) :
    m.systemState.after event = some n.systemState := by
  obtain ⟨t, rfl, haccepted, hn⟩ := apply_system_event_spec h
  rw [haccepted.2, hn]
  rfl

theorem applies_fault (m : Master) {event : SystemEvent} (reason : String)
    (hevent : event = .criticalFault ∨ event = .estopAsserted) :
    ∃ n, m.applySystemEvent event reason = some n := by
  rcases hevent with rfl | rfl <;> exact ⟨_, rfl⟩

theorem state_after_fault {event : SystemEvent} {reason : String}
    (h : m.applySystemEvent event reason = some n)
    (hevent : event = .criticalFault ∨ event = .estopAsserted) : n.systemState = .faultStop := by
  have hafter := after_of_applied h
  rcases hevent with rfl | rfl <;>
    simpa [SystemState.after, faultRule, eq_comm] using hafter

theorem Evolves.transit {event : SystemEvent} {reason : String} (h : Evolves a m d)
    (hm : m.applySystemEvent event reason = some n) (hplain : Plain event = true)
    (hconfirmed : event = .resetRequest → m.recoveryPolicy = .lineClearRequired →
      m.equipment.lineClearConfirmed = true) : Evolves a n d := by
  obtain ⟨t, rfl, haccepted, hn⟩ := apply_system_event_spec hm
  refine h.move ?_
  rw [hn]
  exact .transit haccepted hplain hconfirmed

/-! ### Stopping and pausing -/

theorem stops_all (m : Master) (reason : String) :
    StopsAll (m.systemCommand .pause reason allConveyors) := ⟨rfl, rfl⟩

theorem runs_all (m : Master) (reason : String) :
    RunsAll (m.systemCommand .resume reason allConveyors) := ⟨rfl, rfl⟩

/-- A stop request publishes the stop, and in the sim profile confirms it. -/
theorem request_stop_cases (stopped : Master → Master) (m : Master) (reason : String) :
    ∃ k : Master, k.toSupervision = m.toSupervision.publish
        (m.systemCommand .pause reason allConveyors) reason ∧ k.pauseReason = m.pauseReason ∧
      (m.requestAllConveyorsStop stopped reason = stopped k ∨
        m.requestAllConveyorsStop stopped reason = k) := by
  simp only [Master.requestAllConveyorsStop]
  split <;> split
  · refine ⟨_, ?_, ?_, .inl rfl⟩ <;> rfl
  · refine ⟨_, ?_, ?_, .inr rfl⟩ <;> rfl
  · refine ⟨_, ?_, ?_, .inl rfl⟩ <;> rfl
  · refine ⟨_, ?_, ?_, .inr rfl⟩ <;> rfl

theorem stop_in_fault (hs : Settles stopped) (hstate : m.systemState = .faultStop)
    (reason : String) : ∃ equipment, KeepsConfirmation m.equipment equipment ∧
      equipment.estopAsserted = m.equipment.estopAsserted ∧
      (m.requestAllConveyorsStop stopped reason).toSupervision =
        { m.toSupervision.publish (m.systemCommand .pause reason allConveyors) reason with
          equipment } := by
  obtain ⟨k, hk, _, hstopped | hstopped⟩ := request_stop_cases stopped m reason
  · have hfault : k.systemState = .faultStop := by rw [hk]; exact hstate
    obtain ⟨equipment, hkept, hestop, hquiet⟩ := hs.quiet hfault
    refine ⟨equipment, ?_, ?_, ?_⟩
    · rw [hk] at hkept
      exact hkept
    · rw [hk] at hestop
      exact hestop
    · rw [hstopped, hquiet, hk]
  · exact ⟨m.equipment, ⟨rfl, rfl⟩, rfl, by rw [hstopped, hk]; rfl⟩

/-- After a fault the stop is confirmed at most on paper. -/
theorem Evolves.stopInFault (hs : Settles stopped) (hstate : m.systemState = .faultStop)
    (reason : String) {v : Supervision} (hv : v = m.toSupervision.publish
      (m.systemCommand .pause reason allConveyors) reason)
    (ho : a.1.line.Occupied) (h : Moves a (v, d)) :
    Evolves a (m.requestAllConveyorsStop stopped reason) d := by
  subst hv
  obtain ⟨equipment, hkept, hestop, hquiet⟩ := stop_in_fault hs hstate reason
  refine ⟨ho, ?_⟩
  rw [hquiet]
  exact h.tail (.report equipment hkept fun hasserted => hestop.symm.trans hasserted)

theorem Evolves.requestLineClear (h : Evolves a m d) (hidle : m.pendingRunConfirmation = false) :
    Evolves a m.requestLineClear d :=
  Evolves.emitLogEvent (h.move (n := { m with
    equipment := m.equipment.clearOperatorConfirmation }) (.clearConfirmation hidle))

/-- A fault that asks for a line clear leaves nothing owed but the skips. -/
theorem Evolves.faultStop (hs : Settles stopped) (h : Evolves a m d) (reason : String)
    (he : d.unskipped ⊆ e.unskipped) : Evolves a (m.faultStop stopped reason) e := by
  obtain ⟨n, hm⟩ := applies_fault ({ m with
    recoveryPolicy := .lineClearRequired, pendingRunConfirmation := false } : Master) reason
      (.inl rfl)
  obtain ⟨t, hevent, haccepted, hn⟩ := apply_system_event_spec hm
  have hstate := state_after_fault hm (.inl rfl)
  have hstopped : Evolves a (n.requestAllConveyorsStop stopped reason) e := by
    refine Evolves.stopInFault hs hstate reason rfl h.occupied (h.moves.tail ?_)
    rw [hn]
    exact .lineClearFault e haccepted hevent (stops_all n reason) he
  have hidle : (n.requestAllConveyorsStop stopped reason).pendingRunConfirmation = false := by
    obtain ⟨equipment, _, _, hquiet⟩ := stop_in_fault hs hstate reason
    rw [hquiet, hn]
    rfl
  have hfault : m.faultStop stopped reason =
      (n.requestAllConveyorsStop stopped reason).requestLineClear := by
    have hnote : m.noteIf (decide (RecoveryPolicy.lineClearRequired ≠ .lineClearRequired) &&
        lineClearLatched m.transitions) .weakenedLatch = m := rfl
    simp only [Master.faultStop, Master.reportCriticalFault, hnote, hm, if_true]
  rw [hfault]
  exact hstopped.requestLineClear hidle

theorem line_faultStop (hs : Settles stopped) (m : Master) (reason : String) :
    (m.faultStop stopped reason).line = m.line := by
  obtain ⟨n, hm⟩ := applies_fault ({ m with
    recoveryPolicy := .lineClearRequired, pendingRunConfirmation := false } : Master) reason
      (.inl rfl)
  obtain ⟨t, _, _, hn⟩ := apply_system_event_spec hm
  obtain ⟨equipment, _, _, hquiet⟩ := stop_in_fault hs (state_after_fault hm (.inl rfl)) reason
  have hnote : m.noteIf (decide (RecoveryPolicy.lineClearRequired ≠ .lineClearRequired) &&
      lineClearLatched m.transitions) .weakenedLatch = m := rfl
  simp only [Master.faultStop, Master.reportCriticalFault, hnote, hm, if_true,
    Master.requestLineClear, toSupervision_emitLogEvent, hquiet, hn]
  rfl

/-- The two faults whose policy is weaker than a line clear. -/
theorem Evolves.equipmentFault {event : SystemEvent} (hs : Settles stopped) (h : Evolves a m d)
    (reason : String) (equipment : EquipmentSnapshot)
    (hkept : KeepsConfirmation m.equipment equipment)
    (hunlatched : lineClearLatched m.transitions = false ∨
      Noted m.toSupervision .weakenedLatch)
    (hevent : event = .criticalFault ∨ event = .estopAsserted)
    (hm : ({ m with
      equipment
      recoveryPolicy := .equipmentCheckRequired
      pendingRunConfirmation := false } : Master).applySystemEvent event reason = some n) :
    Evolves a (n.requestAllConveyorsStop stopped reason) d := by
  obtain ⟨t, rfl, haccepted, hn⟩ := apply_system_event_spec hm
  refine Evolves.stopInFault hs (state_after_fault hm hevent) reason rfl h.occupied
    (h.moves.tail ?_)
  rw [hn]
  exact .equipmentFault equipment haccepted hevent hunlatched hkept (stops_all n reason)

/-- The latch is weakened only on record. -/
theorem unlatched_or_noted (m : Master) :
    lineClearLatched (m.noteIf (lineClearLatched m.transitions) .weakenedLatch).transitions =
        false ∨
      Noted (m.noteIf (lineClearLatched m.transitions) .weakenedLatch).toSupervision
        .weakenedLatch := by
  cases hl : lineClearLatched m.transitions with
  | false => exact .inl hl
  | true => exact .inr (noted_noteIf m _)

theorem Evolves.reportEstopAsserted (hs : Settles stopped) (h : Evolves a m d)
    (equipment : EquipmentSnapshot) (hkept : KeepsConfirmation m.equipment equipment) :
    Evolves a (({ m with equipment } : Master).reportEstopAsserted stopped).2 d := by
  have hnoted := h.noteIf (lineClearLatched m.transitions) .weakenedLatch
  have hunlatched := unlatched_or_noted m
  revert hnoted hunlatched
  simp only [Master.reportEstopAsserted]
  cases lineClearLatched m.transitions <;> intro hnoted hunlatched
  all_goals
    split
    · rename_i hnone
      simp [applySystemEvent, decideSystemTransition, faultRule] at hnone
    · rename_i n hm
      exact hnoted.equipmentFault hs _ equipment hkept hunlatched (.inr rfl) hm

theorem Evolves.reportEquipmentCheck (hs : Settles stopped) (h : Evolves a m d)
    (reason : String) :
    Evolves a (m.reportCriticalFault stopped reason .equipmentCheckRequired).2 d := by
  have hnoted := h.noteIf (lineClearLatched m.transitions) .weakenedLatch
  have hunlatched := unlatched_or_noted m
  revert hnoted hunlatched
  simp only [Master.reportCriticalFault]
  cases lineClearLatched m.transitions <;> intro hnoted hunlatched
  all_goals
    split
    · rename_i hnone
      simp [applySystemEvent, decideSystemTransition, faultRule] at hnone
    · rename_i n hm
      exact hnoted.equipmentFault hs _ _ ⟨rfl, rfl⟩ hunlatched (.inl rfl) hm

/-- A pause takes back the run request and ends what was owed to the queue. -/
theorem Evolves.pausing {event : SystemEvent} {reason : String} {k : Master}
    (hs : Settles stopped) (h : Evolves a m d)
    (hevent : event = .pauseRequest ∨ event = .recoverableDeviceFault)
    (hm : m.applySystemEvent event reason = some n)
    (hk : k.toSupervision = { n.toSupervision with pendingRunConfirmation := false })
    (hr : MayResume k d) :
    Evolves a (k.requestAllConveyorsStop stopped reason) { d with blocked := false } := by
  obtain ⟨t, rfl, haccepted, hn⟩ := apply_system_event_spec hm
  obtain ⟨j, hj, hsame, hstopped⟩ := request_stop_cases stopped k reason
  have hpaused : Evolves a j { d with blocked := false } := by
    refine h.move ?_
    rw [hj, hk, hn]
    exact .pause haccepted hevent (stops_all k reason)
  rcases hstopped with hstopped | hstopped
  · rw [hstopped]
    refine hs.evolves hpaused ?_
    rw [MayResume, hsame]
    exact hr
  · rw [hstopped]
    exact hpaused

theorem Evolves.requestPause (hs : Settles stopped) (h : Evolves a m d) (reason : String) :
    Evolves a (m.requestPause stopped reason).2 d := by
  simp only [Master.requestPause]
  cases hm : m.applySystemEvent .pauseRequest reason with
  | none => exact h
  | some n =>
    have hpaused := h.pausing hs (.inl rfl) hm
      (k := { n with pauseReason := some .operator, pendingRunConfirmation := false }) rfl
      (.inr (by simp))
    exact hpaused.owe (unblocked_within d)

theorem Evolves.pauseRunning (hs : Settles stopped) (h : Evolves a m d) (reason : String)
    (pauseReason : PauseReason) (hrun : m.systemState = .runSys)
    (hr : d.unresumed = [] ∨ pauseReason ≠ .deviceRecoveryAuto) :
    Evolves a (m.requestRecoverableDevicePause stopped reason pauseReason).2
      { d with blocked := false } := by
  simp only [Master.requestRecoverableDevicePause]
  cases hm : m.applySystemEvent .recoverableDeviceFault reason with
  | none => simp [applySystemEvent, hrun, decideSystemTransition, faultRule, transitionRule] at hm
  | some n =>
    exact h.pausing hs (.inr rfl) hm (k := ({ n with
      pauseReason := some pauseReason
      pendingRunConfirmation := false } : Master).setHealthState .degraded) rfl
      (hr.imp_right fun hne heq => hne (Option.some.inj heq))

theorem Evolves.requestRecoverableDevicePause (hs : Settles stopped) (h : Evolves a m d)
    (reason : String) (pauseReason : PauseReason)
    (hr : d.unresumed = [] ∨ pauseReason ≠ .deviceRecoveryAuto) :
    Evolves a (m.requestRecoverableDevicePause stopped reason pauseReason).2 d := by
  by_cases hrun : m.systemState = .runSys
  · exact (h.pauseRunning hs reason pauseReason hrun hr).owe (unblocked_within d)
  · have hnone : m.applySystemEvent .recoverableDeviceFault reason = none := by
      cases hstate : m.systemState <;>
        simp_all [applySystemEvent, decideSystemTransition, faultRule, transitionRule]
    simp only [Master.requestRecoverableDevicePause, hnone]
    exact h

theorem Evolves.manualPause (hs : Settles stopped) (h : Evolves a m d) (reason : String) :
    Evolves a (m.requestRecoverableDevicePause stopped reason .deviceRecoveryManual).2 d :=
  h.requestRecoverableDevicePause hs reason _ (.inr (by simp))

theorem Evolves.reportPauseFailed (hs : Settles stopped) (h : Evolves a m d)
    (hstate : m.systemState = .pausing) (reason : String) :
    Evolves a (m.reportPauseFailed stopped reason true).2 d := by
  simp only [Master.reportPauseFailed, if_true]
  cases hm : ({ m with recoveryPolicy := .equipmentCheckRequired } : Master).applySystemEvent
      .pauseTimeout reason with
  | none =>
    simp [applySystemEvent, hstate, decideSystemTransition, faultRule, transitionRule] at hm
  | some n =>
    obtain ⟨t, hevent, haccepted, hn⟩ := apply_system_event_spec hm
    have hfault : n.systemState = .faultStop := by
      have hafter := after_of_applied hm
      simpa [hstate, SystemState.after, faultRule, transitionRule, eq_comm] using hafter
    refine Evolves.stopInFault hs hfault reason rfl h.occupied (h.moves.tail ?_)
    rw [hn]
    exact .pauseFault haccepted hstate (.inr hevent) (stops_all n reason)

theorem Evolves.reportRunFailed (h : Evolves a m d) (reason : String) :
    Evolves a (m.reportRunFailed reason).2 d := by
  simp only [Master.reportRunFailed]
  split
  · exact h
  · rename_i n hm
    obtain ⟨t, hevent, haccepted, hn⟩ := apply_system_event_spec hm
    refine h.move ?_
    change Move _ ({ n.toSupervision with
      pendingRunConfirmation := false
      history.lapses := .abandonedRun :: n.history.lapses }, d)
    rw [hn]
    refine .abandonRun haccepted ?_
    rw [hevent]
    split
    · exact .inl rfl
    · exact .inr rfl

end Master

end InspectionLine
