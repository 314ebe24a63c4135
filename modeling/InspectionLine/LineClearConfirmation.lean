import InspectionLine.ConveyorRuns

/-! # The operator's confirmation of the empty line -/
namespace InspectionLine

open Supervision InputRuns

namespace Supervision

/-- A transition that uses the confirmation: a START, or the reset of a fault that asks for
the line to be emptied. -/
def NeedsConfirmation (r : TransitionRecord) : Prop :=
  r.transition.event = .startRequest ∨
    r.transition.event = .resetRequest ∧ r.recoveryPolicy = .lineClearRequired

def GrantsBetween (v w : Supervision) : Prop :=
  ∃ granted, w.transitions = granted ++ v.transitions ∧ ∃ r ∈ granted, NeedsConfirmation r

/-- A confirmation that is there was there before, and what is granted finds it there. -/
structure UsesConfirmation (v w : Supervision) : Prop where
  kept : w.equipment.lineClearConfirmed = true → v.equipment.lineClearConfirmed = true
  granted : ∃ granted, w.transitions = granted ++ v.transitions ∧
    ∀ r ∈ granted, NeedsConfirmation r → v.equipment.lineClearConfirmed = true

theorem UsesConfirmation.quiet {v w : Supervision}
    (he : w.equipment.lineClearConfirmed = v.equipment.lineClearConfirmed)
    (ht : w.transitions = v.transitions) : UsesConfirmation v w :=
  ⟨fun h => he ▸ h, [], ht, fun r hr => by cases hr⟩

/-- One transition, of an event that does not need the confirmation. -/
theorem UsesConfirmation.plain {v w : Supervision} {r : TransitionRecord}
    (he : w.equipment.lineClearConfirmed = true → v.equipment.lineClearConfirmed = true)
    (ht : w.transitions = r :: v.transitions) (hs : r.transition.event ≠ .startRequest)
    (hr : r.transition.event ≠ .resetRequest) : UsesConfirmation v w := by
  refine ⟨he, [r], ht, fun q hq hneeds => ?_⟩
  rw [List.mem_singleton.mp hq] at hneeds
  rcases hneeds with hstart | ⟨hreset, _⟩
  · exact absurd hstart hs
  · exact absurd hreset hr

theorem UsesConfirmation.trans {u v w : Supervision} (h : UsesConfirmation u v)
    (g : UsesConfirmation v w) : UsesConfirmation u w := by
  obtain ⟨early, hearly, hneeds⟩ := h.granted
  obtain ⟨late, hlate, hneeds'⟩ := g.granted
  refine ⟨fun hw => h.kept (g.kept hw), late ++ early, ?_, fun r hr hr' => ?_⟩
  · rw [hlate, hearly, List.append_assoc]
  · rcases List.mem_append.mp hr with hr | hr
    · exact h.kept (hneeds' r hr hr')
    · exact hneeds r hr hr'

theorem uses_confirmation_move {x y : Supervision × Debt} (h : Move x y) :
    UsesConfirmation x.1 y.1 := by
  cases h with
  | @transit v d t guards accepted plain confirmed =>
    refine ⟨id, [_], rfl, fun r hr hneeds => ?_⟩
    rw [List.mem_singleton.mp hr] at hneeds
    rcases hneeds with hstart | ⟨hreset, hpolicy⟩
    · change t.event = .startRequest at hstart
      rw [hstart] at plain
      cases plain
    · exact confirmed hreset hpolicy
  | grantRun accepted event granted guarded =>
    exact ⟨id, [_], rfl, fun _ _ _ => guarded.2.1⟩
  | grantResume automatic accepted event =>
    refine .plain id rfl ?_ ?_ <;> rcases event with he | he <;> simp [he]
  | abandonRun accepted event =>
    refine .plain id rfl ?_ ?_ <;> rcases event with he | he <;> simp [he]
  | run equipment accepted event pending confirmed =>
    refine .plain (fun h => ?_) rfl (by simp [event]) (by simp [event])
    rcases confirmed with hsame | hcleared
    · exact hsame.lineClearConfirmed.symm.trans h
    · exact absurd (hcleared.symm.trans h) (by simp)
  | pause accepted event =>
    refine .plain id rfl ?_ ?_ <;> rcases event with he | he <;> simp [he]
  | lineClearFault e accepted event => exact .plain id rfl (by simp [event]) (by simp [event])
  | equipmentFault equipment accepted event unlatched confirmed =>
    refine .plain (fun h => confirmed.lineClearConfirmed.symm.trans h) rfl ?_ ?_ <;>
      rcases event with he | he <;> simp [he]
  | pauseFault accepted state event =>
    refine .plain id rfl ?_ ?_ <;> rcases event with he | he <;> simp [he]
  | lineClear nowNs accepted event => exact .plain id rfl (by simp [event]) (by simp [event])
  | resetInPlace accepted event => exact .plain id rfl (by simp [event]) (by simp [event])
  | report equipment confirmed => exact .quiet confirmed.lineClearConfirmed rfl
  | clearConfirmation =>
    refine ⟨fun h => ?_, [], rfl, fun r hr => ?_⟩
    · cases h
    · cases hr
  | _ => exact .quiet rfl rfl

theorem uses_confirmation_moves {x y : Supervision × Debt} (h : Moves x y) :
    UsesConfirmation x.1 y.1 := by
  induction h with
  | refl => exact .quiet rfl rfl
  | tail _ hmove ih => exact ih.trans (uses_confirmation_move hmove)

theorem UsesConfirmation.of_grants {v w : Supervision} (h : UsesConfirmation v w)
    (hg : GrantsBetween v w) : v.equipment.lineClearConfirmed = true := by
  obtain ⟨granted, ht, r, hr, hneeds⟩ := hg
  obtain ⟨granted', ht', hconfirmed⟩ := h.granted
  cases List.append_cancel_right (ht.symm.trans ht')
  exact hconfirmed r hr hneeds

end Supervision

def MasterCall.command? : MasterCall → Option OperatorRequest
  | .operatorCommand request => some request
  | _ => none

theorem MasterCall.command?_eq_some {call : MasterCall} {request : OperatorRequest} :
    request ∈ call.command? ↔ call = .operatorCommand request := by
  cases call <;> simp [command?, eq_comm]

namespace Master

variable {m : Master}

/-- A CONFIRM_LINE_CLEAR that is carried out while the other line-clear guards fail. -/
structure HeedlessConfirmation (m : Master) (request : OperatorRequest) : Prop where
  command : request.commandType = 6
  named : request.operatorId ≠ ""
  idle : m.systemState = .ready ∨ m.systemState = .faultStop
  executed : m.executes request = true
  unguarded : { m.equipment with lineClearConfirmed := true }.lineClearGuardsSatisfied = false

instance (m : Master) (request : OperatorRequest) : Decidable (m.HeedlessConfirmation request) :=
  decidable_of_iff (request.commandType = 6 ∧ request.operatorId ≠ "" ∧
      (m.systemState = .ready ∨ m.systemState = .faultStop) ∧ m.executes request = true ∧
      { m.equipment with lineClearConfirmed := true }.lineClearGuardsSatisfied = false)
    ⟨fun ⟨h, i, j, k, l⟩ => ⟨h, i, j, k, l⟩, fun ⟨h, i, j, k, l⟩ => ⟨h, i, j, k, l⟩⟩

/-- The callback is not such a command. -/
def Heeds (m : Master) (e : MasterEvent) : Prop :=
  ∀ request ∈ e.call.command?, ¬m.HeedlessConfirmation request

instance (m : Master) (e : MasterEvent) : Decidable (m.Heeds e) := by
  unfold Heeds
  infer_instance

/-- A command answered with accepted=False leaves the confirmation as it was. -/
def RejectionKeeps (m : Master) (e : MasterEvent) : Prop :=
  ∀ request ∈ e.call.command?, (m.next e).lastAnswer = some false →
    KeepsConfirmation m.equipment (m.next e).equipment

def confirms (m : Master) (e : MasterEvent) : Bool :=
  e.call.command?.any fun request =>
    request.commandType = 6 && (m.next e).lastAnswer = some true

/-- Master, and whether a confirmation has been accepted since the last time it was consumed
or cleared. -/
structure Watched where
  master : Master
  held : Bool

def Watched.next (w : Watched) (e : MasterEvent) : Watched where
  master := w.master.next e
  held := (w.held || w.master.confirms e) && (w.master.next e).equipment.lineClearConfirmed

structure ConfirmationRespected (w : Watched) (e : MasterEvent) : Prop where
  granted : GrantsBetween w.master.toSupervision (w.master.next e).toSupervision → w.held = true
  rejected : w.master.RejectionKeeps e

/-! ### One callback -/

/-- A command that is rejected by its handler changes nothing, if it is not a confirmation. -/
theorem same_of_rejected (stopped : Master → Master) {request : OperatorRequest} {reason : String}
    {n : Master} (hother : request.commandType ≠ 6)
    (h : m.operatorHandler stopped request reason = some (false, n)) : n = m := by
  simp only [operatorHandler] at h
  split at h <;> simp only [Option.some.injEq, reduceCtorEq] at h
  · simp only [requestInitialize] at h
    split at h <;> cases h
    rfl
  · simp only [requestRun] at h
    split at h
    · cases h
      rfl
    · split at h <;> cases h
      rfl
  · simp only [requestPause] at h
    split at h <;> cases h
    rfl
  · simp only [requestResume] at h
    split at h
    · cases h
      rfl
    · split at h
      · cases h
        rfl
      · split at h <;> cases h
        rfl
  · simp only [requestReset] at h
    split at h
    · cases h
      rfl
    · split at h <;> cases h
      rfl
  · rename_i hconfirm
    exact absurd hconfirm hother

theorem run_confirmation (stopped : Master → Master) (m : Master) {request : OperatorRequest}
    (hconfirm : request.commandType = 6) :
    (m.runOperatorCommand stopped request).2.2.toSupervision = m.toSupervision ∧
        (m.runOperatorCommand stopped request).1 = false ∨
      request.operatorId ≠ "" ∧ (m.systemState = .ready ∨ m.systemState = .faultStop) ∧
        (m.runOperatorCommand stopped request).2.2.toSupervision =
          m.toSupervision.confirmedBy request.operatorId ∧
        (m.runOperatorCommand stopped request).1 =
          { m.equipment with lineClearConfirmed := true }.lineClearGuardsSatisfied := by
  simp only [runOperatorCommand, hconfirm, operatorHandler, true_and, confirmLineCleared]
  split
  · exact .inl ⟨rfl, rfl⟩
  · rename_i hnamed
    by_cases hidle : m.systemState ≠ .ready ∧ m.systemState ≠ .faultStop
    · rw [if_pos (.inr hidle)]
      exact .inl ⟨rfl, rfl⟩
    · rw [if_neg (not_or.mpr ⟨hnamed, hidle⟩)]
      refine .inr ⟨hnamed, ?_, ?_, rfl⟩
      · by_contra hstate
        exact hidle (not_or.mp hstate)
      · rw [toSupervision_emitLogEvent]
        rfl

theorem next_of_command {e : MasterEvent} {request : OperatorRequest}
    (hcall : request ∈ e.call.command?) :
    ∃ k : Master, k.equipment = m.equipment ∧ k.systemState = m.systemState ∧
      k.transitions = m.transitions ∧ ((m.next e).toSupervision = k.toSupervision ∨
        m.executes request = true ∧
          (m.next e).toSupervision =
            (k.runOperatorCommand (whenStopped stopDepth) request).2.2.toSupervision ∧
          (m.next e).lastAnswer =
            some (k.runOperatorCommand (whenStopped stopDepth) request).1) := by
  obtain ⟨k, hk, hcases⟩ := operator_command_cases (whenStopped stopDepth)
    { m with around := e.around } request
  have hn : m.next e = ({ m with around := e.around } : Master).handleOperatorCommand
      (whenStopped stopDepth) request := by
    rw [next, MasterCall.command?_eq_some.mp hcall]
    rfl
  have hsame : k.equipment = m.equipment ∧ k.systemState = m.systemState ∧
      k.transitions = m.transitions := by
    rcases hk with hk | hk <;> rw [hk] <;> exact ⟨rfl, rfl, rfl⟩
  rw [hn]
  refine ⟨k, hsame.1, hsame.2.1, hsame.2.2, ?_⟩
  rcases hcases with ⟨_, hn⟩ | ⟨hexecuted, hn, hanswer⟩
  · exact .inl hn
  · exact .inr ⟨hexecuted, hn, hanswer⟩

/-- A CONFIRM_LINE_CLEAR changes no more than the confirmation, and that only if it is heedless
or accepted. -/
theorem next_of_confirmation {e : MasterEvent} {request : OperatorRequest}
    (hcall : request ∈ e.call.command?) (hconfirm : request.commandType = 6) :
    (m.next e).transitions = m.transitions ∧ ((m.next e).equipment = m.equipment ∨
      m.HeedlessConfirmation request ∨ (m.next e).lastAnswer = some true) := by
  obtain ⟨k, hequipment, hstate, htransitions, hcases⟩ := next_of_command (m := m) hcall
  rcases hcases with hn | ⟨hexecuted, hn, hanswer⟩
  · rw [hn]
    exact ⟨htransitions, .inl hequipment⟩
  · rw [hn, hanswer]
    rcases run_confirmation (whenStopped stopDepth) k hconfirm with
      ⟨hrun, _⟩ | ⟨hnamed, hidle, hrun, haccepted⟩
    · rw [hrun]
      exact ⟨htransitions, .inl hequipment⟩
    · rw [hrun, haccepted, hequipment]
      rw [hstate] at hidle
      refine ⟨htransitions, .inr ?_⟩
      cases hguards : { m.equipment with lineClearConfirmed := true }.lineClearGuardsSatisfied with
      | true => exact .inr rfl
      | false => exact .inl ⟨hconfirm, hnamed, hidle, hexecuted, hguards⟩

theorem rejection_keeps {e : MasterEvent} (hheeds : m.Heeds e) : m.RejectionKeeps e := by
  intro request hcall hrejected
  have hsame : ∀ {n : EquipmentSnapshot}, n = m.equipment → KeepsConfirmation m.equipment n := by
    rintro n rfl
    exact ⟨rfl, rfl⟩
  by_cases hconfirm : request.commandType = 6
  · rcases (next_of_confirmation hcall hconfirm).2 with hequipment | hheedless | haccepted
    · exact hsame hequipment
    · exact absurd hheedless (hheeds request hcall)
    · rw [hrejected] at haccepted
      cases haccepted
  · obtain ⟨k, hequipment, _, _, hcases⟩ := next_of_command (m := m) hcall
    refine hsame (Eq.trans ?_ hequipment)
    rcases hcases with hn | ⟨_, hn, hanswer⟩
    · rw [hn]
    · rw [hn]
      rw [hanswer, Option.some.injEq] at hrejected
      simp only [runOperatorCommand] at hrejected ⊢
      split at hrejected
      · rename_i hempty
        rw [if_pos hempty]
      · rename_i hnamed
        rw [if_neg hnamed]
        split at hrejected
        · rfl
        · rename_i accepted n hrun
          subst hrejected
          rw [same_of_rejected _ hconfirm hrun]

/-! ### Runs -/

/-- The confirmation is there only while it has been accepted and not been used since. -/
structure HeldByOperator (w : Watched) : Prop where
  occupied : w.master.line.Occupied
  held : w.master.equipment.lineClearConfirmed = true → w.held = true

theorem uses_confirmation_next {e : MasterEvent} (ho : m.line.Occupied)
    (hother : ∀ request ∈ e.call.command?, request.commandType ≠ 6) :
    UsesConfirmation m.toSupervision (m.next e).toSupervision := by
  have hevolves := evolves_of_handle (m := { m with around := e.around })
    (settles_whenStopped stopDepth) ho
    fun request hcall => hother request (MasterCall.command?_eq_some.mpr hcall)
  exact uses_confirmation_moves hevolves.moves

theorem held_next {w : Watched} {e : MasterEvent} (hw : HeldByOperator w)
    (hheeds : w.master.Heeds e) : HeldByOperator (w.next e) := by
  refine ⟨occupied_of_callback hw.occupied (callback_of_next hw.occupied e), fun hconfirmed => ?_⟩
  change (w.master.next e).equipment.lineClearConfirmed = true at hconfirmed
  change ((w.held || w.master.confirms e) && _) = true
  rw [hconfirmed, Bool.and_true, Bool.or_eq_true]
  by_cases hconfirm : ∃ request ∈ e.call.command?, request.commandType = 6
  · obtain ⟨request, hcall, hconfirm⟩ := hconfirm
    rcases (next_of_confirmation hcall hconfirm).2 with hequipment | hheedless | haccepted
    · exact .inl (hw.held (hequipment ▸ hconfirmed))
    · exact absurd hheedless (hheeds request hcall)
    · refine .inr ?_
      rw [Option.mem_def] at hcall
      simp [confirms, hcall, hconfirm, haccepted]
  · have huses := uses_confirmation_next (e := e) hw.occupied
      fun request hcall h6 => hconfirm ⟨request, hcall, h6⟩
    exact .inl (hw.held (huses.kept hconfirmed))

/-- In a run of the hardware profile without a heedless confirmation, what needs the
confirmation is granted only while an accepted one is held, and no rejected command touches
it. -/
theorem confirmation_respected {config : MasterConfig} (hprofile : config.profile = .hardware)
    {around : Surroundings} {w : Watched}
    (h : Execution Watched.next (fun w e => w.master.Heeds e) ⟨initial config around, false⟩ w)
    {e : MasterEvent} (hheeds : w.master.Heeds e) : ConfirmationRespected w e := by
  have hheld : HeldByOperator w := by
    refine h.invariant (fun w e hw he => held_next hw he) ⟨occupied_empty, fun hconfirmed => ?_⟩
    change (if config.profile = .sim then EquipmentSnapshot.simSafe else
      ({} : EquipmentSnapshot)).lineClearConfirmed = true at hconfirmed
    rw [hprofile] at hconfirmed
    cases hconfirmed
  refine ⟨fun hgrants => ?_, rejection_keeps hheeds⟩
  by_cases hconfirm : ∃ request ∈ e.call.command?, request.commandType = 6
  · obtain ⟨request, hcall, hconfirm⟩ := hconfirm
    obtain ⟨granted, ht, r, hr, _⟩ := hgrants
    rw [(next_of_confirmation hcall hconfirm).1] at ht
    rw [List.self_eq_append_left.mp ht] at hr
    cases hr
  · exact hheld.held ((uses_confirmation_next hheld.occupied
      fun request hcall h6 => hconfirm ⟨request, hcall, h6⟩).of_grants hgrants)

/-- The hardware line, watched from the start, after READY has been reached. -/
def watchLine (events : List MasterEvent) : Watched :=
  runTrace Watched.next ⟨initial (defaultConfig .hardware false)
    { nowNs := 1, nowNs_nonneg := Int.one_nonneg }, false⟩ (startUp ++ events)

theorem master_runTrace (w : Watched) (events : List MasterEvent) :
    (runTrace Watched.next w events).master = runTrace next w.master events := by
  induction events generalizing w with
  | nil => rfl
  | cons e events ih => exact ih (w.next e)

theorem occupied_watchLine (events : List MasterEvent) :
    (watchLine events).master.line.Occupied := by
  rw [watchLine, master_runTrace]
  exact reachable_occupied (reachable_runLine .hardware false events)

/-- The sensors are not clear when the operator confirms, and clear a moment later. -/
def heedlessRun : List MasterEvent :=
  [called (.equipmentState {
    sessionId := numberedUuid 0
    upperRunning := false, upperStopped := true, lowerRunning := false, lowerStopped := true
    sensorClear := fun _ => false
    actuatorSafe := true }) 1000, commanded 2 6, reported false 1000]

example : (watchLine [reported false 1000, commanded 2 6]).held = true := by decide +kernel

theorem start_granted_on_rejected_confirmation :
    ¬∀ (config : MasterConfig) (around : Surroundings) (w : Watched),
      config.profile = .hardware →
      Execution Watched.next (fun _ _ => True) ⟨initial config around, false⟩ w →
        ∀ e, ConfirmationRespected w e := by
  intro h
  have htotal : ValidTrace Watched.next (fun _ _ => True)
      ⟨initial (defaultConfig .hardware false) { nowNs := 1 }, false⟩ (startUp ++ heedlessRun) :=
    valid_trace_of_total _ _
  have hrun := valid_trace_execution htotal
  have hrespected := h _ _ (watchLine heedlessRun) rfl hrun (commanded 3 2)
  have hlength : ((watchLine heedlessRun).master.next (commanded 3 2)).transitions.length =
      (watchLine heedlessRun).master.transitions.length + 1 := by decide +kernel
  have hstart : ((watchLine heedlessRun).master.next (commanded 3 2)).transitions.head?.map
      (·.transition.event) = some .startRequest := by decide +kernel
  have hheld : (watchLine heedlessRun).held = false := by decide +kernel
  obtain ⟨granted, htransitions, _⟩ := (uses_confirmation_next (e := commanded 3 2)
    (occupied_watchLine heedlessRun) fun request hrequest => by cases hrequest; decide).granted
  have hgrants : (watchLine heedlessRun).held = true := by
    refine hrespected.granted ⟨granted, htransitions, ?_⟩
    cases granted with
    | nil =>
      rw [htransitions] at hlength
      simp at hlength
    | cons r rest =>
      rw [htransitions] at hstart
      exact ⟨r, List.mem_cons_self, .inl (Option.some.inj hstart)⟩
  rw [hheld] at hgrants
  cases hgrants

/-- A START after a confirmation that was accepted is granted while it is held. -/
theorem start_granted_on_accepted_confirmation :
    ConfirmationRespected (watchLine [reported false 1000, commanded 2 6]) (commanded 3 2) := by
  have hprofile : (defaultConfig .hardware false).profile = .hardware := rfl
  refine confirmation_respected hprofile (valid_trace_execution ?_) ?_
  · decide +kernel
  · decide +kernel

end Master

end InspectionLine
