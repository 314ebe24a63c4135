import InspectionLine.LineSupervision

/-! # Requests to run, and what becomes of them -/
namespace InspectionLine

namespace Supervision

/-! ### The last command to all conveyors -/

def lastForAll (commands : List CommandRecord) : Option CommandRecord :=
  commands.find? fun r => r.command.targetConveyorId = allConveyors

/-- Off RUN_SYS, and with no run asked for, the conveyors were last told something else than
to run. -/
def LeftStopped (v : Supervision) : Prop :=
  v.systemState ≠ .runSys → v.pendingRunConfirmation = false →
    ∀ r, lastForAll v.commands = some r → r.command.commandType ≠ CommandType.raw .resume

theorem run_sys_left {t : SystemTransition}
    (h : SystemState.runSys.after t.event = some t.current) :
    t.event = .pauseRequest ∨ t.event = .recoverableDeviceFault ∨ t.event = .criticalFault ∨
      t.event = .estopAsserted := by
  cases he : t.event <;> simp_all [SystemState.after, faultRule, transitionRule]

theorem last_of_stop {command : SystemCommand} {reason : String} {line : PhysicalLine}
    {earlier : List CommandRecord} (h : StopsAll command) {r : CommandRecord}
    (hr : lastForAll (⟨command, reason, line⟩ :: earlier) = some r) :
    r.command.commandType ≠ CommandType.raw .resume := by
  rw [lastForAll, List.find?_cons_of_pos (by simpa using h.2)] at hr
  cases hr
  rw [h.1]
  decide

theorem LeftStopped.of_same {v w : Supervision} (hv : LeftStopped v)
    (hs : w.systemState = v.systemState) (hp : w.pendingRunConfirmation = v.pendingRunConfirmation)
    (hc : w.commands = v.commands) : LeftStopped w := by
  unfold LeftStopped
  rw [hs, hp, hc]
  exact hv

theorem left_stopped_move {x y : Supervision × Debt} (hv : LeftStopped x.1) (h : Move x y)
    (hkept : ¬Noted y.1 .abandonedRun) : LeftStopped y.1 := by
  cases h with
  | @transit v d t guards accepted plain =>
    intro _ hpending
    refine hv (fun hrun => ?_) hpending
    have hleft := run_sys_left (hrun ▸ accepted.2)
    rcases hleft with he | he | he | he <;> rw [he] at plain <;> cases plain
  | grantRun | grantResume =>
    intro _ hpending
    cases hpending
  | abandonRun => exact absurd List.mem_cons_self hkept
  | @run v d t guards equipment accepted event =>
    intro hrun
    have hafter := accepted.2
    rw [event] at hafter
    refine absurd ?_ hrun
    change t.current = .runSys
    cases hs : v.systemState <;>
      simp_all [SystemState.after, faultRule, transitionRule]
  | pause accepted event stops => exact fun _ _ r hr => last_of_stop stops hr
  | lineClearFault e accepted event stops => exact fun _ _ r hr => last_of_stop stops hr
  | equipmentFault equipment accepted event unlatched confirmed stops =>
    exact fun _ _ r hr => last_of_stop stops hr
  | pauseFault accepted state event stops => exact fun _ _ r hr => last_of_stop stops hr
  | @lineClear v d t guards nowNs accepted event =>
    intro _ hpending
    refine hv (fun hrun => ?_) hpending
    have hafter := accepted.2
    rw [hrun, event] at hafter
    simp [SystemState.after, faultRule, transitionRule] at hafter
  | @resetInPlace v d t guards accepted event =>
    intro _ hpending
    refine hv (fun hrun => ?_) hpending
    have hafter := accepted.2
    rw [hrun, event] at hafter
    simp [SystemState.after, faultRule, transitionRule] at hafter
  | @publish v d command reason safe =>
    intro hstate hpending r hr
    by_cases hall : command.targetConveyorId = allConveyors
    · rw [lastForAll, publish, List.find?_cons_of_pos (by simpa using hall)] at hr
      cases hr
      rcases safe with htype | ⟨s, cycle, _, _, htarget⟩
      · exact htype
      · exact absurd (htarget.symm.trans hall) (conveyor_is_not_all _)
    · rw [lastForAll, publish, List.find?_cons_of_neg (by simpa using hall)] at hr
      exact hv hstate hpending r hr
  | _ => exact hv.of_same rfl rfl rfl

theorem left_stopped_moves {x y : Supervision × Debt} (hv : LeftStopped x.1) (h : Moves x y)
    (hkept : ¬Noted y.1 .abandonedRun) : LeftStopped y.1 := by
  induction h with
  | refl => exact hv
  | tail _ hmove ih =>
    exact left_stopped_move (ih fun hn => hkept (noted_of_move hmove hn)) hmove hkept

/-! ### What a run was granted for -/

/-- The record of a granted START, or of a granted resume. -/
def GrantsStart (r : TransitionRecord) : Prop :=
  r.transition.event = .startRequest ∧ r.guards.start = true

def GrantsResume (r : TransitionRecord) : Prop :=
  (r.transition.event = .resumeRequest ∨ r.transition.event = .deviceRecovered) ∧
    r.guards.resume = true

/-- The transition into RUN_SYS follows the grant, and what cannot wait still holds. -/
structure RunsAfterGrant (r : TransitionRecord) (earlier : List TransitionRecord) : Prop where
  estop : r.equipment.estopAsserted = false
  granted : r.transition.previous = .ready ∧ (∃ g ∈ earlier.head?, GrantsStart g) ∧
      r.line.ledger.active = [] ∧ r.equipment.lineClearConfirmed = true ∨
    r.transition.previous = .paused ∧ (∃ g ∈ earlier.head?, GrantsResume g) ∧
      r.recoveryPolicy ≠ .lineClearRequired

def RunsGranted : List TransitionRecord → Prop
  | [] => True
  | r :: earlier =>
    (r.transition.current = .runSys → RunsAfterGrant r earlier) ∧ RunsGranted earlier

/-- While a run is pending, its grant is the latest transition and nothing speaks against it. -/
structure Pending (v : Supervision) : Prop where
  estop : v.equipment.estopAsserted = false
  granted : v.systemState = .ready ∧ (∃ g ∈ v.transitions.head?, GrantsStart g) ∧
      v.line.ledger.active = [] ∧ v.equipment.lineClearConfirmed = true ∨
    v.systemState = .paused ∧ (∃ g ∈ v.transitions.head?, GrantsResume g) ∧
      v.recoveryPolicy ≠ .lineClearRequired

structure RunLog (v : Supervision) : Prop where
  log : RunsGranted v.transitions
  pending : v.pendingRunConfirmation = true → Pending v

theorem Pending.idle {v : Supervision} (h : Pending v) :
    v.systemState = .ready ∨ v.systemState = .paused := by
  rcases h.granted with hg | hg
  · exact .inl hg.1
  · exact .inr hg.1

theorem RunLog.quiet {v : Supervision} (hv : RunLog v) (h : v.systemState ≠ .ready)
    (h' : v.systemState ≠ .paused) : v.pendingRunConfirmation = false := by
  by_contra hp
  rcases (hv.pending (by simpa using hp)).idle with hs | hs
  · exact h hs
  · exact h' hs

theorem RunLog.enter {v : Supervision} {t : SystemTransition} (guards : GuardReport)
    (hv : RunLog v) (hcurrent : t.current ≠ .runSys) :
    RunsGranted (v.enter t guards).transitions := ⟨fun h => absurd h hcurrent, hv.log⟩

theorem only_run_enters {before : SystemState} {t : SystemTransition}
    (h : before.after t.event = some t.current) (hevent : t.event ≠ .allConveyorsRunning) :
    t.current ≠ .runSys := by
  intro hrun
  cases before <;> cases he : t.event <;>
    simp_all [SystemState.after, faultRule, transitionRule]

theorem run_log_move {x y : Supervision × Debt} (hv : RunLog x.1) (h : Move x y) : RunLog y.1 := by
  cases h with
  | @transit v d t guards accepted plain =>
    have hother : t.event ≠ .allConveyorsRunning := by
      rintro he
      rw [he] at plain
      cases plain
    refine ⟨hv.enter guards (only_run_enters accepted.2 hother), fun hpending => ?_⟩
    have hafter := accepted.2
    rcases (hv.pending hpending).idle with hs | hs <;> rw [hs] at hafter <;>
      cases he : t.event <;>
      simp_all [SystemState.after, faultRule, transitionRule, Plain]
  | @grantRun v d t guards command reason accepted event granted guarded runs =>
    refine ⟨hv.enter guards (only_run_enters accepted.2 (by simp [event])),
      fun _ => ⟨guarded.2.2, .inl ⟨?_, ⟨_, rfl, event, granted⟩, guarded.1, guarded.2.1⟩⟩⟩
    have hafter := accepted.2
    rw [event] at hafter
    change t.current = .ready
    cases hs : v.systemState <;>
      simp_all [SystemState.after, faultRule, transitionRule]
  | @grantResume v d t guards command reason automatic accepted event granted guarded runs =>
    refine ⟨hv.enter guards (only_run_enters accepted.2 ?_),
      fun _ => ⟨guarded.2, .inr ⟨?_, ⟨_, rfl, event, granted⟩, guarded.1⟩⟩⟩
    · rcases event with he | he <;> simp [he]
    · have hafter := accepted.2
      change t.current = .paused
      rcases event with he | he <;> rw [he] at hafter <;> cases hs : v.systemState <;>
        simp_all [SystemState.after, faultRule, transitionRule]
  | @abandonRun v d t guards accepted event =>
    refine ⟨hv.enter guards (only_run_enters accepted.2 ?_), fun h => by cases h⟩
    rcases event with he | he <;> simp [he]
  | @run v d t guards equipment accepted event pending confirmed estop =>
    have hp := hv.pending pending
    refine ⟨⟨fun _ => ⟨hp.estop, ?_⟩, hv.log⟩, fun h => by cases h⟩
    rcases hp.granted with ⟨hs, hg, hempty, hconfirmed⟩ | ⟨hs, hg, hpolicy⟩
    · exact .inl ⟨accepted.1.trans hs, hg, hempty, hconfirmed⟩
    · exact .inr ⟨accepted.1.trans hs, hg, hpolicy⟩
  | @pause v d t guards command reason accepted event =>
    refine ⟨hv.enter guards (only_run_enters accepted.2 ?_), fun h => by cases h⟩
    rcases event with he | he <;> simp [he]
  | @lineClearFault v d t guards command reason e accepted event =>
    exact ⟨⟨fun h => absurd h (only_run_enters accepted.2 (by simp [event])), hv.log⟩,
      fun h => by cases h⟩
  | @equipmentFault v d t guards command reason equipment accepted event =>
    refine ⟨⟨fun h => absurd h (only_run_enters accepted.2 ?_), hv.log⟩, fun h => by cases h⟩
    rcases event with he | he <;> simp [he]
  | @pauseFault v d t guards command reason accepted state event =>
    refine ⟨⟨fun h => absurd h (only_run_enters accepted.2 ?_), hv.log⟩, fun hpending => ?_⟩
    · rcases event with he | he <;> simp [he]
    · have hquiet := hv.quiet (by simp [state]) (by simp [state])
      exact absurd (hquiet.symm.trans hpending) (by simp)
  | @lineClear v d t guards nowNs accepted event =>
    have hresetting : v.systemState = .resetting := by
      have hafter := accepted.2
      rw [event] at hafter
      cases hs : v.systemState <;>
        simp_all [SystemState.after, faultRule, transitionRule]
    refine ⟨⟨fun h => absurd h (only_run_enters accepted.2 (by simp [event])), hv.log⟩,
      fun hpending => ?_⟩
    have hquiet := hv.quiet (by simp [hresetting]) (by simp [hresetting])
    exact absurd (hquiet.symm.trans hpending) (by simp)
  | @resetInPlace v d t guards accepted event =>
    have hresetting : v.systemState = .resetting := by
      have hafter := accepted.2
      rw [event] at hafter
      cases hs : v.systemState <;>
        simp_all [SystemState.after, faultRule, transitionRule]
    refine ⟨hv.enter guards (only_run_enters accepted.2 (by simp [event])),
      fun hpending => ?_⟩
    have hquiet := hv.quiet (by simp [hresetting]) (by simp [hresetting])
    exact absurd (hquiet.symm.trans hpending) (by simp)
  | @work v d d' line issued working started step =>
    refine ⟨hv.log, fun hpending => ?_⟩
    obtain ⟨hestop, hgranted⟩ := hv.pending hpending
    refine ⟨hestop, hgranted.imp_left fun ⟨hs, hg, hempty, hconfirmed⟩ => ⟨hs, hg, ?_, hconfirmed⟩⟩
    rcases started with hrun | hkept
    · change BeforeRun v.systemState = false at hrun
      rw [show v.systemState = .ready from hs] at hrun
      cases hrun
    · exact List.subset_nil.mp (hempty ▸ hkept.active)
  | @prune v d cutoffNs =>
    refine ⟨hv.log, fun hpending => ?_⟩
    obtain ⟨hestop, hgranted⟩ := hv.pending hpending
    refine ⟨hestop, hgranted.imp_left fun ⟨hs, hg, hempty, hconfirmed⟩ => ⟨hs, hg, ?_, hconfirmed⟩⟩
    exact (v.line.ledger.prune_removed_retains cutoffNs).active.trans hempty
  | @report v d equipment confirmed estop =>
    refine ⟨hv.log, fun hpending => ?_⟩
    obtain ⟨hestop, hgranted⟩ := hv.pending hpending
    refine ⟨?_, hgranted.imp_left fun ⟨hs, hg, hempty, hconfirmed⟩ => ⟨hs, hg, hempty, ?_⟩⟩
    · by_contra hasserted
      have hbefore := estop (by simpa using hasserted)
      exact absurd (hestop.symm.trans hbefore) (by simp)
    · exact confirmed.lineClearConfirmed.trans hconfirmed
  | clearConfirmation idle =>
    exact ⟨hv.log, fun hpending => absurd (idle.symm.trans hpending) (by simp)⟩
  | _ =>
    exact ⟨hv.log, fun hpending => ⟨(hv.pending hpending).estop, (hv.pending hpending).granted⟩⟩

theorem run_log_moves {x y : Supervision × Debt} (hv : RunLog x.1) (h : Moves x y) :
    RunLog y.1 := by
  induction h with
  | refl => exact hv
  | tail _ hmove ih => exact run_log_move ih hmove

end Supervision

end InspectionLine
