import InspectionLine.LineSupervision

/-! # FAULT_STOP freezes the line -/
namespace InspectionLine

namespace Supervision

structure Untouched (before after : PhysicalLine) : Prop where
  ledger : before.ledger.Retains after.ledger
  stationCycles : after.stationCycles = before.stationCycles
  actuationCycles : after.actuationCycles = before.actuationCycles

theorem Untouched.refl (line : PhysicalLine) : Untouched line line := ⟨.refl _, rfl, rfl⟩

/-- Since FAULT_STOP was entered from another state, the line has not been touched. -/
def FrozenSince (transitions : List TransitionRecord) (line : PhysicalLine) : Prop :=
  ∃ atStop, lineAtStop transitions = some atStop ∧ Untouched atStop line

/-- Every transition out of FAULT_STOP, or within it, finds the line frozen. -/
def FrozenLog : List TransitionRecord → Prop
  | [] => True
  | r :: earlier =>
    (r.transition.previous = .faultStop → FrozenSince earlier r.line) ∧ FrozenLog earlier

/-- FAULT_STOP freezes the line, in every state and at every transition, and no goal is sent
in it. -/
structure Frozen (v : Supervision) : Prop where
  log : FrozenLog v.transitions
  state : v.systemState = .faultStop → FrozenSince v.transitions v.line
  goals : ∀ g ∈ v.goals, g.systemState ≠ .faultStop

theorem frozen_enter {v : Supervision} {t : SystemTransition} (guards : GuardReport)
    (hv : Frozen v) (accepted : Accepts v t) : Frozen (v.enter t guards) := by
  have hprevious : t.previous = .faultStop → FrozenSince v.transitions v.line := by
    intro h
    exact hv.state (accepted.1.symm.trans h)
  constructor
  · exact ⟨hprevious, hv.log⟩
  · intro (h : t.current = .faultStop)
    by_cases hp : t.previous = .faultStop
    · obtain ⟨atStop, hstop, huntouched⟩ := hprevious hp
      refine ⟨atStop, ?_, huntouched⟩
      simp only [enter, lineAtStop, h, hp]
      simpa using hstop
    · refine ⟨v.line, ?_, .refl _⟩
      simp [enter, lineAtStop, h, hp]
  · exact hv.goals

/-- Only the log, the state, the line and the goals matter. -/
theorem Frozen.of_same {v w : Supervision} (hv : Frozen v) (ht : w.transitions = v.transitions)
    (hs : w.systemState = v.systemState) (hl : w.line = v.line) (hg : w.goals = v.goals) :
    Frozen w := ⟨ht ▸ hv.log, by rw [ht, hs, hl]; exact hv.state, hg ▸ hv.goals⟩

theorem working_of_may_work {v : Supervision} (h : MayWork v)
    (hlate : ∀ x ∈ v.history.lapses, x.late = false) : v.systemState ≠ .faultStop := by
  refine h.resolve_right ?_
  rintro ⟨x, hx, hl⟩
  rw [hlate x hx] at hl
  cases hl

theorem frozen_move {x y : Supervision × Debt} (hv : Frozen x.1) (h : Move x y)
    (hlate : ∀ l ∈ y.1.history.lapses, l.late = false) : Frozen y.1 := by
  cases h with
  | transit accepted plain => exact frozen_enter _ hv accepted
  | grantRun accepted | pause accepted | grantResume automatic accepted | abandonRun accepted
  | run equipment accepted | resetInPlace accepted =>
    exact (frozen_enter _ hv accepted).of_same rfl rfl rfl rfl
  | @lineClearFault v d t guards command reason e accepted =>
    have hfault : Frozen { v with
        recoveryPolicy := .lineClearRequired, pendingRunConfirmation := false } :=
      hv.of_same rfl rfl rfl rfl
    exact (frozen_enter guards hfault accepted).of_same rfl rfl rfl rfl
  | @equipmentFault v d t guards command reason equipment accepted =>
    have hfault : Frozen { v with
        equipment, recoveryPolicy := .equipmentCheckRequired, pendingRunConfirmation := false } :=
      hv.of_same rfl rfl rfl rfl
    exact (frozen_enter guards hfault accepted).of_same rfl rfl rfl rfl
  | @pauseFault v d t guards command reason accepted =>
    have hfault : Frozen { v with recoveryPolicy := .equipmentCheckRequired } :=
      hv.of_same rfl rfl rfl rfl
    exact (frozen_enter guards hfault accepted).of_same rfl rfl rfl rfl
  | @lineClear v d t guards nowNs accepted event policy =>
    have hstate : v.systemState ≠ .faultStop := by
      intro h
      simp [Accepts, h, event, SystemState.after, faultRule, transitionRule] at accepted
    have hcleared : Frozen { v with
        line := { ledger := (v.line.ledger.clearActive nowNs).2 }
        sensorEvents := v.sensorEvents.reset
        pausedByQueue := false
        queueRecoveredPending := false } := ⟨hv.log, fun h => absurd h hstate, hv.goals⟩
    exact (frozen_enter guards hcleared accepted).of_same rfl rfl rfl rfl
  | work working started step =>
    refine ⟨hv.log, fun h => ?_, hv.goals⟩
    rcases working with working | defers
    · exact absurd h (working_of_may_work working hlate)
    · obtain ⟨atStop, hstop, huntouched⟩ := hv.state h
      exact ⟨atStop, hstop, defers.ledger ▸ huntouched.ledger,
        defers.stationCycles.trans huntouched.stationCycles,
        defers.actuationCycles.trans huntouched.actuationCycles⟩
  | prune cutoffNs =>
    refine ⟨hv.log, fun h => ?_, hv.goals⟩
    obtain ⟨atStop, hstop, huntouched⟩ := hv.state h
    exact ⟨atStop, hstop, huntouched.ledger.trans (ProductLedger.prune_removed_retains _ _),
      huntouched.stationCycles, huntouched.actuationCycles⟩
  | send goal working =>
    refine ⟨hv.log, hv.state, fun g hg => ?_⟩
    rcases List.mem_cons.mp hg with rfl | hg
    · exact working_of_may_work working hlate
    · exact hv.goals g hg
  | _ => exact hv.of_same rfl rfl rfl rfl

theorem frozen_moves {x y : Supervision × Debt} (hv : Frozen x.1) (h : Moves x y)
    (hlate : ∀ l ∈ y.1.history.lapses, l.late = false) : Frozen y.1 := by
  induction h with
  | refl => exact hv
  | tail _ hmove ih =>
    exact frozen_move (ih fun l hl => hlate l (noted_of_move hmove hl)) hmove hlate

end Supervision

end InspectionLine
