import InspectionLine.LineSupervision

/-! # The line-clear latch -/
namespace InspectionLine

namespace Supervision

/-- A record made under the latch keeps the policy and stays in the two stopped states, unless
it is the line clear, which leaves no product in the FIFO and no sensor event remembered. -/
def KeepsLatch (r : TransitionRecord) : Prop :=
  r.recoveryPolicy = .lineClearRequired ∧
    (r.transition.current = .faultStop ∨ r.transition.current = .resetting ∨
      r.transition.event = .resetSucceededEmptyLine ∧ r.line.ledger.active = [] ∧
        r.sensorEvents.eventDigests = .empty ∧ r.sensorEvents.lastSequence = .empty)

/-- Every transition made after a latched fault and before the line clear keeps the latch. -/
def LatchKept : List TransitionRecord → Prop
  | [] => True
  | r :: earlier => (lineClearLatched earlier = true → KeepsLatch r) ∧ LatchKept earlier

/-- The latch holds, in the log and in the state. -/
structure LatchHolds (v : Supervision) : Prop where
  log : LatchKept v.transitions
  policy : lineClearLatched v.transitions = true → v.recoveryPolicy = .lineClearRequired
  state : lineClearLatched v.transitions = true →
    v.systemState = .faultStop ∨ v.systemState = .resetting

/-- The events that are no fault and no successful reset. -/
def Harmless : SystemEvent → Bool
  | .criticalFault | .estopAsserted | .pauseFailed | .pauseTimeout
  | .resetSucceededEmptyLine | .resetSucceededInPlace => false
  | _ => true

theorem harmless_of_plain {event : SystemEvent} (h : Plain event = true) :
    Harmless event = true := by cases event <;> simp_all [Plain, Harmless]

/-- Without a successful reset the two stopped states only lead to each other. -/
theorem stopped_after {before after : SystemState} {event : SystemEvent}
    (h : before.after event = some after) (hplain : Harmless event = true)
    (hbefore : before = .faultStop ∨ before = .resetting) :
    after = .faultStop ∨ after = .resetting := by
  rcases hbefore with rfl | rfl <;> cases event <;>
    simp_all [SystemState.after, faultRule, transitionRule, Harmless]

theorem fault_after {before : SystemState} {t : SystemTransition}
    (h : before.after t.event = some t.current)
    (hevent : t.event = .criticalFault ∨ t.event = .estopAsserted) : t.current = .faultStop := by
  rcases hevent with he | he <;>
    simpa [he, SystemState.after, faultRule, eq_comm] using h

private theorem latched_enter (v : Supervision) (t : SystemTransition) (guards : GuardReport)
    (h : t.event ≠ .resetSucceededEmptyLine) :
    lineClearLatched (v.enter t guards).transitions = (lineClearLatched v.transitions ||
      (t.event = .criticalFault && v.recoveryPolicy = .lineClearRequired)) := by
  simp [enter, lineClearLatched, h]

theorem LatchHolds.of_same {v w : Supervision} (hv : LatchHolds v)
    (ht : w.transitions = v.transitions) (hp : w.recoveryPolicy = v.recoveryPolicy)
    (hs : w.systemState = v.systemState) : LatchHolds w :=
  ⟨ht ▸ hv.log, by rw [ht, hp]; exact hv.policy, by rw [ht, hs]; exact hv.state⟩

theorem latch_enter {v : Supervision} {t : SystemTransition} (guards : GuardReport)
    (hv : LatchHolds v) (accepted : Accepts v t) (harmless : Harmless t.event = true) :
    LatchHolds (v.enter t guards) := by
  have hempty : t.event ≠ .resetSucceededEmptyLine := by
    rintro he
    simp [he, Harmless] at harmless
  have hfault : t.event ≠ .criticalFault := by
    rintro he
    simp [he, Harmless] at harmless
  have hlatched :
      lineClearLatched (v.enter t guards).transitions = lineClearLatched v.transitions := by
    simp [latched_enter v t guards hempty, hfault]
  have hstopped : lineClearLatched v.transitions = true →
      t.current = .faultStop ∨ t.current = .resetting := fun h =>
    stopped_after accepted.2 harmless (hv.state h)
  constructor
  · refine ⟨fun h => ⟨hv.policy h, ?_⟩, hv.log⟩
    rcases hstopped h with hs | hs
    · exact .inl hs
    · exact .inr (.inl hs)
  · rw [hlatched]
    exact hv.policy
  · rw [hlatched]
    exact hstopped

theorem latch_fault {v : Supervision} {t : SystemTransition} {policy : RecoveryPolicy}
    (guards : GuardReport) (hv : LatchHolds v) (hcurrent : t.current = .faultStop)
    (hevent : t.event ≠ .resetSucceededEmptyLine)
    (hpolicy : policy = .lineClearRequired ∨ lineClearLatched v.transitions = false) :
    LatchHolds ({ v with recoveryPolicy := policy }.enter t guards) := by
  have hlatched := latched_enter { v with recoveryPolicy := policy } t guards hevent
  have hline : lineClearLatched
      ({ v with recoveryPolicy := policy }.enter t guards).transitions = true →
      policy = .lineClearRequired := by
    intro h
    rcases hpolicy with hp | hp
    · exact hp
    · simp only [hlatched, hp, Bool.false_or, Bool.and_eq_true, decide_eq_true_eq] at h
      exact h.2
  constructor
  · refine ⟨fun h => ⟨?_, .inl hcurrent⟩, hv.log⟩
    rcases hpolicy with hp | hp
    · exact hp
    · rw [hp] at h
      cases h
  · exact hline
  · exact fun _ => .inl hcurrent

theorem unlatched_of_policy {v : Supervision} (hv : LatchHolds v)
    (h : v.recoveryPolicy ≠ .lineClearRequired) : lineClearLatched v.transitions = false := by
  by_contra hl
  exact h (hv.policy (by simpa using hl))

theorem unlatched_of_state {v : Supervision} (hv : LatchHolds v)
    (hf : v.systemState ≠ .faultStop) (hr : v.systemState ≠ .resetting) :
    lineClearLatched v.transitions = false := by
  by_contra hl
  rcases hv.state (by simpa using hl) with hs | hs
  · exact hf hs
  · exact hr hs

/-- A successful reset ends the latch or finds none. -/
theorem latch_released {v w : Supervision} {r : TransitionRecord}
    (ht : w.transitions = r :: v.transitions) (hv : LatchHolds v)
    (hkeeps : lineClearLatched v.transitions = true → KeepsLatch r)
    (hafter : lineClearLatched w.transitions = false) : LatchHolds w := by
  constructor
  · rw [ht]
    exact ⟨hkeeps, hv.log⟩
  · intro h
    rw [hafter] at h
    cases h
  · intro h
    rw [hafter] at h
    cases h

theorem latch_move {x y : Supervision × Debt} (hv : LatchHolds x.1) (h : Move x y)
    (hkept : ¬Noted y.1 .weakenedLatch) : LatchHolds y.1 := by
  cases h with
  | transit accepted plain =>
    exact latch_enter _ hv accepted (harmless_of_plain plain)
  | grantRun accepted event =>
    exact (latch_enter _ hv accepted (by simp [event, Harmless])).of_same rfl rfl rfl
  | grantResume automatic accepted event =>
    refine (latch_enter _ hv accepted ?_).of_same rfl rfl rfl
    rcases event with he | he <;> simp [he, Harmless]
  | abandonRun accepted event =>
    refine (latch_enter _ hv accepted ?_).of_same rfl rfl rfl
    rcases event with he | he <;> simp [he, Harmless]
  | run equipment accepted event =>
    exact (latch_enter _ hv accepted (by simp [event, Harmless])).of_same rfl rfl rfl
  | pause accepted event =>
    refine (latch_enter _ hv accepted ?_).of_same rfl rfl rfl
    rcases event with he | he <;> simp [he, Harmless]
  | lineClearFault e accepted event =>
    exact (latch_fault _ hv (fault_after accepted.2 (.inl event)) (by simp [event])
      (.inl rfl)).of_same rfl rfl rfl
  | @equipmentFault v d t guards command reason equipment accepted event unlatched =>
    have hl := unlatched.resolve_right hkept
    have hreported : LatchHolds { v with equipment, pendingRunConfirmation := false } :=
      hv.of_same rfl rfl rfl
    refine (latch_fault guards hreported (fault_after accepted.2 event) ?_ (.inr hl)).of_same
      rfl rfl rfl
    rcases event with he | he <;> simp [he]
  | pauseFault accepted state event =>
    have hl := unlatched_of_state hv (by simp [state]) (by simp [state])
    have hafter := accepted.2
    rcases event with he | he <;>
      refine (latch_fault _ hv ?_ (by simp [he]) (.inr hl)).of_same rfl rfl rfl <;>
      simpa [he, state, SystemState.after, faultRule, transitionRule, eq_comm] using hafter
  | @lineClear v d t guards nowNs accepted event policy =>
    refine latch_released (v := v) rfl hv (fun _ => ⟨policy, .inr (.inr ⟨event, rfl, rfl, rfl⟩)⟩) ?_
    simp [enter, lineClearLatched, event]
  | @resetInPlace v d t guards accepted event policy =>
    have hl := unlatched_of_policy hv policy
    refine latch_released (v := v) rfl hv (fun h => ?_) ?_
    · rw [hl] at h
      cases h
    · simp [enter, lineClearLatched, event, hl]
  | _ => exact hv.of_same rfl rfl rfl

/-- As long as no weaker fault has taken over the policy, the latch holds. -/
theorem latch_moves {x y : Supervision × Debt} (hv : LatchHolds x.1) (h : Moves x y)
    (hkept : ¬Noted y.1 .weakenedLatch) : LatchHolds y.1 := by
  induction h with
  | refl => exact hv
  | tail _ hmove ih => exact latch_move (ih fun hn => hkept (noted_of_move hmove hn)) hmove hkept

end Supervision

end InspectionLine
