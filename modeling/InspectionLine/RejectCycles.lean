import InspectionLine.MegaEffects
import Mathlib.Data.List.Chain

/-! # Reject cycles of the arm

The clock of the Mega wraps after 2^32 ms, so a run carries the true time beside it. The history of
a run is a series of whole cycles and at most one that has not come to its end. -/
namespace InspectionLine

open InputRuns MegaSerial

namespace Mega

inductive CycleEvent where
  | accepted (sequence : ℤ)
  | busy (sequence : ℤ)
  | worked
  | waited
  | completed (sequence : ℤ)
  deriving DecidableEq, Repr

/-- What a sent frame tells of the reject cycles. -/
def cycleEvent? : MegaFrame × Origin → Option CycleEvent
  | (.acknowledge sequence status, .actuate command) =>
    if command = 1 ∧ status = "OK" then some (.accepted sequence)
    else if command = 1 ∧ status = "BUSY" then some (.busy sequence)
    else none
  | (.actuationEvent _ sequence, .servoCycle) => some (.completed sequence)
  | _ => none

def phaseEvent? : ServoState → ServoState → Option CycleEvent
  | .movingToWork, .waiting => some .worked
  | .waiting, .movingHome => some .waited
  | _, _ => none

def cycleEvents (m : Mega) (t : Tick) : List CycleEvent :=
  (phaseEvent? m.servoState (m.next t).servoState).toList ++
    (((m.next t).log.drop m.log.length).map fun e => (e.frame, e.origin)).filterMap cycleEvent?

/-- How long the phase should last that a servo state stands for. -/
def phaseDelay : ServoState → UInt32
  | .ready => 0
  | .movingToWork | .movingHome => servoMoveDelayMs
  | .waiting => servoWaitTimeMs

inductive ServoStep (m : Mega) (t : Tick) (m' : Mega) : List CycleEvent → Prop where
  | quiet (hstate : m'.servoState = m.servoState)
      (hstart : m'.servoStateStartMs = m.servoStateStartMs)
      (hpending : m'.pendingActuationSequence = m.pendingActuationSequence)
      (hphase : ∀ now, t = .servo now → m.servoState ≠ .ready →
        now - m.servoStateStartMs < phaseDelay m.servoState)
      (events : List CycleEvent) (h : ∀ e ∈ events, ∃ s, e = .busy s) : ServoStep m t m' events
  | accepted (sequence : ℤ) (byte : UInt8) (millis : UInt32) (ht : t = .serialByte byte millis)
      (hready : m.servoState = .ready) (hstate : m'.servoState = .movingToWork)
      (hstart : m'.servoStateStartMs = millis)
      (hpending : m'.pendingActuationSequence = sequence) :
      ServoStep m t m' [.accepted sequence]
  | worked (now : UInt32) (ht : t = .servo now) (hbefore : m.servoState = .movingToWork)
      (h : servoMoveDelayMs ≤ now - m.servoStateStartMs) (hstate : m'.servoState = .waiting)
      (hstart : m'.servoStateStartMs = now)
      (hpending : m'.pendingActuationSequence = m.pendingActuationSequence) :
      ServoStep m t m' [.worked]
  | waited (now : UInt32) (ht : t = .servo now) (hbefore : m.servoState = .waiting)
      (h : servoWaitTimeMs ≤ now - m.servoStateStartMs) (hstate : m'.servoState = .movingHome)
      (hstart : m'.servoStateStartMs = now)
      (hpending : m'.pendingActuationSequence = m.pendingActuationSequence) :
      ServoStep m t m' [.waited]
  | completed (now : UInt32) (ht : t = .servo now) (hbefore : m.servoState = .movingHome)
      (h : servoMoveDelayMs ≤ now - m.servoStateStartMs) (hstate : m'.servoState = .ready) :
      ServoStep m t m' [.completed m.pendingActuationSequence]

/-- A phase ends with the first tick that sees its delay. -/
theorem phase_goes_on {m : Mega} {now : UInt32}
    (hsame : (m.updateServo now).servoState = m.servoState) (hbusy : m.servoState ≠ .ready) :
    now - m.servoStateStartMs < phaseDelay m.servoState := by
  by_contra hover
  rw [UInt32.not_lt] at hover
  cases hstate : m.servoState with
  | ready => exact hbusy hstate
  | movingToWork | waiting | movingHome =>
    rw [hstate] at hover
    simp [updateServo, hstate, phaseDelay] at hsame hover
    simp [hover, sendActuationEvent, send] at hsame

theorem servo_step (m : Mega) (t : Tick) : ServoStep m t (m.next t) (m.cycleEvents t) := by
  obtain ⟨sent, heffect, hlog⟩ := next_does m t
  have hsent : (m.next t).log.drop m.log.length = sent := by
    rw [hlog, List.drop_left]
  have hsame : ∀ s, phaseEvent? s s = none := by
    intro s
    cases s <;> rfl
  have hphase : (m.next t).servoState = m.servoState → ∀ now, t = .servo now →
      m.servoState ≠ .ready → now - m.servoStateStartMs < phaseDelay m.servoState := by
    rintro heq now rfl
    exact phase_goes_on heq
  rw [cycleEvents, hsent]
  generalize hcore : (m.next t).core = k at heffect
  have hstate : (m.next t).servoState = k.servoState := congrArg Core.servoState hcore
  have hstart : (m.next t).servoStateStartMs = k.servoStateStartMs :=
    congrArg Core.servoStateStartMs hcore
  have hpending : (m.next t).pendingActuationSequence = k.pendingActuationSequence :=
    congrArg Core.pendingActuationSequence hcore
  generalize sent.map (fun e => (e.frame, e.origin)) = frames at heffect
  rw [hstate]
  cases heffect with
  | rejectStarted sequence byte millis ht hactuation h =>
    have hphase : phaseEvent? m.servoState .movingToWork = none := by rw [h]; rfl
    rw [hphase]
    exact .accepted sequence byte millis ht h hstate hstart hpending
  | moved now ht before after delay hphase hbefore h =>
    rcases hphase with hphase | hphase
    · obtain ⟨rfl, rfl, rfl⟩ := hphase
      rw [hbefore]
      exact .worked now ht hbefore h hstate hstart hpending
    · obtain ⟨rfl, rfl, rfl⟩ := hphase
      rw [hbefore]
      exact .waited now ht hbefore h hstate hstart hpending
  | completed now ht hbefore h =>
    rw [hbefore]
    exact .completed now ht hbefore h hstate
  | rejectBusy sequence hactuation h =>
    have hnone : phaseEvent? m.servoState m.core.servoState = none := hsame m.servoState
    refine .quiet hstate hstart hpending (hphase hstate) _ fun e he => ?_
    rw [hnone] at he
    exact ⟨sequence, List.mem_singleton.mp he⟩
  | answered sequence status origin hstatus horigin hactuation =>
    have hnone : phaseEvent? m.servoState m.core.servoState = none := hsame m.servoState
    have hevent : cycleEvent? (.acknowledge sequence status, origin) = none := by
      cases origin with
      | actuate command =>
        have hcommand : command ≠ 1 := fun heq => horigin (congrArg Origin.actuate heq)
        simp [cycleEvent?, hcommand]
      | _ => rfl
    refine .quiet hstate hstart hpending (hphase hstate) _ fun e he => ?_
    simp [hnone, hevent] at he
  | _ =>
    have hnone : phaseEvent? m.servoState m.servoState = none := hsame m.servoState
    refine .quiet hstate hstart hpending (hphase hstate) _ fun e he => ?_
    simp [core, Core.setConveyor, Core.detect, hnone, cycleEvent?] at he

/-! ### Timed runs -/

/-- The Mega with the true time, the time of the last servo tick, and what has become of the
reject cycles so far. -/
structure Timed where
  mega : Mega := setup
  timeMs : ℕ := 0
  servoTickMs : ℕ := 0
  history : List (ℕ × CycleEvent) := []

def millisAt (timeMs : ℕ) : UInt32 := UInt32.ofNat timeMs

def Tick.ReadsAt (timeMs : ℕ) : Tick → Prop
  | .serialByte _ millis | .servo millis => millis = millisAt timeMs
  | .conveyor .. | .ultrasonic _ | .stateReport => True

def servoTickAfter (tickMs now : ℕ) : Tick → ℕ
  | .servo _ => now
  | _ => tickMs

namespace Timed

def next (w : Timed) (e : ℕ × Tick) : Timed where
  mega := w.mega.next e.2
  timeMs := e.1
  servoTickMs := servoTickAfter w.servoTickMs e.1 e.2
  history := w.history ++ (w.mega.cycleEvents e.2).map (e.1, ·)

/-- Time does not run backwards, and the clock shows it up to its wrap. -/
structure Admits (w : Timed) (e : ℕ × Tick) : Prop where
  later : w.timeMs ≤ e.1
  reads : e.2.ReadsAt e.1

abbrev Run : Timed → Timed → Prop := Execution next Admits

/-- The loop comes to the servo at least every so often. -/
def Prompt (gapMs : ℕ) (w : Timed) (e : ℕ × Tick) : Prop :=
  w.Admits e ∧ e.1 ≤ w.servoTickMs + gapMs

abbrev PromptRun (gapMs : ℕ) : Timed → Timed → Prop := Execution next (Prompt gapMs)

end Timed

/-- A whole reject cycle: none of its phases is shorter than it should be. -/
structure RejectCycle where
  sequence : ℤ
  acceptedMs : ℕ
  workedMs : ℕ
  waitedMs : ℕ
  completedMs : ℕ
  work : acceptedMs + 500 ≤ workedMs
  wait : workedMs + 3000 ≤ waitedMs
  home : waitedMs + 500 ≤ completedMs

def RejectCycle.events (c : RejectCycle) : List (ℕ × CycleEvent) :=
  [(c.acceptedMs, .accepted c.sequence), (c.workedMs, .worked), (c.waitedMs, .waited),
    (c.completedMs, .completed c.sequence)]

/-- The events of a cycle that is under way, as the state of the servo tells them. -/
inductive Pending (m : Mega) : List (ℕ × CycleEvent) → Prop where
  | ready (h : m.servoState = .ready) : Pending m []
  | working (acceptedMs : ℕ) (h : m.servoState = .movingToWork)
      (hstart : m.servoStateStartMs = millisAt acceptedMs) :
      Pending m [(acceptedMs, .accepted m.pendingActuationSequence)]
  | waiting (acceptedMs workedMs : ℕ) (h : m.servoState = .waiting)
      (hstart : m.servoStateStartMs = millisAt workedMs) (hwork : acceptedMs + 500 ≤ workedMs) :
      Pending m [(acceptedMs, .accepted m.pendingActuationSequence), (workedMs, .worked)]
  | homing (acceptedMs workedMs waitedMs : ℕ) (h : m.servoState = .movingHome)
      (hstart : m.servoStateStartMs = millisAt waitedMs) (hwork : acceptedMs + 500 ≤ workedMs)
      (hwait : workedMs + 3000 ≤ waitedMs) :
      Pending m [(acceptedMs, .accepted m.pendingActuationSequence), (workedMs, .worked),
        (waitedMs, .waited)]

def notBusy : ℕ × CycleEvent → Bool
  | (_, .busy _) => false
  | _ => true

theorem elapsed_shown {start now : ℕ} (h : start ≤ now) :
    (millisAt now - millisAt start).toNat = (now - start) % 2 ^ 32 := by
  rw [millisAt, millisAt, UInt32.toNat_sub, UInt32.toNat_ofNat', UInt32.toNat_ofNat']
  omega

theorem move_delay : servoMoveDelayMs.toNat = 500 := rfl

theorem wait_time : servoWaitTimeMs.toNat = 3000 := rfl

theorem elapsed_true {start now delayMs : ℕ} {delay : UInt32} (hdelay : delay.toNat = delayMs)
    (hle : start ≤ now) (h : delay ≤ millisAt now - millisAt start) : start + delayMs ≤ now := by
  have hshown := UInt32.le_iff_toNat_le.mp h
  rw [elapsed_shown hle] at hshown
  have hmod := Nat.mod_le (now - start) (2 ^ 32)
  omega

/-! ### One step -/

theorem Pending.congr {m m' : Mega} {events : List (ℕ × CycleEvent)} (h : Pending m events)
    (hstate : m'.servoState = m.servoState) (hstart : m'.servoStateStartMs = m.servoStateStartMs)
    (hpending : m'.pendingActuationSequence = m.pendingActuationSequence) : Pending m' events := by
  cases h with
  | ready h => exact .ready (hstate.trans h)
  | working acceptedMs h hs =>
    exact hpending ▸ .working acceptedMs (hstate.trans h) (hstart.trans hs)
  | waiting acceptedMs workedMs h hs hwork =>
    exact hpending ▸ .waiting acceptedMs workedMs (hstate.trans h) (hstart.trans hs) hwork
  | homing acceptedMs workedMs waitedMs h hs hwork hwait =>
    exact hpending ▸ .homing acceptedMs workedMs waitedMs (hstate.trans h) (hstart.trans hs) hwork
      hwait

/-- The last servo tick came before the running phase was over, and every phase that is over has
ended with the first tick after its delay. -/
def InTime (gapMs tickMs : ℕ) : List (ℕ × CycleEvent) → Prop
  | [accepted] => tickMs < accepted.1 + 500
  | [accepted, worked] => worked.1 < accepted.1 + 500 + gapMs ∧ tickMs < worked.1 + 3000
  | [accepted, worked, waited] => worked.1 < accepted.1 + 500 + gapMs ∧
    waited.1 < worked.1 + 3000 + gapMs ∧ tickMs < waited.1 + 500
  | _ => True

/-- The clock has not wrapped past a phase that the loop attends to often enough. -/
theorem phase_runs {start now gapMs tickMs delayMs : ℕ} {delay : UInt32}
    (hdelay : delay.toNat = delayMs) (hle : start ≤ now) (hgap : gapMs + delayMs ≤ 2 ^ 32)
    (hprompt : now ≤ tickMs + gapMs) (htick : tickMs < start + delayMs)
    (h : millisAt now - millisAt start < delay) : now < start + delayMs := by
  have hshown := UInt32.lt_iff_toNat_lt.mp h
  rw [elapsed_shown hle, Nat.mod_eq_of_lt (by omega)] at hshown
  omega

/-- A tick that leaves the servo alone leaves the cycle in time. -/
theorem Pending.still_in_time {m : Mega} {t : Tick} {pending : List (ℕ × CycleEvent)}
    {now gapMs tickMs : ℕ} (h : Pending m pending) (hreads : t.ReadsAt now)
    (hpast : ∀ e ∈ pending, e.1 ≤ now)
    (hphase : ∀ now, t = .servo now → m.servoState ≠ .ready →
      now - m.servoStateStartMs < phaseDelay m.servoState)
    (hgap : gapMs + 3000 ≤ 2 ^ 32) (hprompt : now ≤ tickMs + gapMs)
    (htime : InTime gapMs tickMs pending) : InTime gapMs (servoTickAfter tickMs now t) pending := by
  cases t with
  | servo clock =>
    obtain rfl : clock = millisAt now := hreads
    have hshown := hphase (millisAt now) rfl
    cases h with
    | ready h => trivial
    | working acceptedMs h hs =>
      rw [h, hs] at hshown
      exact phase_runs move_delay (hpast (acceptedMs, _) List.mem_cons_self) (by omega) hprompt
        htime (hshown (by decide))
    | waiting acceptedMs workedMs h hs hwork =>
      rw [h, hs] at hshown
      exact ⟨htime.1, phase_runs wait_time (hpast (workedMs, .worked) (by simp)) (by omega) hprompt
        htime.2 (hshown (by decide))⟩
    | homing acceptedMs workedMs waitedMs h hs hwork hwait =>
      rw [h, hs] at hshown
      exact ⟨htime.1, htime.2.1, phase_runs move_delay (hpast (waitedMs, .waited) (by simp))
        (by omega) hprompt htime.2.2 (hshown (by decide))⟩
  | _ => exact htime

/-- A tick adds to a history what goes on with the cycle that is under way. -/
theorem Pending.step {m m' : Mega} {t : Tick} {pending : List (ℕ × CycleEvent)}
    {events : List CycleEvent} {now tickMs : ℕ} (h : Pending m pending)
    (hstep : ServoStep m t m' events) (hreads : t.ReadsAt now) (hpast : ∀ e ∈ pending, e.1 ≤ now)
    (htick : tickMs ≤ now) :
    ∃ whole pending', pending ++ (events.map (now, ·)).filter notBusy =
      List.flatMap RejectCycle.events whole ++ pending' ∧ Pending m' pending' ∧
      ∀ gapMs, gapMs + 3000 ≤ 2 ^ 32 → now ≤ tickMs + gapMs → InTime gapMs tickMs pending →
        InTime gapMs (servoTickAfter tickMs now t) pending' := by
  cases hstep with
  | quiet hstate hstart hpending hphase events hbusy =>
    have hnone : (events.map (now, ·)).filter notBusy = [] := by
      rw [List.filter_eq_nil_iff]
      intro e he
      obtain ⟨event, hevent, rfl⟩ := List.mem_map.mp he
      obtain ⟨s, rfl⟩ := hbusy event hevent
      exact Bool.false_ne_true
    exact ⟨[], pending, by rw [hnone, List.append_nil]; rfl, h.congr hstate hstart hpending,
      fun gapMs hgap hprompt htime => h.still_in_time hreads hpast hphase hgap hprompt htime⟩
  | accepted sequence byte millis ht hready hstate hstart hpending =>
    subst ht
    cases h with
    | ready h =>
      refine ⟨[], [(now, .accepted sequence)], rfl, ?_, fun gapMs _ _ _ => ?_⟩
      · exact hpending ▸ .working now hstate (hstart.trans hreads)
      · exact lt_of_le_of_lt htick (Nat.lt_add_of_pos_right (by decide))
    | working _ h => cases h.symm.trans hready
    | waiting _ _ h => cases h.symm.trans hready
    | homing _ _ _ h => cases h.symm.trans hready
  | worked clock ht hbefore hdelay hstate hstart hpending =>
    subst ht
    cases h with
    | working acceptedMs h hs =>
      refine ⟨[], [(acceptedMs, .accepted m.pendingActuationSequence), (now, .worked)], rfl, ?_,
        fun gapMs _ hprompt htime => ?_⟩
      · rw [hs, hreads] at hdelay
        exact hpending ▸ .waiting acceptedMs now hstate (hstart.trans hreads)
          (elapsed_true move_delay (hpast _ List.mem_cons_self) hdelay)
      · simp only [InTime, servoTickAfter] at htime ⊢
        omega
    | ready h => cases h.symm.trans hbefore
    | waiting _ _ h => cases h.symm.trans hbefore
    | homing _ _ _ h => cases h.symm.trans hbefore
  | waited clock ht hbefore hdelay hstate hstart hpending =>
    subst ht
    cases h with
    | waiting acceptedMs workedMs h hs hwork =>
      refine ⟨[], [(acceptedMs, .accepted m.pendingActuationSequence), (workedMs, .worked),
        (now, .waited)], rfl, ?_, fun gapMs _ hprompt htime => ?_⟩
      · rw [hs, hreads] at hdelay
        exact hpending ▸ .homing acceptedMs workedMs now hstate (hstart.trans hreads) hwork
          (elapsed_true wait_time (hpast (workedMs, .worked) (by simp)) hdelay)
      · simp only [InTime, servoTickAfter] at htime ⊢
        omega
    | ready h => cases h.symm.trans hbefore
    | working _ h => cases h.symm.trans hbefore
    | homing _ _ _ h => cases h.symm.trans hbefore
  | completed clock ht hbefore hdelay hstate =>
    subst ht
    cases h with
    | homing acceptedMs workedMs waitedMs h hs hwork hwait =>
      rw [hs, hreads] at hdelay
      exact ⟨[⟨m.pendingActuationSequence, acceptedMs, workedMs, waitedMs, now, hwork, hwait,
        elapsed_true move_delay (hpast (waitedMs, .waited) (by simp)) hdelay⟩], [], rfl,
        .ready hstate, fun _ _ _ _ => trivial⟩
    | ready h => cases h.symm.trans hbefore
    | working _ h => cases h.symm.trans hbefore
    | waiting _ _ h => cases h.symm.trans hbefore

/-! ### Runs -/

structure Cycles (w : Timed) (whole : List RejectCycle) (pending : List (ℕ × CycleEvent)) :
    Prop where
  history : w.history.filter notBusy = whole.flatMap RejectCycle.events ++ pending
  pending : Pending w.mega pending

structure Ordered (w : Timed) : Prop where
  sorted : (w.history.map Prod.fst).Pairwise (· ≤ ·)
  past : ∀ e ∈ w.history, e.1 ≤ w.timeMs
  tick : w.servoTickMs ≤ w.timeMs

theorem next_ordered {w : Timed} {e : ℕ × Tick} (h : Ordered w) (he : w.Admits e) :
    Ordered (w.next e) := by
  have hbefore : ∀ p ∈ w.history, p.1 ≤ e.1 := fun p hp => (h.past p hp).trans he.later
  refine ⟨?_, fun p hp => ?_, ?_⟩
  · simp only [Timed.next, List.map_append, List.map_map]
    refine List.pairwise_append.mpr ⟨h.sorted, ?_, ?_⟩
    · refine List.pairwise_of_forall_mem_list fun a ha b hb => ?_
      obtain ⟨_, -, rfl⟩ := List.mem_map.mp ha
      obtain ⟨_, -, rfl⟩ := List.mem_map.mp hb
      exact le_rfl
    · intro a ha b hb
      obtain ⟨p, hp, rfl⟩ := List.mem_map.mp ha
      obtain ⟨_, -, rfl⟩ := List.mem_map.mp hb
      exact hbefore p hp
  · rcases List.mem_append.mp hp with hp | hp
    · exact hbefore p hp
    · obtain ⟨_, -, rfl⟩ := List.mem_map.mp hp
      exact le_rfl
  · have hold : w.servoTickMs ≤ e.1 := h.tick.trans he.later
    simp only [Timed.next, servoTickAfter]
    split
    · exact le_rfl
    · exact hold

theorem next_cycles {w : Timed} {e : ℕ × Tick} {whole : List RejectCycle}
    {pending : List (ℕ × CycleEvent)} (hordered : Ordered w) (h : Cycles w whole pending)
    (he : w.Admits e) :
    ∃ whole' pending', Cycles (w.next e) whole' pending' ∧
      ∀ gapMs, gapMs + 3000 ≤ 2 ^ 32 → e.1 ≤ w.servoTickMs + gapMs →
        InTime gapMs w.servoTickMs pending → InTime gapMs (w.next e).servoTickMs pending' := by
  have hpast : ∀ p ∈ pending, p.1 ≤ e.1 := by
    intro p hp
    have hin : p ∈ w.history.filter notBusy := h.history ▸ List.mem_append_right _ hp
    exact (hordered.past p (List.mem_of_mem_filter hin)).trans he.later
  obtain ⟨added, pending', hstep, hpending', htime⟩ := h.pending.step (servo_step w.mega e.2)
    he.reads hpast (hordered.tick.trans he.later)
  refine ⟨whole ++ added, pending', ⟨?_, hpending'⟩, ?_⟩
  · rw [Timed.next, List.filter_append, h.history, List.append_assoc, hstep, List.flatMap_append,
      List.append_assoc]
  · exact htime

theorem initial_ordered : Ordered {} where
  sorted := .nil
  past _ hp := absurd hp List.not_mem_nil
  tick := le_rfl

theorem run_ordered {w : Timed} (hrun : Timed.Run {} w) : Ordered w :=
  hrun.invariant (P := Ordered) (fun _ _ h he => next_ordered h he) initial_ordered

theorem initial_cycles : Cycles {} [] [] := ⟨rfl, .ready rfl⟩

theorem run_cycles {w : Timed} (hrun : Timed.Run {} w) :
    ∃ whole pending, Cycles w whole pending := by
  have hboth : Ordered w ∧ ∃ whole pending, Cycles w whole pending := by
    refine hrun.invariant (P := fun w => Ordered w ∧ ∃ whole pending, Cycles w whole pending) ?_
      ⟨initial_ordered, [], [], initial_cycles⟩
    rintro w e ⟨hordered, whole, pending, h⟩ he
    obtain ⟨whole', pending', h', -⟩ := next_cycles hordered h he
    exact ⟨next_ordered hordered he, whole', pending', h'⟩
  exact hboth.2

/-- A loop that comes to the servo often enough brings every cycle to its end. -/
theorem run_in_time {gapMs : ℕ} (hgap : gapMs + 3000 ≤ 2 ^ 32) {w : Timed}
    (hrun : Timed.PromptRun gapMs {} w) :
    ∃ whole pending, Cycles w whole pending ∧
      ∀ e ∈ pending, w.timeMs < e.1 + 4000 + 3 * gapMs := by
  have hall : Ordered w ∧ w.timeMs ≤ w.servoTickMs + gapMs ∧ ∃ whole pending,
      Cycles w whole pending ∧ InTime gapMs w.servoTickMs pending := by
    refine hrun.invariant (P := fun w => Ordered w ∧ w.timeMs ≤ w.servoTickMs + gapMs ∧
      ∃ whole pending, Cycles w whole pending ∧ InTime gapMs w.servoTickMs pending) ?_
      ⟨initial_ordered, Nat.zero_le _, [], [], initial_cycles, trivial⟩
    rintro w e ⟨hordered, -, whole, pending, h, htime⟩ ⟨he, hprompt⟩
    obtain ⟨whole', pending', h', htime'⟩ := next_cycles hordered h he
    refine ⟨next_ordered hordered he, ?_, whole', pending', h', htime' gapMs hgap hprompt htime⟩
    simp only [Timed.next, servoTickAfter]
    split
    · exact Nat.le_add_right _ _
    · exact hprompt
  obtain ⟨-, hprompt, whole, pending, h, htime⟩ := hall
  refine ⟨whole, pending, h, fun e he => ?_⟩
  cases h.pending with
  | ready _ => cases he
  | working acceptedMs _ _ =>
    simp only [List.mem_singleton, InTime] at he htime
    subst he
    omega
  | waiting acceptedMs workedMs _ _ _ =>
    simp only [List.mem_cons, List.not_mem_nil, or_false, InTime] at he htime
    rcases he with rfl | rfl <;> simp only <;> omega
  | homing acceptedMs workedMs waitedMs _ _ _ _ =>
    simp only [List.mem_cons, List.not_mem_nil, or_false, InTime] at he htime
    rcases he with rfl | rfl | rfl <;> simp only <;> omega

/-! ### The history and the frames -/

def framed : CycleEvent → Bool
  | .worked | .waited => false
  | _ => true

/-- The events with frames are those of the log. -/
theorem run_log {w : Timed} (hrun : Timed.Run {} w) :
    (w.history.map Prod.snd).filter framed =
      w.mega.log.filterMap fun e => cycleEvent? (e.frame, e.origin) := by
  refine hrun.invariant (P := fun w => (w.history.map Prod.snd).filter framed =
    w.mega.log.filterMap fun e => cycleEvent? (e.frame, e.origin)) ?_ rfl
  rintro w ⟨now, t⟩ h -
  obtain ⟨sent, -, hlog⟩ := next_does w.mega t
  have hsent : (w.mega.next t).log.drop w.mega.log.length = sent := by rw [hlog, List.drop_left]
  have hphase : ∀ a b, (phaseEvent? a b).toList.filter framed = [] := by
    intro a b
    cases a <;> cases b <;> rfl
  have hframes : ∀ frames : List (MegaFrame × Origin),
      (frames.filterMap cycleEvent?).filter framed = frames.filterMap cycleEvent? := by
    intro frames
    refine List.filter_eq_self.mpr fun e he => ?_
    obtain ⟨frame, -, hframe⟩ := List.mem_filterMap.mp he
    unfold cycleEvent? at hframe
    repeat' split at hframe
    all_goals first
      | (cases hframe; rfl)
      | cases hframe
  have hevents : (w.mega.cycleEvents t).filter framed =
      sent.filterMap fun e => cycleEvent? (e.frame, e.origin) := by
    rw [cycleEvents, hsent, List.filter_append, hphase, hframes, List.nil_append,
      List.filterMap_map]
    rfl
  simp only [Timed.next, List.map_append, List.filter_append, h, hlog, List.filterMap_append,
    List.map_map]
  rw [← hevents]
  congr 2
  exact List.map_id _

/-- A reject command is accepted if and only if the arm is at home, and is answered in any case. -/
theorem actuation_answered {m : Mega} {t : Tick} {sequence : ℤ}
    (h : m.actuation? t = some (sequence, 1)) : m.cycleEvents t =
      if m.servoState = .ready then [.accepted sequence] else [.busy sequence] := by
  cases t with
  | serialByte byte millis =>
    obtain ⟨rest, text, hcommand, hreject⟩ : ∃ rest text,
        m.command? (.serialByte byte millis) = some (sequence, ascii "ACTUATE", text :: rest) ∧
          atoi text = 1 := by
      unfold actuation? at h
      split at h
      · rename_i s operation text rest hcommand
        split at h
        · rename_i hoperation
          obtain ⟨rfl, hreject⟩ := Prod.mk.inj (Option.some.inj h)
          exact ⟨rest, text, hoperation ▸ hcommand, hreject⟩
        · cases h
      · cases h
    obtain ⟨line, hcall, hparsed⟩ := Option.bind_eq_some_iff.mp hcommand
    have hnext : m.next (.serialByte byte millis) =
        { m.handleActuate sequence millis (text :: rest) with
          rxBuffer := (LineBuffer.push lineFormat m.rxBuffer byte).1 } := by
      have hdispatch : m.dispatch sequence (ascii "ACTUATE") (text :: rest) millis =
          m.handleActuate sequence millis (text :: rest) := rfl
      rw [← hdispatch]
      show m.receive byte millis = _
      rw [receive_eq, hcall]
      simp only [handle_command_eq, hparsed]
    have hhandled : m.handleActuate sequence millis (text :: rest) =
        (m.startRejectCycle sequence millis).2.acknowledge sequence
          (if (m.startRejectCycle sequence millis).1 then "OK" else "BUSY") (.actuate 1) := by
      simp only [handleActuate, hreject, if_true]
    rw [cycleEvents, hnext, hhandled]
    by_cases hready : m.servoState = .ready
    · simp [startRejectCycle, hready, acknowledge, send, phaseEvent?, cycleEvent?]
    · have hsame : phaseEvent? m.servoState m.servoState = none := by
        cases m.servoState <;> rfl
      simp [startRejectCycle, hready, acknowledge, send, hsame, cycleEvent?]
  | _ => simp [actuation?, command?, call?] at h

/-- Accepted reject commands and completed cycles belong together one to one: no cycle overlaps
another, none is shorter than its phases, and none stays open in a loop that goes on. -/
theorem reject_cycles_one_to_one :
    (∀ w, Timed.Run {} w → Ordered w ∧ (∃ whole pending, Cycles w whole pending) ∧
      (w.history.map Prod.snd).filter framed =
        w.mega.log.filterMap fun e => cycleEvent? (e.frame, e.origin)) ∧
    (∀ gapMs w, gapMs + 3000 ≤ 2 ^ 32 → Timed.PromptRun gapMs {} w →
      ∃ whole pending, Cycles w whole pending ∧
        ∀ e ∈ pending, w.timeMs < e.1 + 4000 + 3 * gapMs) ∧
    ∀ (m : Mega) (t : Tick) (sequence : ℤ), m.actuation? t = some (sequence, 1) →
      m.cycleEvents t = if m.servoState = .ready then [.accepted sequence] else [.busy sequence] :=
  ⟨fun _ hrun => ⟨run_ordered hrun, run_cycles hrun, run_log hrun⟩,
    fun _ _ hgap hrun => run_in_time hgap hrun, fun _ _ _ h => actuation_answered h⟩

end Mega

end InspectionLine
