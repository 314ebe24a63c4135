import InspectionLine.MegaEffects
import InspectionLine.RejectArm

/-! # Position reports

What becomes of the positionings of one conveyor, as its frames and its commands tell it. -/
namespace InspectionLine

open InputRuns MegaSerial

namespace Mega

inductive PositionEvent where
  | detected (sequence : UInt32) (starting : Bool)
  | reported (sequence : ℤ)
  | abandoned
  | running
  deriving DecidableEq, Repr

/-- What a sent frame tells of a conveyor; a detection is `starting` if it begins a positioning. -/
def positionEvent? (c : Fin 2) (starting : Bool) : MegaFrame → Option PositionEvent
  | .sensorEvent sensorId sequence =>
    if sensorId = c + 1 then some (.detected sequence starting) else none
  | .positionSettled conveyorId _ sequence =>
    if conveyorId = c + 1 then some (.reported sequence) else none
  | _ => none

/-- What a tick does with the positioning of a conveyor. RUN and STOP abandon it, and `running` is
the entry into that state. -/
def positionEvents (c : Fin 2) (m : Mega) (t : Tick) : List PositionEvent :=
  let before := (m.conveyors c).state
  let after := ((m.next t).conveyors c).state
  (if before = .positioning ∧ (m.driven? t).any (·.1 = c) then [.abandoned] else []) ++
    (((m.next t).log.drop m.log.length).map (·.frame)).filterMap
      (positionEvent? c (before = .running ∧ after = .positioning)) ++
    (if before ≠ .running ∧ after = .running then [.running] else [])

def positionHistory (c : Fin 2) (m : Mega) : List Tick → List PositionEvent
  | [] => []
  | t :: ticks => positionEvents c m t ++ positionHistory c (m.next t) ticks

/-- Nothing more comes before the conveyor runs again. -/
def UntilRunning (events : List PositionEvent) : Prop := ∀ e ∈ events.head?, e = .running

/-- The events before the conveyor runs again or its sensor reports again. -/
def beforeNext (later : List PositionEvent) : List PositionEvent :=
  later.takeWhile fun
    | .detected .. | .running => false
    | .reported _ | .abandoned => true

/-- What can follow the detection that starts a positioning. The firmware keeps its sequence in
a signed long. -/
inductive Followed (sequence : UInt32) : List PositionEvent → Prop where
  | positioning : Followed sequence []
  | reported (events : List PositionEvent) (hevents : UntilRunning events) :
      Followed sequence (.reported (toLong sequence.toNat) :: events)
  | abandoned (events : List PositionEvent) (hevents : UntilRunning events) :
      Followed sequence (.abandoned :: events)

/-! ### The phases of a conveyor -/

inductive PositionPhase where
  | free
  | opened (sequence : UInt32)
  | closed
  deriving DecidableEq, Repr

/-- The phases that an event may come in. -/
def PositionPhase.advance : PositionPhase → PositionEvent → Option PositionPhase
  | .free, .detected sequence true => some (.opened sequence)
  | .free, _ => some .free
  | .opened sequence, .reported r => if r = toLong sequence.toNat then some .closed else none
  | .opened _, .abandoned => some .closed
  | .closed, .running => some .free
  | _, _ => none

open PositionPhase (advance)

def PositionPhase.Fits : PositionPhase → ConveyorState × ℤ → Prop
  | .free, _ => True
  | .opened sequence, (state, r) => state = .positioning ∧ r = toLong sequence.toNat
  | .closed, (state, _) => state = .waitCamera ∨ state = .stopped

theorem dispatch_run (m : Mega) (sequence : ℤ) (arguments : List (List UInt8)) (millis : UInt32) :
    m.dispatch sequence (ascii "RUN") arguments millis =
      m.handleConveyorCommand sequence startContinuousRun arguments := by
  unfold dispatch
  rw [if_neg (by decide), if_neg (by decide), if_pos rfl]

theorem dispatch_stop (m : Mega) (sequence : ℤ) (arguments : List (List UInt8)) (millis : UInt32) :
    m.dispatch sequence (ascii "STOP") arguments millis =
      m.handleConveyorCommand sequence stopConveyor arguments := by
  unfold dispatch
  rw [if_neg (by decide), if_neg (by decide), if_neg (by decide), if_pos rfl]

theorem driven_state {m : Mega} {t : Tick} {c : Fin 2} {state : ConveyorState}
    (h : m.driven? t = some (c, state)) : ((m.next t).conveyors c).state = state := by
  cases hcommand : m.command? t with
  | none => simp [driven?, hcommand] at h
  | some command =>
    obtain ⟨sequence, operation, arguments⟩ := command
    obtain ⟨line, hcall, hparsed⟩ := Option.bind_eq_some_iff.mp hcommand
    cases t with
    | serialByte byte millis =>
      have hnext : (m.next (.serialByte byte millis)).conveyors =
          (m.dispatch sequence operation arguments millis).conveyors := by
        simp only [next, receive_eq, hcall, handle_command_eq, hparsed]
      rw [hnext]
      rw [driven?, hcommand] at h
      cases arguments with
      | nil => exact absurd h (Option.some_ne_none _).symm
      | cons text rest =>
        simp only at h
        split at h
        · rename_i hrun
          obtain ⟨index, hindex, heq⟩ := Option.map_eq_some_iff.mp h
          cases heq
          simp [hrun, dispatch_run, handleConveyorCommand, hindex, acknowledge, send,
            startContinuousRun, setConveyor]
        split at h
        · rename_i hstop
          obtain ⟨index, hindex, heq⟩ := Option.map_eq_some_iff.mp h
          cases heq
          simp [hstop, dispatch_stop, handleConveyorCommand, hindex, acknowledge, send,
            stopConveyor, setConveyor]
        · exact absurd h (Option.some_ne_none _).symm
    | _ => exact absurd hcall (Option.some_ne_none _).symm

theorem driven_is_run_or_stop {m : Mega} {t : Tick} {c : Fin 2} {state : ConveyorState}
    (h : m.driven? t = some (c, state)) : state = .running ∨ state = .stopped := by
  rw [driven?] at h
  split at h
  · split at h
    · obtain ⟨index, -, heq⟩ := Option.map_eq_some_iff.mp h
      exact .inl (Prod.mk.inj heq).2.symm
    split at h
    · obtain ⟨index, -, heq⟩ := Option.map_eq_some_iff.mp h
      exact .inr (Prod.mk.inj heq).2.symm
    · exact absurd h (Option.some_ne_none _).symm
  · exact absurd h (Option.some_ne_none _).symm

section Step

variable {c : Fin 2} {m : Mega} {t : Tick}

inductive PositionStep : ConveyorState × ℤ → ConveyorState × ℤ → List PositionEvent → Prop where
  | quiet (k : ConveyorState × ℤ) : PositionStep k k []
  | passing (k : ConveyorState × ℤ) (h : k.1 = .running) (sequence : UInt32) :
      PositionStep k k [.detected sequence false]
  | starting (k : ConveyorState × ℤ) (h : k.1 = .running) (sequence : UInt32) :
      PositionStep k (.positioning, toLong sequence.toNat) [.detected sequence true]
  | commanded (k : ConveyorState × ℤ) (h : k.1 = .running) (sequence : ℤ) :
      PositionStep k (.positioning, sequence) []
  | settled (k : ConveyorState × ℤ) (h : k.1 = .positioning) :
      PositionStep k (.waitCamera, k.2) [.reported k.2]
  | driven (k : ConveyorState × ℤ) (state : ConveyorState)
      (h : state = .running ∨ state = .stopped) :
      PositionStep k (state, k.2) ((if k.1 = .positioning then [.abandoned] else []) ++
        (if k.1 ≠ .running ∧ state = .running then [.running] else []))

theorem set_conveyor_self (k : Core) (index : Fin 2) (state : ConveyorState) (sequence : ℤ) :
    (k.setConveyor index state sequence).conveyors index = (state, sequence) :=
  Function.update_self ..

theorem set_conveyor_other (k : Core) {index : Fin 2} (h : c ≠ index) (state : ConveyorState)
    (sequence : ℤ) : (k.setConveyor index state sequence).conveyors c = k.conveyors c :=
  Function.update_of_ne h ..

@[simp] theorem detect_conveyors (k : Core) (index : Fin 3) :
    (k.detect index).conveyors = k.conveyors := rfl

theorem detection_conveyor_eq {index : Fin 3} :
    detectionConveyor index = some c ↔ (index : ℕ) + 1 = c + 1 := by
  revert index c
  decide

/-- What a tick tells of a conveyor, from the frames that it sends. -/
theorem position_events_eq {sent : List Emission} (hlog : (m.next t).log = m.log ++ sent)
    {before after : ConveyorState} (hbefore : (m.conveyors c).state = before)
    (hafter : ((m.next t).conveyors c).state = after) :
    positionEvents c m t =
      (if before = .positioning ∧ (m.driven? t).any (·.1 = c) then [.abandoned] else []) ++
        ((sent.map fun e => (e.frame, e.origin)).map (·.1)).filterMap
          (positionEvent? c (before = .running ∧ after = .positioning)) ++
        (if before ≠ .running ∧ after = .running then [.running] else []) := by
  rw [positionEvents, hbefore, hafter, hlog, List.drop_left, List.map_map]
  rfl

theorem not_driven {after : ConveyorState} (hafter : ((m.next t).conveyors c).state = after)
    (h : after ≠ .running ∧ after ≠ .stopped) : ¬ (m.driven? t).any (·.1 = c) := by
  intro hany
  cases hdriven : m.driven? t with
  | none => simp [hdriven] at hany
  | some command =>
  obtain ⟨index, state⟩ := command
  rw [hdriven] at hany
  obtain rfl : index = c := of_decide_eq_true hany
  rcases driven_is_run_or_stop hdriven with rfl | rfl
  · exact h.1 (hafter.symm.trans (driven_state hdriven))
  · exact h.2 (hafter.symm.trans (driven_state hdriven))

/-- The commands and the entry into RUNNING tell nothing where the state stays as it is. -/
theorem position_step_same {before after : ConveyorState × ℤ} (hsame : after = before)
    (hafter : ((m.next t).conveyors c).state = after.1) {events : List PositionEvent}
    (h : PositionStep before before events) :
    PositionStep before after
      ((if before.1 = .positioning ∧ (m.driven? t).any (·.1 = c) then [.abandoned] else []) ++
        events ++ (if before.1 ≠ .running ∧ after.1 = .running then [.running] else [])) := by
  subst hsame
  have hnot : ¬ (after.1 = .positioning ∧ (m.driven? t).any (·.1 = c)) :=
    fun ⟨hpositioning, hany⟩ => not_driven (hafter.trans hpositioning) (by decide) hany
  rw [if_neg hnot, if_neg fun hentry => hentry.1 hentry.2]
  simpa using h

theorem position_step (c : Fin 2) (m : Mega) (t : Tick) :
    PositionStep (m.core.conveyors c) ((m.next t).core.conveyors c) (positionEvents c m t) := by
  obtain ⟨sent, heffect, hlog⟩ := next_does m t
  have hbefore : (m.conveyors c).state = (m.core.conveyors c).1 := rfl
  have hafter : ((m.next t).conveyors c).state = ((m.next t).core.conveyors c).1 := rfl
  rw [position_events_eq hlog hbefore hafter]
  generalize (m.next t).core = k at heffect hafter ⊢
  generalize sent.map (fun e => (e.frame, e.origin)) = frames at heffect
  cases heffect with
  | driven index state sequence h =>
    by_cases hindex : c = index
    · subst hindex
      have hstep : PositionStep (m.core.conveyors c)
          (state, (m.conveyors c).positionSensorSequence) _ :=
        .driven (m.core.conveyors c) state (driven_is_run_or_stop h)
      simpa [set_conveyor_self, h, List.filterMap_cons, positionEvent?] using hstep
    · exact position_step_same (set_conveyor_other _ hindex _ _) hafter (.quiet _)
  | positionStarted index sequence h =>
    by_cases hindex : c = index
    · subst hindex
      have hrunning : (m.core.conveyors c).1 = .running := h
      have hstep := PositionStep.commanded (m.core.conveyors c) h sequence
      simpa [set_conveyor_self, hrunning, List.filterMap_cons, positionEvent?] using hstep
    · exact position_step_same (set_conveyor_other _ hindex _ _) hafter (.quiet _)
  | settled index h =>
    by_cases hindex : c = index
    · subst hindex
      have hpositioning : (m.core.conveyors c).1 = .positioning := h
      have hnot : ¬ (m.driven? t).any (·.1 = c) :=
        not_driven (hafter.trans (congrArg Prod.fst (set_conveyor_self ..))) ⟨nofun, nofun⟩
      have hstep : PositionStep (m.core.conveyors c)
          (.waitCamera, (m.conveyors c).positionSensorSequence)
          [.reported (m.conveyors c).positionSensorSequence] :=
        .settled (m.core.conveyors c) h
      simpa [set_conveyor_self, hpositioning, hnot, List.filterMap_cons, positionEvent?] using hstep
    · have hother : (index : ℕ) ≠ c := fun heq => hindex (Fin.ext heq.symm)
      refine position_step_same (set_conveyor_other _ hindex _ _) hafter ?_
      simpa [List.filterMap_cons, positionEvent?, hother] using
        PositionStep.quiet (m.core.conveyors c)
  | detected index h =>
    refine position_step_same rfl hafter ?_
    by_cases hindex : detectionConveyor index = some c
    · have hrunning : (m.core.conveyors c).1 = .running := h c hindex
      have hstep := PositionStep.passing (m.core.conveyors c) hrunning
        ((m.sensors index).detectionSequence + 1)
      simpa [List.filterMap_cons, positionEvent?, Nat.succ.inj (detection_conveyor_eq.mp hindex),
        hrunning] using hstep
    · have hother : (index : ℕ) ≠ c := fun heq =>
        hindex (detection_conveyor_eq.mpr (congrArg (· + 1) heq))
      simpa [List.filterMap_cons, positionEvent?, hother] using
        PositionStep.quiet (m.core.conveyors c)
  | detectedStarting index d hindex h =>
    by_cases hd : c = d
    · subst hd
      have hrunning : (m.core.conveyors c).1 = .running := h
      have hstep := PositionStep.starting (m.core.conveyors c) h
        ((m.sensors index).detectionSequence + 1)
      simpa [set_conveyor_self, List.filterMap_cons, positionEvent?,
        Nat.succ.inj (detection_conveyor_eq.mp hindex), hrunning] using hstep
    · have hother : (index : ℕ) ≠ c := fun heq => hd <| Option.some.inj <|
        (detection_conveyor_eq.mpr (congrArg (· + 1) heq)).symm.trans hindex
      refine position_step_same (set_conveyor_other _ hd _ _) hafter ?_
      simpa [List.filterMap_cons, positionEvent?, hother] using
        PositionStep.quiet (m.core.conveyors c)
  | _ => exact position_step_same rfl hafter (.quiet _)

/-- A phase that fits the conveyor goes on to one that fits it. -/
theorem PositionStep.advances {before after : ConveyorState × ℤ} {events : List PositionEvent}
    (h : PositionStep before after events) {phase : PositionPhase} (hfits : phase.Fits before) :
    ∃ phase', events.foldlM advance phase = some phase' ∧ phase'.Fits after := by
  cases phase with
  | free =>
    cases h with
    | starting h sequence => exact ⟨.opened sequence, rfl, rfl, rfl⟩
    | driven state h =>
      refine ⟨.free, ?_, trivial⟩
      split <;> split <;> rfl
    | _ => exact ⟨.free, rfl, trivial⟩
  | opened sequence =>
    obtain ⟨hstate, hr⟩ := hfits
    have hnot : before.1 ≠ .running := by
      rw [hstate]
      decide
    cases h with
    | quiet => exact ⟨.opened sequence, rfl, hstate, hr⟩
    | settled h =>
      have hreported : advance (.opened sequence) (.reported before.2) = some .closed := if_pos hr
      exact ⟨.closed, by rw [List.foldlM_cons, hreported]; rfl, .inl rfl⟩
    | driven state h =>
      rw [if_pos hstate]
      rcases h with rfl | rfl
      · exact ⟨.free, by rw [if_pos ⟨hnot, rfl⟩]; rfl, trivial⟩
      · exact ⟨.closed, by rw [if_neg fun hentry => nomatch hentry.2]; rfl, .inr rfl⟩
    | passing h | starting h | commanded h => exact absurd h hnot
  | closed =>
    have hwaits : before.1 ≠ .running ∧ before.1 ≠ .positioning := by
      rcases hfits with h | h <;> rw [h] <;> decide
    cases h with
    | quiet => exact ⟨.closed, rfl, hfits⟩
    | settled h => exact absurd h hwaits.2
    | driven state h =>
      rw [if_neg hwaits.2]
      rcases h with rfl | rfl
      · exact ⟨.free, by rw [if_pos ⟨hwaits.1, rfl⟩]; rfl, trivial⟩
      · exact ⟨.closed, by rw [if_neg fun hentry => nomatch hentry.2]; rfl, .inr rfl⟩
    | passing h | starting h | commanded h => exact absurd h hwaits.1

theorem history_advances (ticks : List Tick) : ∀ (m : Mega) (phase : PositionPhase),
    phase.Fits (m.core.conveyors c) → ∃ phase',
      (positionHistory c m ticks).foldlM advance phase = some phase' ∧
        phase'.Fits ((runTrace next m ticks).core.conveyors c) := by
  induction ticks with
  | nil => exact fun m phase hfits => ⟨phase, rfl, hfits⟩
  | cons t ticks ih =>
    intro m phase hfits
    obtain ⟨middle, hstep, hmiddle⟩ := (position_step c m t).advances hfits
    obtain ⟨last, hrest, hlast⟩ := ih (m.next t) middle hmiddle
    refine ⟨last, ?_, hlast⟩
    rw [positionHistory, List.foldlM_append, hstep]
    exact hrest

end Step

theorem arrival_reported {c : Fin 2} {m : Mega} (h : (m.conveyors c).state = .positioning) :
    positionEvents c m (.conveyor c true) = [.reported (m.conveyors c).positionSensorSequence] := by
  have hnext : m.next (.conveyor c true) =
      (m.setConveyor c { m.conveyors c with state := .waitCamera }).send
        (.positionSettled (c + 1) (m.conveyors c).positionTargetSteps
          (m.conveyors c).positionSensorSequence) := by
    simp [next, updateConveyor, h]
  have hafter : ((m.next (.conveyor c true)).conveyors c).state = .waitCamera := by
    simp [hnext, send, setConveyor]
  have hlog : (m.next (.conveyor c true)).log = m.log ++
      [⟨.positionSettled (c + 1) (m.conveyors c).positionTargetSteps
        (m.conveyors c).positionSensorSequence, .other, m.servoState⟩] := by
    rw [hnext]
    rfl
  rw [position_events_eq hlog h hafter]
  simp [driven?, command?, call?, positionEvent?]

theorem to_long_eq_iff (sequence : UInt32) :
    toLong sequence.toNat = sequence.toNat ↔ sequence.toNat < 2 ^ 31 := by
  have hbound : sequence.toNat < 2 ^ 32 := sequence.toNat_lt
  constructor
  · intro heq
    have hrange : toLong sequence.toNat < 2 ^ 31 := Int.bmod_lt (by decide)
    omega
  · intro hsmall
    rw [toLong, Int.bmod_eq_of_le] <;> omega

theorem until_running {events : List PositionEvent} {phase : PositionPhase}
    (h : events.foldlM advance .closed = some phase) : UntilRunning events := by
  intro e he
  cases events with
  | nil => exact absurd he (Option.not_mem_none e)
  | cons first rest =>
    obtain rfl := Option.some.inj he
    cases first with
    | running => rfl
    | _ => exact absurd h (Option.some_ne_none _).symm

theorem followed_of_advance {sequence : UInt32} {events : List PositionEvent}
    {phase : PositionPhase} (h : events.foldlM advance (.opened sequence) = some phase) :
    Followed sequence events := by
  cases events with
  | nil => exact .positioning
  | cons first rest =>
    cases first with
    | reported r =>
      have hadvance : advance (.opened sequence) (.reported r) =
          if r = toLong sequence.toNat then some .closed else none := rfl
      rw [List.foldlM_cons, hadvance] at h
      split at h
      · rename_i hr
        have hrest := until_running h
        rw [hr]
        exact Followed.reported rest hrest
      · exact absurd h (Option.some_ne_none _).symm
    | abandoned => exact .abandoned rest (until_running h)
    | detected | running => exact absurd h (Option.some_ne_none _).symm

theorem before_next_reported (r : ℤ) {events : List PositionEvent} (h : UntilRunning events) :
    beforeNext (.reported r :: events) = [.reported r] := by
  cases events with
  | nil => rfl
  | cons first rest =>
    obtain rfl : first = .running := h first rfl
    rfl

theorem before_next_abandoned {events : List PositionEvent} (h : UntilRunning events) :
    beforeNext (.abandoned :: events) = [.abandoned] := by
  cases events with
  | nil => rfl
  | cons first rest =>
    obtain rfl : first = .running := h first rfl
    rfl

/-- While nothing has followed a starting detection, the conveyor positions for it. -/
theorem position_followed (c : Fin 2) (ticks : List Tick) (earlier : List PositionEvent)
    (sequence : UInt32) (later : List PositionEvent)
    (h : positionHistory c setup ticks = earlier ++ .detected sequence true :: later) :
    Followed sequence later ∧ (later = [] →
      positionEvents c (runTrace next setup ticks) (.conveyor c true) =
        [.reported (toLong sequence.toNat)]) := by
  obtain ⟨last, hrun, hlast⟩ := history_advances (c := c) ticks setup .free trivial
  rw [h, List.foldlM_append] at hrun
  obtain ⟨middle, hearlier, hrun⟩ := Option.bind_eq_some_iff.mp hrun
  cases middle with
  | free =>
    have hlater : later.foldlM advance (.opened sequence) = some last := hrun
    refine ⟨followed_of_advance hlater, ?_⟩
    rintro rfl
    obtain rfl := Option.some.inj hlater
    obtain ⟨hstate, hr⟩ := hlast
    have hreported := arrival_reported hstate
    rwa [show (((runTrace next setup ticks).conveyors c).positionSensorSequence) =
      toLong sequence.toNat from hr] at hreported
  | opened | closed => exact absurd hrun (Option.some_ne_none _).symm

/-- What has followed a detection that starts a positioning is one report with its sequence,
before the conveyor runs again and its sensor reports again, exactly when the host has sent no RUN
or STOP to the positioning conveyor and the sequence fits into a long. As long as nothing has
followed, the arrival of the conveyor sends that report. -/
theorem positions_reported_iff (c : Fin 2) (ticks : List Tick) (earlier : List PositionEvent)
    (sequence : UInt32) (later : List PositionEvent)
    (h : positionHistory c setup ticks = earlier ++ .detected sequence true :: later) :
    (later ≠ [] → (beforeNext later = [.reported sequence.toNat] ↔
      .abandoned ∉ beforeNext later ∧ sequence.toNat < 2 ^ 31)) ∧
    (later = [] → sequence.toNat < 2 ^ 31 →
      positionEvents c (runTrace next setup ticks) (.conveyor c true) =
        [.reported sequence.toNat]) := by
  obtain ⟨hfollowed, harrival⟩ := position_followed c ticks earlier sequence later h
  refine ⟨fun hlater => ?_, fun hlater hsmall => ?_⟩
  · cases hfollowed with
    | positioning => exact absurd rfl hlater
    | reported events hevents =>
      rw [before_next_reported _ hevents, ← to_long_eq_iff]
      simp
    | abandoned events hevents =>
      rw [before_next_abandoned hevents]
      simp
  · rw [harrival hlater, (to_long_eq_iff sequence).mpr hsmall]

/-- A product before sensor 1: the ping, its echo, and the end of an echo of 5 cm. -/
def nearProduct : List Tick :=
  [.ultrasonic ⟨20000, false, 20000, 20000⟩, .ultrasonic ⟨20100, true, 20100, 20100⟩,
    .ultrasonic ⟨20400, false, 20400, 20400⟩]

def positionedProduct : List Tick :=
  hostCommand "C|1|SET_OFFSET|1|800" 0 ++ hostCommand "C|2|RUN|1" 0 ++ nearProduct

/-- The product of a run that ends with its arrival is reported. -/
theorem positioned_product_reported :
    beforeNext [.reported 1, .running] = [.reported (1 : UInt32).toNat] :=
  ((positions_reported_iff 0
    (positionedProduct ++ [.conveyor 0 true] ++ hostCommand "C|3|RUN|1" 0)
    [.running] 1 [.reported 1, .running] (by decide +kernel)).1 (by decide)).mpr
    ⟨by decide, by decide⟩

/-- A product whose positioning is abandoned by RUN is never reported. -/
theorem abandoned_positioning_unreported :
    ¬ ∀ (c : Fin 2) (ticks : List Tick) (earlier : List PositionEvent) (sequence : UInt32)
      (later : List PositionEvent),
      positionHistory c setup ticks = earlier ++ .detected sequence true :: later →
      beforeNext later ≠ later → ∃ before after,
        beforeNext later = before ++ .reported sequence.toNat :: after := by
  intro h
  obtain ⟨before, after, heq⟩ := h 0 (positionedProduct ++ hostCommand "C|3|RUN|1" 0) [.running] 1
    [.abandoned, .running] (by decide +kernel) (by decide)
  have hmem : PositionEvent.reported 1 ∈ beforeNext [.abandoned, .running] := by
    rw [heq]
    exact List.mem_append_right before List.mem_cons_self
  exact absurd hmem (by decide)

end Mega

end InspectionLine
