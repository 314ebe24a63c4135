import InspectionLine.Constants

/-! # The system transition table

The table only says which event a state accepts. The guards belong to the callers. -/
namespace InspectionLine

inductive SystemEvent where
  | appStarted | initDone | initFailed | initTimeout | startRequest | startFailed
  | allConveyorsRunning | pauseRequest | recoverableDeviceFault | allConveyorsStopped
  | pauseFailed | pauseTimeout | resumeRequest | deviceRecovered | resumeFailed
  | criticalFault | resetRequest | resetSucceededEmptyLine | resetSucceededInPlace
  | resetFailed | resetTimeout | estopAsserted
  deriving DecidableEq, Repr

inductive RecoveryPolicy where
  | none | lineClearRequired | equipmentCheckRequired | retryInPlace
  deriving DecidableEq, Repr

structure SystemTransition where
  ruleId : String
  previous : SystemState
  event : SystemEvent
  current : SystemState
  reason : String
  deriving DecidableEq, Repr

/-- The rows of the table. A row that keeps the state still logs and retries. -/
def transitionRule : SystemState → SystemEvent → Option (String × SystemState)
  | .boot, .appStarted => some ("SYS-01", .initializing)
  | .initializing, .initDone => some ("SYS-02", .ready)
  | .initializing, .initFailed => some ("SYS-03", .initializing)
  | .initializing, .initTimeout => some ("SYS-03", .initializing)
  | .ready, .startRequest => some ("SYS-04", .ready)
  | .ready, .startFailed => some ("SYS-04", .ready)
  | .ready, .allConveyorsRunning => some ("SYS-04", .runSys)
  | .runSys, .pauseRequest => some ("SYS-05", .pausing)
  | .runSys, .recoverableDeviceFault => some ("SYS-05A", .pausing)
  | .pausing, .allConveyorsStopped => some ("SYS-06", .paused)
  | .pausing, .pauseFailed => some ("SYS-07", .faultStop)
  | .pausing, .pauseTimeout => some ("SYS-07", .faultStop)
  | .paused, .resumeRequest => some ("SYS-08", .paused)
  | .paused, .deviceRecovered => some ("SYS-08", .paused)
  | .paused, .resumeFailed => some ("SYS-08", .paused)
  | .paused, .allConveyorsRunning => some ("SYS-08", .runSys)
  | .faultStop, .resetRequest => some ("SYS-11", .resetting)
  | .resetting, .resetSucceededEmptyLine => some ("SYS-12", .ready)
  | .resetting, .resetSucceededInPlace => some ("SYS-12A", .paused)
  | .resetting, .resetFailed => some ("SYS-13", .resetting)
  | .resetting, .resetTimeout => some ("SYS-13", .resetting)
  | _, _ => none

/-- The events every state accepts. -/
def faultRule : SystemEvent → Option String
  | .criticalFault => some "SYS-10"
  | .estopAsserted => some "SYS-15"
  | _ => none

/-- `none` is the raised InvalidSystemTransition. -/
def decideSystemTransition (current : SystemState) (event : SystemEvent) (reason : String) :
    Option SystemTransition :=
  match faultRule event with
  | some ruleId =>
    some { ruleId, previous := current, event, current := .faultStop, reason }
  | none => (transitionRule current event).map fun rule =>
      { ruleId := rule.1, previous := current, event, current := rule.2, reason }

def SystemState.after (current : SystemState) (event : SystemEvent) : Option SystemState :=
  if (faultRule event).isSome then some .faultStop else (transitionRule current event).map (·.2)

theorem decide_system_transition_current (current : SystemState) (event : SystemEvent)
    (reason : String) :
    (decideSystemTransition current event reason).map (·.current) = current.after event := by
  unfold decideSystemTransition SystemState.after
  cases faultRule event with
  | some ruleId => simp
  | none => simp [Function.comp_def]

theorem decide_system_transition_spec {current : SystemState} {event : SystemEvent}
    {reason : String} {t : SystemTransition}
    (h : decideSystemTransition current event reason = some t) :
    t.previous = current ∧ t.event = event ∧ current.after event = some t.current := by
  refine ⟨?_, ?_, ?_⟩
  · unfold decideSystemTransition at h
    split at h
    · cases h
      rfl
    · obtain ⟨rule, _, rfl⟩ := Option.map_eq_some_iff.mp h
      rfl
  · unfold decideSystemTransition at h
    split at h
    · cases h
      rfl
    · obtain ⟨rule, _, rfl⟩ := Option.map_eq_some_iff.mp h
      rfl
  · rw [← decide_system_transition_current current event reason, h, Option.map_some]

end InspectionLine
