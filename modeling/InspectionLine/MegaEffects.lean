import InspectionLine.LineFraming

/-! # What one tick of the Mega does

A tick changes the conveyors, the sensors and the arm in few ways, and each of them goes with the
frames that are sent. -/
namespace InspectionLine

open InputRuns MegaSerial

namespace Mega

structure Core where
  conveyors : Fin 2 → ConveyorState × ℤ
  detections : Fin 3 → UInt32
  servoState : ServoState
  servoStateStartMs : UInt32
  pendingActuationSequence : ℤ

def core (m : Mega) : Core where
  conveyors index := ((m.conveyors index).state, (m.conveyors index).positionSensorSequence)
  detections index := (m.sensors index).detectionSequence
  servoState := m.servoState
  servoStateStartMs := m.servoStateStartMs
  pendingActuationSequence := m.pendingActuationSequence

def Core.setConveyor (k : Core) (index : Fin 2) (state : ConveyorState) (sequence : ℤ) : Core :=
  { k with conveyors := Function.update k.conveyors index (state, sequence) }

def Core.detect (k : Core) (index : Fin 3) : Core :=
  { k with detections := Function.update k.detections index (k.detections index + 1) }

/-- The sequence, operation and arguments of a line that is a command. -/
def parsed (line : List UInt8) : Option (ℤ × List UInt8 × List (List UInt8)) :=
  (verifyAndStripCrc line).bind fun body =>
    match strtok body with
    | type :: sequenceText :: operation :: arguments =>
      if type = ascii "C" then some (atol sequenceText, operation, arguments) else none
    | _ => none

def command? (m : Mega) (t : Tick) : Option (ℤ × List UInt8 × List (List UInt8)) :=
  (m.call? t).bind parsed

/-- The conveyor that a tick is told to run or to stop, and the state it is brought to. -/
def driven? (m : Mega) (t : Tick) : Option (Fin 2 × ConveyorState) :=
  match m.command? t with
  | some (_, operation, conveyorText :: _) =>
    if operation = ascii "RUN" then (conveyorIndex? (atoi conveyorText)).map (·, .running)
    else if operation = ascii "STOP" then (conveyorIndex? (atoi conveyorText)).map (·, .stopped)
    else none
  | _ => none

/-- The sequence of an ACTUATE command that a tick handles, and what it asks for. -/
def actuation? (m : Mega) (t : Tick) : Option (ℤ × ℤ) :=
  match m.command? t with
  | some (sequence, operation, commandText :: _) =>
    if operation = ascii "ACTUATE" then some (sequence, atoi commandText) else none
  | _ => none

def statuses : List String := ["OK", "BUSY", "ERR", "ERR_VERSION", "ERR_COMMAND"]

inductive Effect (m : Mega) (t : Tick) : Core → List (MegaFrame × Origin) → Prop where
  | still : Effect m t m.core []
  | answered (sequence : ℤ) (status : String) (origin : Origin) (hstatus : status ∈ statuses)
      (horigin : origin ≠ .actuate 1) (hactuation : ∀ s, m.actuation? t ≠ some (s, 1)) :
      Effect m t m.core [(.acknowledge sequence status, origin)]
  | driven (index : Fin 2) (state : ConveyorState) (sequence : ℤ)
      (h : m.driven? t = some (index, state)) :
      Effect m t (m.core.setConveyor index state (m.conveyors index).positionSensorSequence)
        [(.acknowledge sequence "OK", .other)]
  | positionStarted (index : Fin 2) (sequence : ℤ) (h : (m.conveyors index).state = .running) :
      Effect m t (m.core.setConveyor index .positioning sequence)
        [(.acknowledge sequence "OK", .other)]
  | settled (index : Fin 2) (h : (m.conveyors index).state = .positioning) :
      Effect m t
        (m.core.setConveyor index .waitCamera (m.conveyors index).positionSensorSequence)
        [(.positionSettled (index + 1) (m.conveyors index).positionTargetSteps
          (m.conveyors index).positionSensorSequence, .other)]
  | detected (index : Fin 3)
      (h : ∀ c ∈ detectionConveyor index, (m.conveyors c).state = .running) :
      Effect m t (m.core.detect index)
        [(.sensorEvent (index + 1) ((m.sensors index).detectionSequence + 1), .other)]
  | detectedStarting (index : Fin 3) (c : Fin 2) (hindex : detectionConveyor index = some c)
      (h : (m.conveyors c).state = .running) :
      Effect m t ((m.core.detect index).setConveyor c .positioning
          (toLong ((m.sensors index).detectionSequence + 1).toNat))
        [(.sensorEvent (index + 1) ((m.sensors index).detectionSequence + 1), .other)]
  | rejectStarted (sequence : ℤ) (byte : UInt8) (millis : UInt32) (ht : t = .serialByte byte millis)
      (hactuation : m.actuation? t = some (sequence, 1)) (h : m.servoState = .ready) :
      Effect m t { m.core with
          servoState := .movingToWork, servoStateStartMs := millis
          pendingActuationSequence := sequence }
        [(.acknowledge sequence "OK", .actuate 1)]
  | rejectBusy (sequence : ℤ) (hactuation : m.actuation? t = some (sequence, 1))
      (h : m.servoState ≠ .ready) :
      Effect m t m.core [(.acknowledge sequence "BUSY", .actuate 1)]
  | passed (sequence : ℤ) (hactuation : m.actuation? t = some (sequence, 2)) :
      Effect m t m.core [(.acknowledge sequence "OK", .actuate 2),
        (.actuationEvent "OK" sequence, .actuate 2)]
  | moved (now : UInt32) (ht : t = .servo now) (before after : ServoState) (delay : UInt32)
      (hphase : (before, after, delay) = (.movingToWork, .waiting, servoMoveDelayMs) ∨
        (before, after, delay) = (.waiting, .movingHome, servoWaitTimeMs))
      (hbefore : m.servoState = before) (h : delay ≤ now - m.servoStateStartMs) :
      Effect m t { m.core with servoState := after, servoStateStartMs := now } []
  | completed (now : UInt32) (ht : t = .servo now) (hbefore : m.servoState = .movingHome)
      (h : servoMoveDelayMs ≤ now - m.servoStateStartMs) :
      Effect m t { m.core with servoState := .ready, pendingActuationSequence := 0 }
        [(.actuationEvent "OK" m.pendingActuationSequence, .servoCycle)]
  | reported (report : EquipmentReport) :
      Effect m t m.core [(.equipmentState report, .other)]

theorem core_set_conveyor (m : Mega) (index : Fin 2) (conveyor : ConveyorController) :
    (m.setConveyor index conveyor).core =
      m.core.setConveyor index conveyor.state conveyor.positionSensorSequence := by
  have hconveyors : (m.setConveyor index conveyor).core.conveyors =
      Function.update m.core.conveyors index
        (conveyor.state, conveyor.positionSensorSequence) := by
    funext i
    by_cases hi : i = index
    · subst hi
      simp [core, setConveyor]
    · simp [core, setConveyor, hi]
  exact congrArg (fun conveyors => { m.core with conveyors }) hconveyors

theorem core_set_sensor (m : Mega) (index : Fin 3) (sensor : UltrasonicSensor) :
    (m.setSensor index sensor).core = { m.core with
      detections := Function.update m.core.detections index sensor.detectionSequence } := by
  have hdetections : (m.setSensor index sensor).core.detections =
      Function.update m.core.detections index sensor.detectionSequence := by
    funext i
    by_cases hi : i = index
    · subst hi
      simp [core, setSensor]
    · simp [core, setSensor, hi]
  exact congrArg (fun detections => { m.core with detections }) hdetections

theorem core_set_sensor_same (m : Mega) (index : Fin 3) {sensor : UltrasonicSensor}
    (h : sensor.detectionSequence = (m.sensors index).detectionSequence) :
    (m.setSensor index sensor).core = m.core := by
  rw [core_set_sensor, h]
  exact congrArg (fun detections => { m.core with detections }) (Function.update_eq_self _ _)

theorem handle_command_eq (m : Mega) (line : List UInt8) (millis : UInt32) :
    m.handleCommand line millis =
      match parsed line with
      | some (sequence, operation, arguments) => m.dispatch sequence operation arguments millis
      | none => m := by
  unfold handleCommand parsed
  cases verifyAndStripCrc line with
  | none => rfl
  | some body =>
    simp only [Option.bind_some]
    split
    · rename_i hstrtok
      split <;> simp_all
    · rename_i hshort
      split <;> simp_all

def Does (m : Mega) (t : Tick) (m' : Mega) : Prop :=
  ∃ sent, Effect m t m'.core (sent.map fun e => (e.frame, e.origin)) ∧ m'.log = m.log ++ sent

variable {m : Mega} {t : Tick}

theorem does_of_effect {m' : Mega} {k : Core} (sent : List Emission) (hcore : m'.core = k)
    (h : Effect m t k (sent.map fun e => (e.frame, e.origin))) (hlog : m'.log = m.log ++ sent) :
    Does m t m' :=
  ⟨sent, hcore ▸ h, hlog⟩

theorem does_still {m' : Mega} (hcore : m'.core = m.core) (hlog : m'.log = m.log) :
    Does m t m' :=
  does_of_effect [] hcore .still (by rw [hlog, List.append_nil])

theorem does_answered {sequence : ℤ} {status : String} {origin : Origin}
    (hstatus : status ∈ statuses) (horigin : origin ≠ .actuate 1)
    (hactuation : ∀ s, m.actuation? t ≠ some (s, 1)) :
    Does m t (m.acknowledge sequence status origin) :=
  does_of_effect [⟨.acknowledge sequence status, origin, m.servoState⟩] rfl
    (.answered sequence status origin hstatus horigin hactuation) rfl

/-! ### Conveyors and sensors -/

theorem update_conveyor_does (index : Fin 2) (arrived : Bool) :
    Does m t (m.updateConveyor index arrived) := by
  simp only [updateConveyor]
  cases hstate : (m.conveyors index).state with
  | positioning =>
    cases arrived with
    | false => exact does_still rfl rfl
    | true =>
      exact does_of_effect [⟨.positionSettled (index + 1) (m.conveyors index).positionTargetSteps
        (m.conveyors index).positionSensorSequence, .other, m.servoState⟩]
          (core_set_conveyor m index { m.conveyors index with state := .waitCamera })
            (.settled index hstate) rfl
  | _ => exact does_still rfl rfl

theorem core_report_detection (m : Mega) (index : Fin 3) :
    (m.reportDetection index).core = m.core.detect index :=
  core_set_sensor m index { m.sensors index with
    detectionArmed := false, detectionSequence := (m.sensors index).detectionSequence + 1 }

theorem core_start_position {index : Fin 2} (h : (m.conveyors index).state = .running)
    (targetSteps sequence : ℤ) :
    (m.startAutomaticPosition index targetSteps sequence).1 = true ∧
      (m.startAutomaticPosition index targetSteps sequence).2.core =
        m.core.setConveyor index .positioning sequence ∧
      (m.startAutomaticPosition index targetSteps sequence).2.log = m.log := by
  have hrunning : ¬ (m.conveyors index).state ≠ .running := not_not.mpr h
  simp only [startAutomaticPosition, if_neg hrunning]
  exact ⟨trivial, core_set_conveyor .., rfl⟩

/-- The scheduler notes a distance before it hands it on, so the state may differ in that. -/
theorem handle_detection_does {n : Mega} (hcore : n.core = m.core) (hlog : n.log = m.log)
    (hconveyors : n.conveyors = m.conveyors) (index : Fin 3) (distanceCm : ℚ) :
    Does m t (n.handleDetection index distanceCm) := by
  have hsequence : (n.sensors index).detectionSequence = (m.sensors index).detectionSequence :=
    congrArg (fun k : Core => k.detections index) hcore
  have hreport : (n.reportDetection index).core = m.core.detect index := by
    rw [core_report_detection, hcore]
  have hsent : (n.reportDetection index).log = m.log ++
      [⟨.sensorEvent (index + 1) ((m.sensors index).detectionSequence + 1), .other,
        n.servoState⟩] := by
    rw [← hsequence, ← hlog]
    rfl
  simp only [handleDetection, hconveyors]
  split
  · refine does_still (Eq.trans ?_ hcore) hlog
    exact core_set_sensor_same n index rfl
  split
  · exact does_still hcore hlog
  cases hindex : detectionConveyor index with
  | none => exact does_of_effect [_] hreport (.detected index (by simp [hindex])) hsent
  | some c =>
    simp only
    by_cases hrunning : (m.conveyors c).state = .running
    · rw [if_neg (not_not.mpr hrunning)]
      split
      · have hstate : ((n.reportDetection index).conveyors c).state = .running :=
          (congrArg (fun conveyors => (conveyors c).state) hconveyors).trans hrunning
        obtain ⟨-, hposition, hkept⟩ := core_start_position hstate
          (m.conveyors c).cameraOffsetSteps
          (toLong ((n.sensors index).detectionSequence + 1).toNat)
        refine does_of_effect [_] ?_ (.detectedStarting index c hindex hrunning)
          (hkept.trans hsent)
        rw [hposition, hreport, hsequence]
      · refine does_of_effect [_] hreport (.detected index fun d hd => ?_) hsent
        obtain rfl := Option.some.inj (hindex.symm.trans hd)
        exact hrunning
    · rw [if_pos hrunning]
      exact does_still hcore hlog

theorem finish_ping_does (distanceCm : ℚ) (doneUs : UInt32) :
    Does m t (m.finishPing distanceCm doneUs) := by
  have hcore : (m.setSensor m.activeSensorIndex { m.sensors m.activeSensorIndex with
      lastDistanceCm := distanceCm }).core = m.core :=
    core_set_sensor_same m _ rfl
  simp only [finishPing]
  split
  · obtain ⟨sent, heffect, hlog⟩ := handle_detection_does hcore rfl rfl m.activeSensorIndex
      distanceCm
    exact ⟨sent, heffect, hlog⟩
  · exact does_still hcore rfl

theorem abort_ping_does (doneUs : UInt32) : Does m t (m.abortPing doneUs) :=
  does_still (core_set_sensor_same m _ rfl) rfl

theorem ultrasonic_does (s : SonicSample) :
    Does m (.ultrasonic s) (m.updateUltrasonicSensors s) := by
  unfold updateUltrasonicSensors
  split
  · split <;> exact does_still rfl rfl
  · split
    · exact does_still rfl rfl
    · split
      · exact abort_ping_does ..
      · exact does_still rfl rfl
  · split
    · exact finish_ping_does ..
    · split
      · exact abort_ping_does ..
      · exact does_still rfl rfl

/-! ### The arm -/

theorem update_servo_does (now : UInt32) : Does m (.servo now) (m.updateServo now) := by
  unfold updateServo
  cases hstate : m.servoState with
  | ready => exact does_still rfl rfl
  | movingToWork =>
    simp only
    split
    · rename_i h
      exact does_of_effect [] rfl (.moved now rfl .movingToWork .waiting _ (.inl rfl) hstate h)
        (List.append_nil _).symm
    · exact does_still rfl rfl
  | waiting =>
    simp only
    split
    · rename_i h
      exact does_of_effect [] rfl (.moved now rfl .waiting .movingHome _ (.inr rfl) hstate h)
        (List.append_nil _).symm
    · exact does_still rfl rfl
  | movingHome =>
    simp only
    split
    · rename_i h
      exact does_of_effect [⟨.actuationEvent "OK" m.pendingActuationSequence, .servoCycle, .ready⟩]
        rfl (.completed now rfl hstate h) rfl
    · exact does_still rfl rfl

theorem state_report_does : Does m t m.updateEquipmentStateReport := by
  unfold updateEquipmentStateReport
  split
  · exact does_still rfl rfl
  · exact does_of_effect [_] rfl (.reported _) rfl

/-! ### Commands -/

section Command

variable {sequence : ℤ} {operation : List UInt8} {arguments : List (List UInt8)}

theorem no_actuation (hcommand : m.command? t = some (sequence, operation, arguments))
    (hother : operation ≠ ascii "ACTUATE" ∨ arguments = []) (r : ℤ × ℤ) :
    m.actuation? t ≠ some r := by
  rw [actuation?, hcommand]
  cases arguments with
  | nil => exact (Option.some_ne_none r).symm
  | cons text rest =>
    have hoperation : operation ≠ ascii "ACTUATE" :=
      hother.resolve_right (List.cons_ne_nil text rest)
    simp only [if_neg hoperation]
    exact (Option.some_ne_none r).symm

theorem hello_does (h : ∀ s, m.actuation? t ≠ some (s, 1)) :
    Does m t (m.handleHello sequence arguments) := by
  unfold handleHello
  split
  · split <;> exact does_answered (by decide) (by decide) h
  · exact does_answered (by decide) (by decide) h

/-- The offset of a conveyor is no part of what the frames are about. -/
theorem set_offset_does (h : ∀ s, m.actuation? t ≠ some (s, 1)) :
    Does m t (m.handleSetOffset sequence arguments) := by
  have herr : Does m t (m.acknowledge sequence "ERR") := does_answered (by decide) (by decide) h
  unfold handleSetOffset
  repeat' split
  all_goals first | exact herr | skip
  rename_i index _ _
  refine does_of_effect [⟨.acknowledge sequence "OK", .other, m.servoState⟩] ?_
    (.answered sequence "OK" .other (by decide) (by decide) h) rfl
  refine (core_set_conveyor m index _).trans ?_
  exact congrArg (fun conveyors => { m.core with conveyors }) (Function.update_eq_self _ _)

theorem conveyor_command_does (h : ∀ s, m.actuation? t ≠ some (s, 1)) {state : ConveyorState}
    {act : Mega → Fin 2 → Mega}
    (hact : ∀ index, (act m index).core = m.core.setConveyor index state
      (m.conveyors index).positionSensorSequence)
    (hlog : ∀ index, (act m index).log = m.log)
    (hdriven : ∀ text rest, arguments = text :: rest →
      m.driven? t = (conveyorIndex? (atoi text)).map (·, state)) :
    Does m t (m.handleConveyorCommand sequence act arguments) := by
  have herr : Does m t (m.acknowledge sequence "ERR") := does_answered (by decide) (by decide) h
  unfold handleConveyorCommand
  split
  · rename_i text rest
    have hdriven := hdriven text rest rfl
    cases hindex : conveyorIndex? (atoi text) with
    | none => exact herr
    | some index =>
      rw [hindex] at hdriven
      refine does_of_effect [⟨.acknowledge sequence "OK", .other, (act m index).servoState⟩]
        (hact index) (.driven index state sequence hdriven) ?_
      rw [← hlog index]
      rfl
  · exact herr

theorem actuate_does {byte : UInt8} {millis : UInt32}
    (hcommand : m.command? (.serialByte byte millis) =
      some (sequence, ascii "ACTUATE", arguments)) :
    Does m (.serialByte byte millis) (m.handleActuate sequence millis arguments) := by
  cases arguments with
  | nil =>
    exact does_answered (by decide) (by decide) fun s => no_actuation hcommand (.inr rfl) (s, 1)
  | cons text rest =>
    have hactuation : m.actuation? (.serialByte byte millis) = some (sequence, atoi text) := by
      rw [actuation?, hcommand]
      exact if_pos rfl
    simp only [handleActuate]
    by_cases hreject : atoi text = 1
    · rw [if_pos hreject]
      rw [hreject] at hactuation ⊢
      by_cases hready : m.servoState = .ready
      · simp only [startRejectCycle, hready, ne_eq, not_true_eq_false, if_false, if_true]
        exact does_of_effect [⟨.acknowledge sequence "OK", .actuate 1, .movingToWork⟩] rfl
          (.rejectStarted sequence byte millis rfl hactuation hready) rfl
      · simp only [startRejectCycle, ne_eq, hready, not_false_eq_true, if_true,
          Bool.false_eq_true, if_false]
        exact does_of_effect [⟨.acknowledge sequence "BUSY", .actuate 1, m.servoState⟩] rfl
          (.rejectBusy sequence hactuation hready) rfl
    · rw [if_neg hreject]
      split
      · rename_i hpass
        rw [hpass] at hactuation ⊢
        exact does_of_effect [⟨.acknowledge sequence "OK", .actuate 2, m.servoState⟩,
          ⟨.actuationEvent "OK" sequence, .actuate 2, m.servoState⟩] rfl
            (.passed sequence hactuation) (by simp [sendActuationEvent, acknowledge, send])
      · refine does_answered (by decide) ?_ fun s hs => ?_
        · exact fun horigin => hreject (Origin.actuate.inj horigin)
        · rw [hactuation] at hs
          exact hreject (Prod.mk.inj (Option.some.inj hs)).2

theorem position_does (h : ∀ s, m.actuation? t ≠ some (s, 1)) :
    Does m t (m.handlePosition sequence arguments) := by
  have hanswer : ∀ status ∈ statuses, Does m t (m.acknowledge sequence status) :=
    fun status hstatus => does_answered hstatus (by decide) h
  unfold handlePosition
  split
  · rename_i text stepsText rest
    cases hindex : conveyorIndex? (atoi text) with
    | none => exact hanswer "ERR" (by decide)
    | some index =>
      simp only
      split
      · by_cases hrunning : (m.conveyors index).state = .running
        · obtain ⟨hstarted, hcore, hlog⟩ :=
            core_start_position hrunning (atol stepsText) sequence
          generalize m.startAutomaticPosition index (atol stepsText) sequence = p at *
          obtain ⟨started, n⟩ := p
          simp only at hstarted hcore hlog
          rw [hstarted]
          exact does_of_effect [⟨.acknowledge sequence "OK", .other, n.servoState⟩] hcore
            (.positionStarted index sequence hrunning) (by rw [← hlog]; rfl)
        · simp only [startAutomaticPosition, ne_eq, hrunning, not_false_eq_true, if_true,
            Bool.false_eq_true, if_false]
          exact hanswer "BUSY" (by decide)
      · exact hanswer "ERR" (by decide)
  · exact hanswer "ERR" (by decide)

theorem dispatch_does {byte : UInt8} {millis : UInt32}
    (hcommand : m.command? (.serialByte byte millis) = some (sequence, operation, arguments)) :
    Does m (.serialByte byte millis) (m.dispatch sequence operation arguments millis) := by
  have hother : ∀ name, operation = ascii name → ascii name ≠ ascii "ACTUATE" →
      ∀ s, m.actuation? (.serialByte byte millis) ≠ some (s, 1) := fun name heq hne s =>
    no_actuation hcommand (.inl (heq ▸ hne)) (s, 1)
  unfold dispatch
  split
  · rename_i heq
    exact hello_does (hother _ heq (by decide))
  split
  · rename_i heq
    exact set_offset_does (hother _ heq (by decide))
  split
  · rename_i heq
    refine conveyor_command_does (hother _ heq (by decide)) (fun index => core_set_conveyor ..)
      (fun _ => rfl) fun text rest harguments => ?_
    rw [driven?, hcommand, harguments]
    exact if_pos heq
  split
  · rename_i hrun heq
    refine conveyor_command_does (hother _ heq (by decide)) (fun index => core_set_conveyor ..)
      (fun _ => rfl) fun text rest harguments => ?_
    rw [driven?, hcommand, harguments]
    exact (if_neg hrun).trans (if_pos heq)
  split
  · rename_i heq
    exact actuate_does (heq ▸ hcommand)
  split
  · rename_i heq
    exact position_does (hother _ heq (by decide))
  · rename_i hactuate _
    exact does_answered (by decide) (by decide) fun s =>
      no_actuation hcommand (.inl hactuate) (s, 1)

end Command

theorem receive_does (byte : UInt8) (millis : UInt32) :
    Does m (.serialByte byte millis) (m.receive byte millis) := by
  rw [receive_eq]
  cases hcall : m.call? (.serialByte byte millis) with
  | none => exact does_still rfl rfl
  | some line =>
    have hcommand : m.command? (.serialByte byte millis) = parsed line := by
      rw [command?, hcall]
      rfl
    simp only [handle_command_eq]
    cases hparsed : parsed line with
    | none => exact does_still rfl rfl
    | some command =>
      obtain ⟨sequence, operation, arguments⟩ := command
      obtain ⟨sent, heffect, hlog⟩ := dispatch_does (hcommand.trans hparsed)
      exact ⟨sent, heffect, hlog⟩

theorem next_does (m : Mega) (t : Tick) : Does m t (m.next t) := by
  cases t with
  | serialByte byte millis => exact receive_does byte millis
  | conveyor index arrived => exact update_conveyor_does index arrived
  | ultrasonic sample => exact ultrasonic_does sample
  | servo millis => exact update_servo_does millis
  | stateReport => exact state_report_does

end Mega

end InspectionLine
