import InspectionLine.LineFraming

/-! # The clear flag of a sensor

`finishPing` and `abortPing` end the pings. A sensor is armed by the one and told clear by the
distance that both leave for the next report. -/
namespace InspectionLine

open InputRuns MegaSerial

inductive PingOutcome where
  | noEcho
  | measured (distanceCm : ℚ)
  deriving DecidableEq, Repr

/-- What the firmware takes for no object near: a timeout, or a distance to release at. -/
def PingOutcome.NoObjectNear : PingOutcome → Prop
  | .noEcho => True
  | .measured distanceCm => Mega.releaseDistanceCm ≤ distanceCm

instance (outcome : PingOutcome) : Decidable outcome.NoObjectNear := by
  cases outcome <;> dsimp only [PingOutcome.NoObjectNear] <;> infer_instance

/-- What is kept of an outcome; no distance is kept of a timeout. -/
def PingOutcome.distanceCm : PingOutcome → ℚ
  | .noEcho => -1
  | .measured distanceCm => distanceCm

def EquipmentReport.clear (report : EquipmentReport) : Fin 3 → Bool :=
  ![report.sensor1Clear, report.sensor2Clear, report.sensor3Clear]

namespace Mega

/-- The sensor whose ping ends with a tick, and how. -/
def outcome? (m : Mega) : Tick → Option (Fin 3 × PingOutcome)
  | .ultrasonic s =>
    match m.sonicState with
    | .idle => none
    | .waitEchoHigh =>
      if s.echoHigh then none
      else if s.now - m.pingStartUs > echoTimeoutUs then some (m.activeSensorIndex, .noEcho)
      else none
    | .waitEchoLow =>
      if !s.echoHigh then
        some (m.activeSensorIndex, .measured (echoDistanceCm (s.echoUs - m.echoStartUs)))
      else if s.now - m.echoStartUs > echoTimeoutUs then some (m.activeSensorIndex, .noEcho)
      else none
  | _ => none

def reported? (e : Emission) : Option EquipmentReport :=
  match e.frame with
  | .equipmentState report => some report
  | _ => none

/-- What the host was last told about the equipment. -/
def told (log : List Emission) : Option EquipmentReport := (log.filterMap reported?).getLast?

abbrev Unpinged (index : Fin 3) : Mega → Mega → Prop :=
  Execution next fun m t => ∀ outcome, m.outcome? t ≠ some (index, outcome)

/-- A sensor that sees no object is armed, and the reports until its next ping ends tell whether
it sees one. -/
def SensorAgrees (m : Mega) (index : Fin 3) (outcome : PingOutcome) : Prop :=
  (outcome.NoObjectNear → (m.sensors index).detectionArmed = true) ∧
    ∀ later, Unpinged index m later →
      (told (later.next .stateReport).log).map (·.clear index) = some (decide outcome.NoObjectNear)

theorem clear_equipment_report (m : Mega) (index : Fin 3) : m.equipmentReport.clear index =
    decide (releaseDistanceCm ≤ (m.sensors index).lastDistanceCm) := by
  refine Fin.cases rfl (fun i => ?_) index
  refine Fin.cases rfl (fun j => ?_) i
  exact Fin.cases rfl (fun k => k.elim0) j

/-! ### What a tick leaves alone -/

/-- Frames are sent that do not tell the state, and the last report stays the last one. -/
def Untold (m m' : Mega) : Prop :=
  m'.lastReported = m.lastReported ∧
    ∃ sent : List Emission, m'.log = m.log ++ sent ∧ sent.filterMap reported? = []

theorem Untold.refl (m : Mega) : Untold m m := ⟨rfl, [], (List.append_nil _).symm, rfl⟩

theorem Untold.trans {l m n : Mega} (h : Untold l m) (k : Untold m n) : Untold l n := by
  obtain ⟨hlast, sent, hlog, hsent⟩ := h
  obtain ⟨klast, more, klog, kmore⟩ := k
  refine ⟨klast.trans hlast, sent ++ more, ?_, ?_⟩
  · rw [klog, hlog, List.append_assoc]
  · rw [List.filterMap_append, hsent, kmore, List.append_nil]

theorem untold_of_eq {m m' : Mega} (hlast : m'.lastReported = m.lastReported)
    (hlog : m'.log = m.log) : Untold m m' :=
  ⟨hlast, [], by rw [hlog, List.append_nil], rfl⟩

theorem untold_send {m m' : Mega} (e : Emission) (he : reported? e = none)
    (hlast : m'.lastReported = m.lastReported) (hlog : m'.log = m.log ++ [e]) : Untold m m' :=
  ⟨hlast, [e], hlog, by simp [he]⟩

/-- The commands of the host and the motors do not touch the sensors. -/
def Unseen (m m' : Mega) : Prop := m'.sensors = m.sensors ∧ Untold m m'

theorem unseen_acknowledge {m m' : Mega} (h : Unseen m m') (sequence : ℤ) (status : String)
    (origin : Origin) : Unseen m (m'.acknowledge sequence status origin) :=
  ⟨h.1, h.2.trans (untold_send _ rfl rfl rfl)⟩

theorem unseen_of_eq {m m' : Mega} (hsensors : m'.sensors = m.sensors)
    (hlast : m'.lastReported = m.lastReported) (hlog : m'.log = m.log) : Unseen m m' :=
  ⟨hsensors, untold_of_eq hlast hlog⟩

theorem unseen_refl (m : Mega) : Unseen m m := unseen_of_eq rfl rfl rfl

theorem unseen_position (m : Mega) (index : Fin 2) (targetSteps sequence : ℤ) :
    Unseen m (m.startAutomaticPosition index targetSteps sequence).2 := by
  simp only [startAutomaticPosition]
  split
  · exact unseen_refl m
  · exact unseen_of_eq rfl rfl rfl

theorem unseen_dispatch (m : Mega) (sequence : ℤ) (operation : List UInt8)
    (arguments : List (List UInt8)) (millis : UInt32) :
    Unseen m (m.dispatch sequence operation arguments millis) := by
  have hanswer : ∀ status origin, Unseen m (m.acknowledge sequence status origin) :=
    unseen_acknowledge (unseen_refl m) sequence
  have hconveyor : ∀ act : Mega → Fin 2 → Mega, (∀ index, Unseen m (act m index)) →
      Unseen m (m.handleConveyorCommand sequence act arguments) := by
    intro act hact
    unfold handleConveyorCommand
    split
    · split
      · exact unseen_acknowledge (hact _) _ _ _
      · exact hanswer _ _
    · exact hanswer _ _
  unfold dispatch
  split
  · unfold handleHello
    split <;> exact hanswer _ _
  split
  · unfold handleSetOffset
    split
    · split
      · split
        · exact unseen_acknowledge (unseen_of_eq rfl rfl rfl) _ _ _
        · exact hanswer _ _
      · exact hanswer _ _
    · exact hanswer _ _
  split
  · exact hconveyor _ fun _ => unseen_of_eq rfl rfl rfl
  split
  · exact hconveyor _ fun _ => unseen_of_eq rfl rfl rfl
  split
  · unfold handleActuate
    split
    · simp only
      split
      · refine unseen_acknowledge ?_ _ _ _
        unfold startRejectCycle
        split
        · exact unseen_refl m
        · exact unseen_of_eq rfl rfl rfl
      split
      · have hsent := hanswer "OK" (.actuate 2)
        exact ⟨hsent.1, (hanswer _ _).2.trans (untold_send _ rfl rfl rfl)⟩
      · exact hanswer _ _
    · exact hanswer _ _
  split
  · unfold handlePosition
    split
    · split
      · split
        · exact unseen_acknowledge (unseen_position m _ _ _) _ _ _
        · exact hanswer _ _
      · exact hanswer _ _
    · exact hanswer _ _
  · exact hanswer _ _

theorem unseen_receive (m : Mega) (byte : UInt8) (millis : UInt32) :
    Unseen m (m.receive byte millis) := by
  have hcommand : ∀ line, Unseen m (m.handleCommand line millis) := by
    intro line
    unfold handleCommand
    split
    · exact unseen_refl m
    · split
      · split
        · exact unseen_dispatch m _ _ _ _
        · exact unseen_refl m
      · exact unseen_refl m
  unfold receive
  split
  · exact unseen_refl m
  split
  · split
    · exact unseen_refl m
    · obtain ⟨hsensors, htold⟩ := hcommand (m.rxBuffer.takeWhile (· ≠ 0))
      exact ⟨hsensors, htold.trans (untold_of_eq rfl rfl)⟩
  split <;> exact unseen_of_eq rfl rfl rfl

theorem unseen_conveyor (m : Mega) (index : Fin 2) (arrived : Bool) :
    Unseen m (m.updateConveyor index arrived) := by
  simp only [updateConveyor]
  split
  · split
    · exact ⟨rfl, untold_send _ rfl rfl rfl⟩
    · exact unseen_refl m
  all_goals exact unseen_refl m

theorem unseen_servo (m : Mega) (now : UInt32) : Unseen m (m.updateServo now) := by
  unfold updateServo
  split
  · exact unseen_refl m
  all_goals split
  · exact unseen_of_eq rfl rfl rfl
  · exact unseen_refl m
  · exact unseen_of_eq rfl rfl rfl
  · exact unseen_refl m
  · exact ⟨rfl, untold_send _ rfl rfl rfl⟩
  · exact unseen_refl m

/-! ### How a ping ends -/

/-- A detection concerns its own sensor, whose distance was noted before. -/
theorem handle_detection_sensors (m : Mega) (index : Fin 3) (distanceCm : ℚ) :
    Untold m (m.handleDetection index distanceCm) ∧
      (∀ j, j ≠ index → (m.handleDetection index distanceCm).sensors j = m.sensors j) ∧
      ((m.handleDetection index distanceCm).sensors index).lastDistanceCm =
        (m.sensors index).lastDistanceCm ∧
      (releaseDistanceCm ≤ distanceCm →
        ((m.handleDetection index distanceCm).sensors index).detectionArmed = true) := by
  have hreport : Untold m (m.reportDetection index) ∧
      (∀ j, j ≠ index → (m.reportDetection index).sensors j = m.sensors j) ∧
      ((m.reportDetection index).sensors index).lastDistanceCm =
        (m.sensors index).lastDistanceCm := by
    have hself : (m.reportDetection index).sensors index = { m.sensors index with
        detectionArmed := false, detectionSequence := (m.sensors index).detectionSequence + 1 } :=
      Function.update_self ..
    refine ⟨untold_send _ rfl rfl rfl, fun j hj => ?_, ?_⟩
    · exact Function.update_of_ne hj _ _
    · rw [hself]
  simp only [handleDetection]
  split
  · have hself : (m.setSensor index { m.sensors index with detectionArmed := true }).sensors index =
        { m.sensors index with detectionArmed := true } := Function.update_self ..
    refine ⟨untold_of_eq rfl rfl, fun j hj => Function.update_of_ne hj _ _, ?_, fun _ => ?_⟩
    · rw [hself]
    · rw [hself]
  rename_i hnear
  split
  · exact ⟨Untold.refl m, fun _ _ => rfl, rfl, fun h => absurd h hnear⟩
  split
  · exact ⟨hreport.1, hreport.2.1, hreport.2.2, fun h => absurd h hnear⟩
  split
  · exact ⟨Untold.refl m, fun _ _ => rfl, rfl, fun h => absurd h hnear⟩
  split
  · obtain ⟨hsensors, htold⟩ := unseen_position (m.reportDetection index) ‹Fin 2›
      (m.conveyors ‹Fin 2›).cameraOffsetSteps
      (toLong ((m.sensors index).detectionSequence + 1).toNat)
    refine ⟨hreport.1.trans htold, fun j hj => ?_, ?_, fun h => absurd h hnear⟩
    · rw [hsensors]
      exact hreport.2.1 j hj
    · rw [hsensors]
      exact hreport.2.2
  · exact ⟨hreport.1, hreport.2.1, hreport.2.2, fun h => absurd h hnear⟩

theorem min_valid_le_release : minValidDistanceCm ≤ releaseDistanceCm := by decide +kernel

/-- What the end of a ping does to its sensor: the distance is always noted, and a sensor that
sees no object is armed unless the distance is too far to be looked at. -/
structure Ended (m m' : Mega) (index : Fin 3) (outcome : PingOutcome) : Prop where
  untold : Untold m m'
  others : ∀ j, j ≠ index → m'.sensors j = m.sensors j
  noted : (m'.sensors index).lastDistanceCm = outcome.distanceCm
  armed : outcome.NoObjectNear → ((m'.sensors index).detectionArmed = true ↔
    outcome.distanceCm ≤ maxValidDistanceCm ∨ (m.sensors index).detectionArmed = true)

theorem finish_ping_ended (m : Mega) (distanceCm : ℚ) (doneUs : UInt32) :
    Ended m (m.finishPing distanceCm doneUs) m.activeSensorIndex (.measured distanceCm) := by
  obtain ⟨n, hn⟩ : ∃ n, n = m.setSensor m.activeSensorIndex
      { m.sensors m.activeSensorIndex with lastDistanceCm := distanceCm } := ⟨_, rfl⟩
  have huntold : Untold m n := hn ▸ untold_of_eq rfl rfl
  have hothers : ∀ j, j ≠ m.activeSensorIndex → n.sensors j = m.sensors j := fun j hj =>
    hn ▸ Function.update_of_ne hj _ _
  have hself : n.sensors m.activeSensorIndex =
      { m.sensors m.activeSensorIndex with lastDistanceCm := distanceCm } :=
    hn ▸ Function.update_self _ _ _
  obtain ⟨hhandled, hkept, hdistance, harmed⟩ :=
    handle_detection_sensors n m.activeSensorIndex distanceCm
  simp only [finishPing, ← hn]
  by_cases hvalid : minValidDistanceCm ≤ distanceCm ∧ distanceCm ≤ maxValidDistanceCm
  · rw [if_pos hvalid]
    refine ⟨(huntold.trans hhandled).trans (untold_of_eq rfl rfl), ?_, ?_, ?_⟩
    · exact fun j hj => (hkept j hj).trans (hothers j hj)
    · exact hdistance.trans (congrArg UltrasonicSensor.lastDistanceCm hself)
    · exact fun hfar => iff_of_true (harmed hfar) (.inl hvalid.2)
  · rw [if_neg hvalid]
    refine ⟨huntold.trans (untold_of_eq rfl rfl), hothers, ?_, fun hfar => ?_⟩
    · exact congrArg UltrasonicSensor.lastDistanceCm hself
    · have hmin : minValidDistanceCm ≤ distanceCm := Rat.le_trans min_valid_le_release hfar
      have hmax : ¬ distanceCm ≤ maxValidDistanceCm := fun h => hvalid ⟨hmin, h⟩
      have harm : (n.sensors m.activeSensorIndex).detectionArmed =
          (m.sensors m.activeSensorIndex).detectionArmed := by rw [hself]
      constructor
      · exact fun h => .inr (harm.symm.trans h)
      · exact fun h => harm.trans (h.resolve_left hmax)

theorem abort_ping_ended (m : Mega) (doneUs : UInt32) :
    Ended m (m.abortPing doneUs) m.activeSensorIndex .noEcho where
  untold := untold_of_eq rfl rfl
  others j hj := Function.update_of_ne hj _ _
  noted := congrArg UltrasonicSensor.lastDistanceCm (Function.update_self _ _ m.sensors)
  armed _ := by
    have hmax : PingOutcome.noEcho.distanceCm ≤ maxValidDistanceCm := by decide +kernel
    refine iff_of_true ?_ (.inl hmax)
    exact congrArg UltrasonicSensor.detectionArmed (Function.update_self _ _ m.sensors)

theorem ultrasonic_sensors (m : Mega) (s : SonicSample) :
    (∃ index outcome, m.outcome? (.ultrasonic s) = some (index, outcome) ∧
      Ended m (m.updateUltrasonicSensors s) index outcome) ∨
    m.outcome? (.ultrasonic s) = none ∧ Unseen m (m.updateUltrasonicSensors s) := by
  simp only [outcome?, updateUltrasonicSensors]
  cases m.sonicState with
  | idle =>
    right
    simp only [true_and]
    split
    · exact unseen_of_eq rfl rfl rfl
    · exact unseen_refl m
  | waitEchoHigh =>
    simp only
    split
    · exact .inr ⟨rfl, unseen_of_eq rfl rfl rfl⟩
    split
    · exact .inl ⟨_, _, rfl, abort_ping_ended m _⟩
    · exact .inr ⟨rfl, unseen_refl m⟩
  | waitEchoLow =>
    simp only
    split
    · exact .inl ⟨_, _, rfl, finish_ping_ended m _ _⟩
    split
    · exact .inl ⟨_, _, rfl, abort_ping_ended m _⟩
    · exact .inr ⟨rfl, unseen_refl m⟩

theorem next_ended {m : Mega} {t : Tick} {index : Fin 3} {outcome : PingOutcome}
    (h : m.outcome? t = some (index, outcome)) : Ended m (m.next t) index outcome := by
  cases t with
  | ultrasonic s =>
    rcases ultrasonic_sensors m s with ⟨i, o, heq, hended⟩ | ⟨hnone, -⟩
    · cases h.symm.trans heq
      exact hended
    · cases h.symm.trans hnone
  | serialByte byte millis => cases h
  | conveyor i arrived => cases h
  | servo millis => cases h
  | stateReport => cases h

theorem next_unpinged {m : Mega} {t : Tick} {index : Fin 3}
    (h : ∀ outcome, m.outcome? t ≠ some (index, outcome)) :
    (m.next t).sensors index = m.sensors index := by
  cases t with
  | ultrasonic s =>
    rcases ultrasonic_sensors m s with ⟨i, o, heq, hended⟩ | ⟨-, hunseen⟩
    · refine hended.others index ?_
      rintro rfl
      exact h o heq
    · exact congrFun hunseen.1 index
  | serialByte byte millis => exact congrFun (unseen_receive m byte millis).1 index
  | conveyor i arrived => exact congrFun (unseen_conveyor m i arrived).1 index
  | servo millis => exact congrFun (unseen_servo m millis).1 index
  | stateReport =>
    simp only [next, updateEquipmentStateReport]
    split <;> rfl

/-! ### What the host was told -/

/-- The report compares with what the host was told last. -/
def ToldLast (m : Mega) : Prop := m.lastReported = told m.log

theorem Untold.told_last {m m' : Mega} (h : Untold m m') (hm : ToldLast m) : ToldLast m' := by
  obtain ⟨hlast, sent, hlog, hsent⟩ := h
  rw [ToldLast, hlast, told, hlog, List.filterMap_append, hsent, List.append_nil]
  exact hm

theorem told_state_report {m : Mega} (hm : ToldLast m) :
    told (m.next .stateReport).log = some m.equipmentReport := by
  simp only [next, updateEquipmentStateReport]
  split
  · rename_i hsame
    exact hm.symm.trans hsame
  · simp [told, send, reported?]

theorem next_told_last {m : Mega} (hm : ToldLast m) (t : Tick) : ToldLast (m.next t) := by
  cases t with
  | ultrasonic s =>
    rcases ultrasonic_sensors m s with ⟨_, _, -, hended⟩ | ⟨-, hunseen⟩
    · exact hended.untold.told_last hm
    · exact hunseen.2.told_last hm
  | serialByte byte millis => exact (unseen_receive m byte millis).2.told_last hm
  | conveyor i arrived => exact (unseen_conveyor m i arrived).2.told_last hm
  | servo millis => exact (unseen_servo m millis).2.told_last hm
  | stateReport =>
    rw [ToldLast, told_state_report hm]
    simp only [next, updateEquipmentStateReport]
    split
    · assumption
    · rfl

/-- Until the next ping of the sensor ends, the reports tell the distance of the last one. -/
theorem told_until_pinged {m later : Mega} {index : Fin 3} (hm : ToldLast m)
    (hrun : Unpinged index m later) :
    (told (later.next .stateReport).log).map (·.clear index) =
      some (decide (releaseDistanceCm ≤ (m.sensors index).lastDistanceCm)) := by
  have hkept := hrun.invariant
    (P := fun n : Mega => ToldLast n ∧ n.sensors index = m.sensors index)
    (fun n t hn ht => ⟨next_told_last hn.1 t, (next_unpinged ht).trans hn.2⟩) ⟨hm, rfl⟩
  rw [told_state_report hkept.1, Option.map_some, clear_equipment_report, hkept.2]

/-- In every run, the flag agrees with the sensor after exactly these outcomes: a distance, and
one that is in the valid range or finds the sensor armed if it is far. -/
theorem clear_flag_agrees {m : Mega} (hrun : Run setup m) {t : Tick} {index : Fin 3}
    {outcome : PingOutcome} (h : m.outcome? t = some (index, outcome)) :
    SensorAgrees (m.next t) index outcome ↔
      ∃ distanceCm, outcome = .measured distanceCm ∧ (releaseDistanceCm ≤ distanceCm →
        distanceCm ≤ maxValidDistanceCm ∨ (m.sensors index).detectionArmed = true) := by
  have hended := next_ended h
  have htold : ToldLast (m.next t) :=
    next_told_last (hrun.invariant (P := ToldLast) (fun _ t hm _ => next_told_last hm t) rfl) t
  constructor
  · rintro ⟨harmed, hflag⟩
    cases outcome with
    | noEcho =>
      have hnear := (told_until_pinged htold (.refl _)).symm.trans (hflag _ (.refl _))
      rw [hended.noted] at hnear
      exact absurd hnear (by decide +kernel)
    | measured distanceCm =>
      exact ⟨distanceCm, rfl, fun hfar => (hended.armed hfar).mp (harmed hfar)⟩
  · rintro ⟨distanceCm, rfl, hcondition⟩
    refine ⟨fun hfar => (hended.armed hfar).mpr (hcondition hfar), fun later hlater => ?_⟩
    rw [told_until_pinged htold hlater, hended.noted]
    rfl

/-- The first ping starts, and sees the object at 343 / 20 cm. -/
def objectPassed : List Tick := [
  .ultrasonic { now := 20000, echoHigh := false, echoUs := 20012, doneUs := 0 },
  .ultrasonic { now := 20400, echoHigh := true, echoUs := 20404, doneUs := 0 }]

theorem object_passed_clear :
    SensorAgrees ((runTrace next setup objectPassed).next
        (.ultrasonic { now := 21400, echoHigh := false, echoUs := 21404, doneUs := 21420 })) 0
      (.measured (343 / 20)) := by
  have hrun : Run setup (runTrace next setup objectPassed) :=
    valid_trace_execution (valid_trace_of_total setup objectPassed)
  refine (clear_flag_agrees hrun (by decide +kernel)).mpr ⟨343 / 20, rfl, fun _ => .inl ?_⟩
  decide +kernel

/-- Nothing comes back of the first ping: the sensor is armed, and the host is told that it is not
clear. -/
theorem empty_belt_not_clear : ¬ ∀ m, Run setup m → ∀ t index outcome,
    m.outcome? t = some (index, outcome) → SensorAgrees (m.next t) index outcome := by
  intro h
  have hrun : Run setup (setup.next
      (.ultrasonic { now := 20000, echoHigh := false, echoUs := 20012, doneUs := 0 })) :=
    Execution.single trivial
  have hagrees := h _ hrun
    (.ultrasonic { now := 25100, echoHigh := false, echoUs := 0, doneUs := 25110 }) 0 .noEcho
    (by decide +kernel)
  exact absurd (hagrees.2 _ (.refl _)) (by decide +kernel)

end Mega

end InspectionLine
