import InspectionLine.MegaFirmware
import Mathlib.Data.List.Induction

/-! # The reject arm and the products that pass it

The servo moves only for accepted reject commands, and its end of cycle is reported. The
frames of a run therefore tell at each point whether the arm is home. -/
namespace InspectionLine

open InputRuns MegaSerial

namespace Emission

def passCompleted (e : Emission) : Bool :=
  e.origin = .actuate 2 &&
    match e.frame with
    | .actuationEvent status _ => status = "OK"
    | _ => false

def rejectAccepted (e : Emission) : Bool :=
  e.origin = .actuate 1 &&
    match e.frame with
    | .acknowledge _ status => status = "OK"
    | _ => false

def rejectCompleted (e : Emission) : Bool := e.origin = .servoCycle

end Emission

namespace Mega

/-- Every PASS completion is sent while the servo is home and idle. -/
def PassesAtHome (log : List Emission) : Prop :=
  ∀ e ∈ log, e.passCompleted → e.servoState = .ready

/-- Every PASS completion comes when all accepted reject commands have been completed. -/
def PassesAfterRejects (log : List Emission) : Prop :=
  ∀ i (h : i < log.length), log[i].passCompleted →
    (log.take i).countP Emission.rejectAccepted = (log.take i).countP Emission.rejectCompleted

instance (log : List Emission) : Decidable (PassesAfterRejects log) := by
  unfold PassesAfterRejects
  infer_instance

def outstanding (servo : ServoState) : ℕ := if servo = .ready then 0 else 1

structure ArmHistory (log : List Emission) (servo : ServoState) : Prop where
  balance : log.countP Emission.rejectAccepted =
    log.countP Emission.rejectCompleted + outstanding servo
  judged : ∀ i (h : i < log.length), log[i].passCompleted → (log[i].servoState = .ready ↔
    (log.take i).countP Emission.rejectAccepted = (log.take i).countP Emission.rejectCompleted)

theorem outstanding_eq_zero {servo : ServoState} : outstanding servo = 0 ↔ servo = .ready := by
  unfold outstanding
  split <;> simp [*]

theorem initial_arm_history : ArmHistory [] .ready where
  balance := rfl
  judged i h := absurd h (Nat.not_lt_zero i)

/-- The frames so far keep what was judged, and the new one is judged as it is sent. -/
theorem judged_snoc {log : List Emission} {servo : ServoState} (h : ArmHistory log servo)
    {e : Emission} (he : e.passCompleted → e.servoState = servo) :
    ∀ i (hi : i < (log ++ [e]).length), (log ++ [e])[i].passCompleted →
      ((log ++ [e])[i].servoState = .ready ↔
        ((log ++ [e]).take i).countP Emission.rejectAccepted =
          ((log ++ [e]).take i).countP Emission.rejectCompleted) := by
  intro i hi hpass
  by_cases hold : i < log.length
  · simp only [List.getElem_append_left hold] at hpass ⊢
    rw [List.take_append_of_le_length hold.le]
    exact h.judged i hold hpass
  · have hlast : i = log.length := by
      simp only [List.length_append, List.length_singleton] at hi
      omega
    subst hlast
    simp only [List.getElem_concat_length, List.take_left] at hpass ⊢
    rw [he hpass, ← outstanding_eq_zero]
    have hbalance := h.balance
    omega

def Quiet (m m' : Mega) : Prop :=
  m'.servoState = m.servoState ∧ ∃ sent : List Emission, m'.log = m.log ++ sent ∧
    ∀ e ∈ sent, e.servoState = m.servoState ∧ e.rejectAccepted = false ∧ e.rejectCompleted = false

theorem Quiet.refl (m : Mega) : Quiet m m := ⟨rfl, [], by simp, by simp⟩

theorem Quiet.trans {l m n : Mega} (h : Quiet l m) (k : Quiet m n) : Quiet l n := by
  obtain ⟨hservo, sent, hlog, hsent⟩ := h
  obtain ⟨kservo, more, klog, kmore⟩ := k
  refine ⟨kservo.trans hservo, sent ++ more, by rw [klog, hlog, List.append_assoc], ?_⟩
  intro e he
  rcases List.mem_append.mp he with he | he
  · exact hsent e he
  · exact hservo ▸ kmore e he

theorem quiet_of_eq {m m' : Mega} (hservo : m'.servoState = m.servoState)
    (hlog : m'.log = m.log) : Quiet m m' := ⟨hservo, [], by simp [hlog], by simp⟩

theorem quiet_send (m : Mega) (frame : MegaFrame) {origin : Origin}
    (haccepted : (Emission.mk frame origin m.servoState).rejectAccepted = false)
    (hcompleted : origin ≠ .servoCycle) : Quiet m (m.send frame origin) := by
  refine ⟨rfl, [⟨frame, origin, m.servoState⟩], rfl, ?_⟩
  simp [haccepted, Emission.rejectCompleted, hcompleted]

theorem quiet_send_other (m : Mega) (frame : MegaFrame) : Quiet m (m.send frame) :=
  quiet_send m frame (by simp [Emission.rejectAccepted]) (by simp)

theorem quiet_acknowledge (m : Mega) (sequence : ℤ) (status : String) :
    Quiet m (m.acknowledge sequence status) := quiet_send_other m _

theorem quiet_set_conveyor (m : Mega) (index : Fin 2) (conveyor : ConveyorController) :
    Quiet m (m.setConveyor index conveyor) := quiet_of_eq rfl rfl

theorem quiet_set_sensor (m : Mega) (index : Fin 3) (sensor : UltrasonicSensor) :
    Quiet m (m.setSensor index sensor) := quiet_of_eq rfl rfl

theorem quiet_start_automatic_position (m : Mega) (index : Fin 2) (target sequence : ℤ) :
    Quiet m (m.startAutomaticPosition index target sequence).2 := by
  simp only [startAutomaticPosition]
  by_cases hrunning : (m.conveyors index).state = .running
  · rw [if_neg (not_not.mpr hrunning)]
    exact quiet_set_conveyor ..
  · rw [if_pos hrunning]
    exact .refl m

theorem quiet_update_conveyor (m : Mega) (index : Fin 2) (arrived : Bool) :
    Quiet m (m.updateConveyor index arrived) := by
  simp only [updateConveyor]
  cases (m.conveyors index).state with
  | positioning =>
    cases arrived with
    | true => exact (quiet_set_conveyor ..).trans (quiet_send_other ..)
    | false => exact .refl m
  | running | waitCamera | stopped => exact .refl m

theorem quiet_report_detection (m : Mega) (index : Fin 3) : Quiet m (m.reportDetection index) :=
  (quiet_set_sensor ..).trans (quiet_send_other ..)

theorem quiet_handle_detection (m : Mega) (index : Fin 3) (distanceCm : ℚ) :
    Quiet m (m.handleDetection index distanceCm) := by
  have hreport := quiet_report_detection m index
  simp only [handleDetection]
  split
  · exact quiet_set_sensor ..
  · split
    · exact .refl m
    · split
      · exact hreport
      · split
        · exact .refl m
        · split
          · exact hreport.trans (quiet_start_automatic_position ..)
          · exact hreport

theorem quiet_end_ping (m : Mega) (doneUs : UInt32) : Quiet m (m.endPing doneUs) :=
  quiet_of_eq rfl rfl

theorem quiet_finish_ping (m : Mega) (distanceCm : ℚ) (doneUs : UInt32) :
    Quiet m (m.finishPing distanceCm doneUs) := by
  have hset := quiet_set_sensor m m.activeSensorIndex
    { m.sensors m.activeSensorIndex with lastDistanceCm := distanceCm }
  simp only [finishPing]
  split
  · exact (hset.trans (quiet_handle_detection ..)).trans (quiet_end_ping ..)
  · exact hset.trans (quiet_end_ping ..)

theorem quiet_abort_ping (m : Mega) (doneUs : UInt32) : Quiet m (m.abortPing doneUs) :=
  (quiet_set_sensor ..).trans (quiet_end_ping ..)

theorem quiet_update_ultrasonic_sensors (m : Mega) (s : SonicSample) :
    Quiet m (m.updateUltrasonicSensors s) := by
  unfold updateUltrasonicSensors
  split
  · split
    · exact quiet_of_eq rfl rfl
    · exact .refl m
  · split
    · exact quiet_of_eq rfl rfl
    · split
      · exact quiet_abort_ping ..
      · exact .refl m
  · split
    · exact quiet_finish_ping ..
    · split
      · exact quiet_abort_ping ..
      · exact .refl m

theorem quiet_update_equipment_state_report (m : Mega) :
    Quiet m m.updateEquipmentStateReport := by
  unfold updateEquipmentStateReport
  split
  · exact .refl m
  · exact (quiet_send_other m _).trans (quiet_of_eq rfl rfl)

def RejectStarts (m m' : Mega) : Prop :=
  m.servoState = .ready ∧ m'.servoState = .movingToWork ∧
    ∃ sequence, m'.log = m.log ++ [⟨.acknowledge sequence "OK", .actuate 1, .movingToWork⟩]

theorem handle_actuate_cases (m : Mega) (sequence : ℤ) (millis : UInt32)
    (arguments : List (List UInt8)) :
    Quiet m (m.handleActuate sequence millis arguments) ∨
      RejectStarts m (m.handleActuate sequence millis arguments) := by
  cases arguments with
  | nil => exact .inl (quiet_acknowledge ..)
  | cons commandText rest =>
    unfold handleActuate
    simp only
    by_cases hreject : atoi commandText = 1
    · rw [if_pos hreject, hreject]
      by_cases hready : m.servoState = .ready
      · right
        simp only [startRejectCycle, hready]
        exact ⟨hready, rfl, sequence, rfl⟩
      · left
        simp only [startRejectCycle, if_pos hready]
        exact quiet_send m _ (by simp [Emission.rejectAccepted]) (by simp)
    · left
      rw [if_neg hreject]
      have hquiet : ∀ (m : Mega) frame, Quiet m (m.send frame (.actuate (atoi commandText))) :=
        fun m frame => quiet_send m frame (by simp [Emission.rejectAccepted, hreject]) (by simp)
      split
      · exact (hquiet m _).trans (hquiet _ _)
      · exact hquiet m _

theorem quiet_handle_hello (m : Mega) (sequence : ℤ) (arguments : List (List UInt8)) :
    Quiet m (m.handleHello sequence arguments) := by
  cases arguments <;> exact quiet_acknowledge ..

theorem quiet_handle_set_offset (m : Mega) (sequence : ℤ) (arguments : List (List UInt8)) :
    Quiet m (m.handleSetOffset sequence arguments) := by
  unfold handleSetOffset
  split
  · split
    · split
      · exact (quiet_set_conveyor ..).trans (quiet_acknowledge ..)
      · exact quiet_acknowledge ..
    · exact quiet_acknowledge ..
  · exact quiet_acknowledge ..

theorem quiet_handle_conveyor_command (m : Mega) (sequence : ℤ) {act : Mega → Fin 2 → Mega}
    (hact : ∀ index, Quiet m (act m index)) (arguments : List (List UInt8)) :
    Quiet m (m.handleConveyorCommand sequence act arguments) := by
  unfold handleConveyorCommand
  split
  · split
    · exact (hact _).trans (quiet_acknowledge ..)
    · exact quiet_acknowledge ..
  · exact quiet_acknowledge ..

theorem quiet_handle_position (m : Mega) (sequence : ℤ) (arguments : List (List UInt8)) :
    Quiet m (m.handlePosition sequence arguments) := by
  unfold handlePosition
  split
  · split
    · split
      · exact (quiet_start_automatic_position ..).trans (quiet_acknowledge ..)
      · exact quiet_acknowledge ..
    · exact quiet_acknowledge ..
  · exact quiet_acknowledge ..

theorem handle_command_cases (m : Mega) (line : List UInt8) (millis : UInt32) :
    Quiet m (m.handleCommand line millis) ∨ RejectStarts m (m.handleCommand line millis) := by
  unfold handleCommand
  split
  · exact .inl (.refl m)
  · split
    · split
      · unfold dispatch
        split
        · exact .inl (quiet_handle_hello ..)
        · split
          · exact .inl (quiet_handle_set_offset ..)
          · split
            · exact .inl (quiet_handle_conveyor_command _ _ (fun _ => quiet_set_conveyor ..) _)
            · split
              · exact .inl (quiet_handle_conveyor_command _ _ (fun _ => quiet_set_conveyor ..) _)
              · split
                · exact handle_actuate_cases ..
                · split
                  · exact .inl (quiet_handle_position ..)
                  · exact .inl (quiet_acknowledge ..)
      · exact .inl (.refl m)
    · exact .inl (.refl m)

theorem receive_cases (m : Mega) (byte : UInt8) (millis : UInt32) :
    Quiet m (m.receive byte millis) ∨ RejectStarts m (m.receive byte millis) := by
  unfold receive
  split
  · exact .inl (.refl m)
  · split
    · split
      · exact .inl (.refl m)
      · rcases handle_command_cases m (m.rxBuffer.takeWhile (· ≠ 0)) millis with h | h
        · exact .inl (h.trans (quiet_of_eq rfl rfl))
        · exact .inr h
    · split <;> exact .inl (quiet_of_eq rfl rfl)

theorem quiet_preserves_arm_history {m m' : Mega} (h : ArmHistory m.log m.servoState)
    (hquiet : Quiet m m') : ArmHistory m'.log m'.servoState := by
  obtain ⟨hservo, sent, hlog, hsent⟩ := hquiet
  rw [hlog, hservo]
  clear hlog hservo
  -- one frame at a time, oldest first
  induction sent using List.reverseRecOn with
  | nil => simpa using h
  | append_singleton sent e ih =>
    have hold := ih fun d hd => hsent d (List.mem_append_left _ hd)
    obtain ⟨hstate, haccepted, hcompleted⟩ := hsent e (by simp)
    rw [← List.append_assoc]
    refine ⟨?_, judged_snoc hold fun _ => hstate⟩
    have hbalance := hold.balance
    simp only [List.countP_append, List.countP_singleton, haccepted, hcompleted] at hbalance ⊢
    simpa using hbalance

theorem start_preserves_arm_history {m m' : Mega} (h : ArmHistory m.log m.servoState)
    (hstart : RejectStarts m m') : ArmHistory m'.log m'.servoState := by
  obtain ⟨hready, hmoving, sequence, hlog⟩ := hstart
  rw [hlog, hmoving]
  refine ⟨?_, judged_snoc h ?_⟩
  · have hbalance := h.balance
    rw [hready] at hbalance
    simp only [List.countP_append, hbalance]
    rfl
  · intro hpass
    simp [Emission.passCompleted] at hpass

theorem phase_preserves_arm_history {log : List Emission} {servo phase : ServoState}
    (h : ArmHistory log servo) (hservo : servo ≠ .ready) (hphase : phase ≠ .ready) :
    ArmHistory log phase := by
  refine ⟨?_, h.judged⟩
  have hbalance := h.balance
  simpa only [outstanding, if_neg hservo, if_neg hphase] using hbalance

theorem update_servo_preserves_arm_history {m : Mega} (h : ArmHistory m.log m.servoState)
    (now : UInt32) : ArmHistory (m.updateServo now).log (m.updateServo now).servoState := by
  unfold updateServo
  split
  · exact h
  · rename_i hservo
    split
    · exact phase_preserves_arm_history h (by simp [hservo]) (by simp)
    · exact h
  · rename_i hservo
    split
    · exact phase_preserves_arm_history h (by simp [hservo]) (by simp)
    · exact h
  · rename_i hservo
    split
    · refine ⟨?_, judged_snoc h ?_⟩
      · have hbalance := h.balance
        rw [hservo] at hbalance
        simp only [sendActuationEvent, send, List.countP_append, hbalance]
        rfl
      · intro hpass
        simp [Emission.passCompleted] at hpass
    · exact h

theorem step_preserves_arm_history {m : Mega} (h : ArmHistory m.log m.servoState) (t : Tick) :
    ArmHistory (m.next t).log (m.next t).servoState := by
  cases t with
  | serialByte byte millis =>
    rcases receive_cases m byte millis with hquiet | hstart
    · exact quiet_preserves_arm_history h hquiet
    · exact start_preserves_arm_history h hstart
  | conveyor index arrived => exact quiet_preserves_arm_history h (quiet_update_conveyor ..)
  | ultrasonic sample => exact quiet_preserves_arm_history h (quiet_update_ultrasonic_sensors ..)
  | servo millis => exact update_servo_preserves_arm_history h millis
  | stateReport => exact quiet_preserves_arm_history h (quiet_update_equipment_state_report m)

theorem reachable_arm_history {m : Mega} (hrun : Run setup m) : ArmHistory m.log m.servoState :=
  hrun.invariant (P := fun m => ArmHistory m.log m.servoState)
    (fun _ t h _ => step_preserves_arm_history h t) initial_arm_history

/-- PASS completions meet the arm at home in exactly the runs in which each of them comes
when every accepted reject command has been completed. -/
theorem passes_at_home_iff {m : Mega} (hrun : Run setup m) :
    PassesAtHome m.log ↔ PassesAfterRejects m.log := by
  have hjudged := (reachable_arm_history hrun).judged
  constructor
  · intro hhome i hi hpass
    exact (hjudged i hi hpass).mp (hhome _ (List.getElem_mem hi) hpass)
  · intro hafter e he hpass
    obtain ⟨i, hi, rfl⟩ := List.getElem_of_mem he
    exact (hjudged i hi hpass).mpr (hafter i hi hpass)

/-- The ticks that receive a command of the host at a time. -/
def hostCommand (body : String) (millis : UInt32) : List Tick :=
  (withCrc (ascii body) ++ [newline]).map (.serialByte · millis)

/-- A PASS command behind a whole reject cycle. -/
def passAfterReject : List Tick :=
  hostCommand "C|1|ACTUATE|1" 0 ++ [.servo 500, .servo 3500, .servo 4000] ++
    hostCommand "C|2|ACTUATE|2" 4100

theorem pass_after_reject_at_home : PassesAtHome (runTrace next setup passAfterReject).log :=
  (passes_at_home_iff (valid_trace_execution (by decide +kernel))).mpr (by decide +kernel)

/-- A PASS command while the arm is on its way out. -/
theorem pass_meets_extended_arm : ¬ ∀ m, Run setup m → PassesAtHome m.log := by
  intro h
  have hlog : (runTrace next setup (hostCommand "C|1|ACTUATE|1" 0 ++
      hostCommand "C|2|ACTUATE|2" 100)).log = [
        ⟨.acknowledge 1 "OK", .actuate 1, .movingToWork⟩,
        ⟨.acknowledge 2 "OK", .actuate 2, .movingToWork⟩,
        ⟨.actuationEvent "OK" 2, .actuate 2, .movingToWork⟩] := by decide +kernel
  have hhome := h _ (valid_trace_execution (by decide +kernel : ValidTrace _ _ _
    (hostCommand "C|1|ACTUATE|1" 0 ++ hostCommand "C|2|ACTUATE|2" 100)))
  rw [hlog] at hhome
  exact absurd (hhome ⟨.actuationEvent "OK" 2, .actuate 2, .movingToWork⟩ (by simp) (by decide))
    (by decide)

end Mega

end InspectionLine
