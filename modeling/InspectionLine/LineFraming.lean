import InspectionLine.LineBuffer
import InspectionLine.MegaFirmware
import Mathlib.Data.List.TakeWhile

/-! # Lines of the serial port

The receive buffer of the Mega is a bounded line buffer, and each line that it hands over is one
call of the command handler. -/
namespace InspectionLine

open InputRuns MegaSerial

namespace Mega

def lineFormat : LineBuffer.Format UInt8 where
  newline := newline
  ignored := carriageReturn
  capacity := rxCapacity
  distinct := by decide
  positive := by decide

/-- What a function that is given a buffer reads as its text. -/
def cString (buffer : List UInt8) : List UInt8 := buffer.takeWhile (· ≠ 0)

/-- The text that the command handler is called with, where a tick calls it. -/
def call? (m : Mega) : Tick → Option (List UInt8)
  | .serialByte byte _ =>
    if byte = newline ∧ m.rxBuffer ≠ [] then some (cString m.rxBuffer) else none
  | _ => none

def calls : Mega → List Tick → List (List UInt8)
  | _, [] => []
  | m, t :: ticks => (m.call? t).toList ++ calls (m.next t) ticks

def receivedByte? : Tick → Option UInt8
  | .serialByte byte _ => some byte
  | _ => none

def receivedBytes (ticks : List Tick) : List UInt8 := ticks.filterMap receivedByte?

def terminatedLines (bytes : List UInt8) : List (List UInt8) :=
  ((bytes.filter (· ≠ carriageReturn)).splitOn newline).dropLast

def expectedCalls (bytes : List UInt8) : List (List UInt8) :=
  (terminatedLines bytes).filter fun line => 1 ≤ line.length ∧ line.length ≤ 159

theorem push_byte (buffer : List UInt8) (byte : UInt8) :
    LineBuffer.push lineFormat buffer byte =
      if byte = carriageReturn then (buffer, none)
      else if byte = newline then ([], if buffer = [] then none else some buffer)
      else if buffer.length < rxCapacity - 1 then (buffer ++ [byte], none)
      else ([], none) := rfl

theorem call_eq (m : Mega) (byte : UInt8) (millis : UInt32) :
    m.call? (.serialByte byte millis) =
      (LineBuffer.push lineFormat m.rxBuffer byte).2.map cString := by
  rw [push_byte, call?]
  by_cases hreturn : byte = carriageReturn
  · have hnewline : ¬ byte = newline := hreturn ▸ by decide
    rw [if_pos hreturn, if_neg fun h => hnewline h.1]
    rfl
  by_cases hnewline : byte = newline
  · rw [if_neg hreturn, if_pos hnewline]
    by_cases hempty : m.rxBuffer = []
    · rw [if_neg fun h => h.2 hempty, if_pos hempty]
      rfl
    · rw [if_pos ⟨hnewline, hempty⟩, if_neg hempty]
      rfl
  · rw [if_neg fun h => hnewline h.1, if_neg hreturn, if_neg hnewline]
    split <;> rfl

/-- The commands are handled line by line; nothing else comes of a byte. -/
theorem receive_eq (m : Mega) (byte : UInt8) (millis : UInt32) : m.receive byte millis =
    { (match m.call? (.serialByte byte millis) with
        | some line => m.handleCommand line millis
        | none => m) with
      rxBuffer := (LineBuffer.push lineFormat m.rxBuffer byte).1 } := by
  rw [call_eq, push_byte, receive]
  by_cases hreturn : byte = carriageReturn
  · rw [if_pos hreturn, if_pos hreturn]
    rfl
  rw [if_neg hreturn, if_neg hreturn]
  by_cases hnewline : byte = newline
  · rw [if_pos hnewline, if_pos hnewline]
    by_cases hempty : m.rxBuffer = []
    · rw [if_pos hempty, if_pos hempty]
      simp only [Option.map_none, ← hempty]
    · rw [if_neg hempty, if_neg hempty]
      rfl
  · rw [if_neg hnewline, if_neg hnewline]
    split <;> rfl

theorem position_buffer (m : Mega) (index : Fin 2) (targetSteps sensorSequence : ℤ) :
    (m.startAutomaticPosition index targetSteps sensorSequence).2.rxBuffer = m.rxBuffer := by
  simp only [startAutomaticPosition]
  split <;> rfl

theorem handle_detection_buffer (m : Mega) (index : Fin 3) (distanceCm : ℚ) :
    (m.handleDetection index distanceCm).rxBuffer = m.rxBuffer := by
  simp only [handleDetection]
  repeat' split
  all_goals first | rfl | exact position_buffer ..

theorem next_buffer (m : Mega) {t : Tick} (h : receivedByte? t = none) :
    (m.next t).rxBuffer = m.rxBuffer := by
  cases t with
  | serialByte byte millis => cases h
  | conveyor index arrived =>
    simp only [next, updateConveyor]
    repeat' split
    all_goals rfl
  | ultrasonic sample =>
    simp only [next, updateUltrasonicSensors, startPing, abortPing, finishPing, endPing]
    repeat' split
    all_goals first | rfl | exact handle_detection_buffer ..
  | servo millis =>
    simp only [next, updateServo]
    repeat' split
    all_goals rfl
  | stateReport =>
    simp only [next, updateEquipmentStateReport]
    split <;> rfl

theorem calls_eq (m : Mega) (ticks : List Tick) :
    calls m ticks = (LineBuffer.lines lineFormat m.rxBuffer (receivedBytes ticks)).map cString := by
  induction ticks generalizing m with
  | nil => rfl
  | cons t ticks ih =>
    rw [calls, ih]
    cases hbyte : receivedByte? t with
    | none =>
      have hcall : m.call? t = none := by
        cases t <;> first | rfl | cases hbyte
      have hbytes : receivedBytes (t :: ticks) = receivedBytes ticks :=
        List.filterMap_cons_none hbyte
      rw [hcall, next_buffer m hbyte, hbytes]
      rfl
    | some byte =>
      cases t with
      | serialByte b millis =>
        obtain rfl := Option.some.inj hbyte
        have hcall : (m.call? (.serialByte b millis)).toList =
            (LineBuffer.push lineFormat m.rxBuffer b).2.toList.map cString := by
          rw [call_eq]
          cases (LineBuffer.push lineFormat m.rxBuffer b).2 <;> rfl
        have hbuffer : (m.next (.serialByte b millis)).rxBuffer =
            (LineBuffer.push lineFormat m.rxBuffer b).1 := by
          rw [next, receive_eq]
        rw [hcall, hbuffer, ← List.map_append]
        rfl
      | _ => cases hbyte

theorem c_string_eq_self {line : List UInt8} : cString line = line ↔ 0 ∉ line := by
  rw [cString, List.takeWhile_eq_self_iff]
  simp only [decide_eq_true_eq]
  exact ⟨fun h hzero => h 0 hzero rfl, fun h b hb hzero => h (hzero ▸ hb)⟩

/-- The handler is called exactly with the lines of at most 159 bytes, if and only if the longer
lines fill the buffer a whole number of times and the others have no NUL in them. -/
theorem line_framing (ticks : List Tick) :
    calls setup ticks = expectedCalls (receivedBytes ticks) ↔
      ∀ line ∈ terminatedLines (receivedBytes ticks),
        (159 < line.length → 160 ∣ line.length) ∧ (line.length ≤ 159 → 0 ∉ line) := by
  have hcalls : calls setup ticks = ((terminatedLines (receivedBytes ticks)).filterMap
      (LineBuffer.handedOver lineFormat)).map cString := by
    rw [calls_eq]
    exact congrArg (List.map cString) (LineBuffer.lines_eq lineFormat _)
  have hexpected : expectedCalls (receivedBytes ticks) =
      (terminatedLines (receivedBytes ticks)).filter (LineBuffer.Fits lineFormat ·) := by
    refine List.filter_congr fun line _ => ?_
    have hfits : LineBuffer.Fits lineFormat line ↔ 1 ≤ line.length ∧ line.length ≤ 159 :=
      and_congr_right fun _ => Nat.lt_succ_iff
    rw [decide_eq_decide, hfits]
  rw [hcalls, hexpected]
  generalize terminatedLines (receivedBytes ticks) = terminated
  constructor
  · intro heq
    have hlength := congrArg List.length heq
    rw [List.length_map] at hlength
    have hlost := (LineBuffer.lost_of_length lineFormat).2 hlength
    rw [LineBuffer.filter_map_of_lost lineFormat hlost] at heq
    refine fun line hline => ⟨fun hlong => hlost line hline hlong, fun hshort => ?_⟩
    cases line with
    | nil => exact List.not_mem_nil
    | cons b rest =>
      have hfits : LineBuffer.Fits lineFormat (b :: rest) :=
        ⟨Nat.succ_le_succ (Nat.zero_le _), Nat.lt_succ_of_le hshort⟩
      have hmem : b :: rest ∈ terminated.filter (LineBuffer.Fits lineFormat ·) :=
        List.mem_filter.mpr ⟨hline, decide_eq_true hfits⟩
      exact c_string_eq_self.mp (List.map_inj_left.mp (heq.trans (List.map_id _).symm) _ hmem)
  · intro h
    have hlost : LineBuffer.LongLost lineFormat terminated := fun line hline hlong =>
      (h line hline).1 hlong
    rw [LineBuffer.filter_map_of_lost lineFormat hlost]
    refine (List.map_congr_left fun line hline => ?_).trans (List.map_id _)
    refine c_string_eq_self.mpr ?_
    obtain ⟨hmem, hfits⟩ := List.mem_filter.mp hline
    exact (h line hmem).2 (Nat.le_of_lt_succ (of_decide_eq_true hfits).2)

/-- A line that is one buffer longer than a RUN command. -/
def overlongRun : List Tick :=
  (List.replicate rxCapacity 0x41 ++ withCrc (ascii "C|1|RUN|1") ++ [newline]).map
    (.serialByte · 0)

/-- The end of a line that is too long is executed. -/
theorem overlong_run_executed :
    (¬ ∀ ticks, calls setup ticks = expectedCalls (receivedBytes ticks)) ∧
      ((runTrace next setup overlongRun).conveyors 0).state = .running := by
  refine ⟨fun h => ?_, by decide +kernel⟩
  have hcall : calls setup overlongRun ≠ expectedCalls (receivedBytes overlongRun) := by
    decide +kernel
  exact hcall (h overlongRun)

end Mega

end InspectionLine
