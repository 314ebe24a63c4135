import InspectionLine.OrderedDict
import InspectionLine.SerialAgreement

/-! # The reader of the serial port

`_read_mega` takes one line after another. What a message class does with a value, and what the
publisher does with a message, is no code of this repository: `accepts` tells whether both go
through without an exception. -/
namespace InspectionLine

open MegaProtocol JsonText

namespace MegaProtocol

/-! ### Numbers in base 10 -/

def decimalValue? (c : Char) : Option ℕ :=
  if '0' ≤ c ∧ c ≤ '9' then some (c.toNat - '0'.toNat) else none

/-- The number that digits spell. A single underscore may stand behind a digit, before another. -/
def decimalDigits : ℕ → Bool → Text → Option ℕ
  | value, behindDigit, [] => if behindDigit then some value else none
  | value, behindDigit, c :: rest =>
    if c = '_' then if behindDigit then decimalDigits value false rest else none
    else (decimalValue? c).bind fun d => decimalDigits (10 * value + d) true rest

/-- `int` refuses more digits; underscores do not count. -/
def maxStrDigits : ℕ := 4300

def unsignedBase10 (text : Text) : Option ℤ :=
  if maxStrDigits < text.countP (· ≠ '_') then none
  else (decimalDigits 0 false text).map Int.ofNat

/-- `int(text)`, where no result is the `ValueError`. -/
def intBase10 (text : Text) : Option ℤ :=
  match (text.dropWhile isSpace).rdropWhile isSpace with
  | [] => none
  | c :: rest =>
    if c = '-' then (unsignedBase10 rest).map fun n => -n
    else if c = '+' then unsignedBase10 rest
    else unsignedBase10 (c :: rest)

/-- The sequence and the status of an acknowledgement. -/
def acknowledged? : List Text → Option (Text × Text)
  | tag :: sequence :: status :: _ =>
    if tag = "A".toList then some (sequence, status) else none
  | _ => none

def parseEvent : List Text → Option (Text × List Text)
  | tag :: kind :: values => if tag = "E".toList then some (kind, values) else none
  | _ => none

end MegaProtocol

inductive ControlMessage where
  | sensorEvent (sensorId : Text) (edge sensorSequence estimatedStep : ℤ)
  | positionSettled (conveyorId estimatedStep : ℤ)
  | equipmentState (upperRunning upperStopped lowerRunning lowerStopped : Bool)
      (sensor1Clear sensor2Clear sensor3Clear actuatorSafe : Bool)
  deriving DecidableEq, Repr

structure LatestEquipmentState where
  upperState : ℤ
  lowerState : ℤ
  sensor1Clear : Bool
  sensor2Clear : Bool
  sensor3Clear : Bool
  actuatorSafe : Bool
  deriving DecidableEq, Repr

/-- The thread goes on, it returned behind an `OSError`, or an exception has ended it. -/
inductive ReaderStatus where
  | running
  | closed
  | raised
  deriving DecidableEq, Repr

inductive PortRead where
  | line (bytes : List UInt8)
  | osError
  deriving DecidableEq, Repr

structure MegaReader where
  megaEvents : OrderedDict Text (Bool × Text × ℚ) := .empty
  latestEquipmentState : Option LatestEquipmentState := none
  published : List ControlMessage := []
  degraded : Bool := false
  status : ReaderStatus := .running

namespace MegaReader

variable (accepts : ControlMessage → Bool)

def publish (r : MegaReader) (message : ControlMessage) : MegaReader :=
  if accepts message then { r with published := r.published ++ [message] }
  else { r with status := .raised }

/-- The conversions of this one stand outside of any guard. -/
def publishSensorEvent (r : MegaReader) (sensorId edge sequence step : Text) : MegaReader :=
  match intBase10 edge, intBase10 sequence, intBase10 step with
  | some edge, some sequence, some step =>
    r.publish accepts (.sensorEvent sensorId edge sequence step)
  | _, _, _ => { r with status := .raised }

def equipmentMessage (s : LatestEquipmentState) : ControlMessage :=
  .equipmentState (s.upperState = 0) (s.upperState = 3) (s.lowerState = 0) (s.lowerState = 3)
    s.sensor1Clear s.sensor2Clear s.sensor3Clear s.actuatorSafe

def publishEquipmentState (r : MegaReader) (s : LatestEquipmentState) : MegaReader :=
  { r with latestEquipmentState := some s }.publish accepts (equipmentMessage s)

/-- What comes in is kept for a waiting command, with the time at which it came. -/
def noteEvent (r : MegaReader) (key status : Text) (monotonic : ℚ) : MegaReader :=
  { r with megaEvents := r.megaEvents.insert key (status = "OK".toList, status, monotonic) }

def sensorEvent (r : MegaReader) : List Text → MegaReader
  | sensorId :: edge :: sequence :: step :: _ =>
    r.publishSensorEvent accepts sensorId edge sequence step
  | _ => r

def positionEvent (r : MegaReader) : List Text → MegaReader
  | conveyorText :: stepText :: _sequenceText :: _ =>
    match intBase10 stepText, intBase10 conveyorText with
    | some estimatedStep, some conveyorId =>
      r.publish accepts (.positionSettled conveyorId estimatedStep)
    | _, _ => r
  | _ => r

def actuationEvent (r : MegaReader) (monotonic : ℚ) : List Text → MegaReader
  | statusText :: sequenceText :: _ =>
    match intBase10 sequenceText with
    | some sequence => r.noteEvent ("ACTUATION:".toList ++ intChars sequence) statusText monotonic
    | none => r
  | _ => r

def stateEvent (r : MegaReader) : List Text → MegaReader
  | upper :: lower :: clear1 :: clear2 :: clear3 :: safe :: _ =>
    match intBase10 upper, intBase10 lower with
    | some upperState, some lowerState =>
      r.publishEquipmentState accepts {
        upperState, lowerState
        sensor1Clear := clear1 = "1".toList
        sensor2Clear := clear2 = "1".toList
        sensor3Clear := clear3 = "1".toList
        actuatorSafe := safe = "1".toList }
    | _, _ => r
  | _ => r

def handleEvent (r : MegaReader) (kind : Text) (values : List Text) (monotonic : ℚ) :
    MegaReader :=
  if kind = "SENSOR".toList then r.sensorEvent accepts values
  else if kind = "POSITION".toList then r.positionEvent accepts values
  else if kind = "ACTUATION".toList then r.actuationEvent monotonic values
  else if kind = "STATE".toList then r.stateEvent accepts values
  else r

def handleFields (r : MegaReader) (fields : List Text) (monotonic : ℚ) : MegaReader :=
  match acknowledged? fields with
  | some (sequence, status) => r.noteEvent ("ACK:".toList ++ sequence) status monotonic
  | none =>
    match parseEvent fields with
    | some (kind, values) => r.handleEvent accepts kind values monotonic
    | none => r

/-- One iteration of the loop. -/
def readMega (r : MegaReader) (read : PortRead) (monotonic : ℚ) : MegaReader :=
  match read with
  | .osError => { r with degraded := true, status := .closed }
  | .line bytes =>
    match decodeFrame bytes with
    | some fields => r.handleFields accepts fields monotonic
    | none => r

def loop (r : MegaReader) : List (PortRead × ℚ) → MegaReader
  | [] => r
  | (read, monotonic) :: reads =>
    match r.status with
    | .running => (r.readMega accepts read monotonic).loop reads
    | .closed | .raised => r

/-! ### The lines that the reader survives -/

/-- The texts of a sensor event that have to be numbers are numbers. -/
def SensorNumbers : List Text → Prop
  | _ :: edge :: sequence :: step :: _ =>
    (intBase10 edge).isSome ∧ (intBase10 sequence).isSome ∧ (intBase10 step).isSome
  | _ => True

def sensorMessage? : List Text → Option ControlMessage
  | sensorId :: edge :: sequence :: step :: _ =>
    (intBase10 edge).bind fun edge => (intBase10 sequence).bind fun sequence =>
      (intBase10 step).map fun step => .sensorEvent sensorId edge sequence step
  | _ => none

def positionMessage? : List Text → Option ControlMessage
  | conveyor :: step :: _ :: _ =>
    (intBase10 conveyor).bind fun conveyor =>
      (intBase10 step).map fun step => .positionSettled conveyor step
  | _ => none

def stateMessage? : List Text → Option ControlMessage
  | upper :: lower :: clear1 :: clear2 :: clear3 :: safe :: _ =>
    (intBase10 upper).bind fun upper => (intBase10 lower).map fun lower =>
      equipmentMessage ⟨upper, lower, clear1 = "1".toList, clear2 = "1".toList,
        clear3 = "1".toList, safe = "1".toList⟩
  | _ => none

/-- The message that an event is published as. -/
def message? (kind : Text) (values : List Text) : Option ControlMessage :=
  if kind = "SENSOR".toList then sensorMessage? values
  else if kind = "POSITION".toList then positionMessage? values
  else if kind = "STATE".toList then stateMessage? values
  else none

/-- The numbers of a sensor event are numbers, and the message of an event is accepted. -/
def ReadableEvent (kind : Text) (values : List Text) : Prop :=
  (kind = "SENSOR".toList → SensorNumbers values) ∧
    ∀ message ∈ message? kind values, accepts message = true

/-- The line is no event that Control cannot read. -/
def Readable (line : List UInt8) : Prop :=
  ∀ event ∈ (decodeFrame line).bind parseEvent, ReadableEvent accepts event.1 event.2

variable {accepts} {r : MegaReader}

/-- The reader goes on or an exception ends it, and it goes on exactly when `p` holds. -/
def Ends (r : MegaReader) (p : Prop) : Prop := r.status ≠ .closed ∧ (r.status = .running ↔ p)

theorem ends_publish (hr : r.status = .running) (message : ControlMessage) :
    Ends (r.publish accepts message) (accepts message = true) := by
  unfold publish
  cases haccepts : accepts message with
  | false => exact ⟨by simp, by simp⟩
  | true => exact ⟨by simp [hr], by simp [hr]⟩

theorem ends_going {p : Prop} (hr : r.status = .running) (hp : p) : Ends r p := by
  have hopen : r.status ≠ .closed := by
    rw [hr]
    decide
  exact ⟨hopen, iff_of_true hr hp⟩

theorem ends_iff {p q : Prop} (h : Ends r p) (hpq : p ↔ q) : Ends r q := ⟨h.1, h.2.trans hpq⟩

theorem sensor_event_ends (hr : r.status = .running) (values : List Text) :
    Ends (r.sensorEvent accepts values)
      (SensorNumbers values ∧ ∀ message ∈ sensorMessage? values, accepts message = true) := by
  unfold sensorEvent SensorNumbers sensorMessage?
  split
  · rename_i sensorId edge sequence step rest
    have hraised : ∀ p : Prop, ¬ p → Ends { r with status := .raised } p := fun p hp =>
      ⟨nofun, iff_of_false nofun hp⟩
    unfold publishSensorEvent
    cases intBase10 edge with
    | none => exact hraised _ fun h => by simp at h
    | some edge =>
      cases intBase10 sequence with
      | none => exact hraised _ fun h => by simp at h
      | some sequence =>
        cases intBase10 step with
        | none => exact hraised _ fun h => by simp at h
        | some step => exact ends_iff (ends_publish hr _) (by simp)
  · exact ends_going hr (by simp)

theorem position_event_ends (hr : r.status = .running) (values : List Text) :
    Ends (r.positionEvent accepts values)
      (∀ message ∈ positionMessage? values, accepts message = true) := by
  unfold positionEvent positionMessage?
  split
  · rename_i conveyor step sequence rest
    cases intBase10 step with
    | none => cases intBase10 conveyor <;> exact ends_going hr (by simp)
    | some step =>
      cases intBase10 conveyor with
      | none => exact ends_going hr (by simp)
      | some conveyor => exact ends_iff (ends_publish hr _) (by simp)
  · exact ends_going hr (by simp)

theorem state_event_ends (hr : r.status = .running) (values : List Text) :
    Ends (r.stateEvent accepts values)
      (∀ message ∈ stateMessage? values, accepts message = true) := by
  unfold stateEvent stateMessage?
  split
  · rename_i upper lower clear1 clear2 clear3 safe rest
    cases intBase10 upper with
    | none => exact ends_going hr (by simp)
    | some upper =>
      cases intBase10 lower with
      | none => exact ends_going hr (by simp)
      | some lower =>
        have hnoted : ∀ s, { r with latestEquipmentState := s }.status = .running := fun _ => hr
        exact ends_iff (ends_publish (hnoted _) _) (by simp)
  · exact ends_going hr (by simp)

theorem actuation_event_status (monotonic : ℚ) (values : List Text) :
    (r.actuationEvent monotonic values).status = r.status := by
  unfold actuationEvent
  split
  · split <;> rfl
  · rfl

theorem handle_event_ends (hr : r.status = .running) (kind : Text) (values : List Text)
    (monotonic : ℚ) :
    Ends (r.handleEvent accepts kind values monotonic) (ReadableEvent accepts kind values) := by
  unfold handleEvent ReadableEvent message?
  by_cases hsensor : kind = "SENSOR".toList
  · simp only [if_pos hsensor]
    exact ends_iff (sensor_event_ends hr values) (by simp [hsensor])
  simp only [if_neg hsensor]
  have hguarded : ∀ {s : MegaReader} {p : Prop}, Ends s p →
      Ends s ((kind = "SENSOR".toList → SensorNumbers values) ∧ p) := fun h =>
    ends_iff h ⟨fun hp => ⟨fun hkind => absurd hkind hsensor, hp⟩, And.right⟩
  by_cases hposition : kind = "POSITION".toList
  · simp only [if_pos hposition]
    exact hguarded (position_event_ends hr values)
  simp only [if_neg hposition]
  by_cases hactuation : kind = "ACTUATION".toList
  · have hstate : kind ≠ "STATE".toList := by
      rw [hactuation]
      decide
    simp only [if_pos hactuation, if_neg hstate]
    exact hguarded (ends_going ((actuation_event_status monotonic values).trans hr) nofun)
  simp only [if_neg hactuation]
  by_cases hstate : kind = "STATE".toList
  · simp only [if_pos hstate]
    exact hguarded (state_event_ends hr values)
  · simp only [if_neg hstate]
    exact hguarded (ends_going hr nofun)

theorem acknowledged_no_event {fields : List Text} {answer : Text × Text}
    (h : acknowledged? fields = some answer) : parseEvent fields = none := by
  unfold acknowledged? at h
  split at h
  · split at h
    · rename_i tag sequence status rest htag
      have hevent : tag ≠ "E".toList := by
        rw [htag]
        decide
      cases rest <;> exact if_neg hevent
    · cases h
  · cases h

theorem line_ends (hr : r.status = .running) (line : List UInt8) (monotonic : ℚ) :
    Ends (r.readMega accepts (.line line) monotonic) (Readable accepts line) := by
  unfold Readable
  simp only [readMega]
  cases decodeFrame line with
  | none => exact ends_going hr nofun
  | some fields =>
    simp only [Option.bind_some, handleFields]
    cases hanswer : acknowledged? fields with
    | some answer =>
      rw [acknowledged_no_event hanswer]
      exact ends_going hr nofun
    | none =>
      cases parseEvent fields with
      | none => exact ends_going hr nofun
      | some event => exact ends_iff (handle_event_ends hr event.1 event.2 monotonic) (by simp)

/-- The thread is still there exactly when every line was readable and the port never failed. -/
theorem loop_running (hr : r.status = .running) (reads : List (PortRead × ℚ)) :
    (r.loop accepts reads).status = .running ↔
      ∀ read ∈ reads, ∃ line, read.1 = .line line ∧ Readable accepts line := by
  induction reads generalizing r with
  | nil => exact iff_of_true hr nofun
  | cons read reads ih =>
    obtain ⟨read, monotonic⟩ := read
    rw [loop, hr]
    simp only [List.forall_mem_cons]
    have hended : ∀ {s : MegaReader}, s.status ≠ .running →
        (s.loop accepts reads).status ≠ .running := by
      intro s hs
      cases reads with
      | nil => exact hs
      | cons next reads =>
        rw [loop]
        split
        · contradiction
        all_goals exact hs
    cases read with
    | osError =>
      have hclosed : (r.readMega accepts .osError monotonic).status ≠ .running := nofun
      exact iff_of_false (hended hclosed) fun h => by simp at h
    | line bytes =>
      have hends : Ends (r.readMega accepts (.line bytes) monotonic) (Readable accepts bytes) :=
        line_ends hr bytes monotonic
      have hline := hends.2
      by_cases hreadable : Readable accepts bytes
      · rw [ih (hline.mpr hreadable)]
        simp [hreadable]
      · exact iff_of_false (hended fun h => hreadable (hline.mp h)) fun h => by
          simp [hreadable] at h

/-! ### The frames of the firmware -/

theorem decimal_digits {chars : Text} (h : ∀ c ∈ chars, c.isDigit = true) (value : ℕ)
    {behindDigit : Bool} (hne : chars ≠ [] ∨ behindDigit = true) :
    decimalDigits value behindDigit chars = some (Nat.ofDigitChars 10 chars value) := by
  induction chars generalizing value behindDigit with
  | nil => simp [decimalDigits, hne.resolve_left (not_not.mpr rfl)]
  | cons c chars ih =>
    have hc := h c List.mem_cons_self
    have hrange : '0' ≤ c ∧ c ≤ '9' := by
      simpa [Char.isDigit, Char.le_def, UInt32.le_iff_toNat_le] using hc
    have hscore : c ≠ '_' := by
      rintro rfl
      cases hc
    rw [decimalDigits, if_neg hscore, decimalValue?, if_pos hrange, Option.bind_some,
      ih (fun d hd => h d (List.mem_cons_of_mem _ hd)) _ (.inr rfl), Nat.ofDigitChars_cons]

theorem digit_plain {c : Char} (h : c.isDigit = true) :
    isSpace c = false ∧ c ≠ '-' ∧ c ≠ '+' := by
  have hrange : 48 ≤ c.toNat ∧ c.toNat ≤ 57 := by
    simpa [Char.isDigit, UInt32.le_iff_toNat_le] using h
  have hne : ∀ d : Char, d.toNat < 48 → c ≠ d := by
    rintro d hd rfl
    omega
  refine ⟨?_, hne _ (by decide), hne _ (by decide)⟩
  simp only [isSpace, hne ' ' (by decide), decide_false, Bool.false_or, Bool.and_eq_false_iff,
    decide_eq_false_iff_not]
  omega

theorem int_of_digits {n : ℕ} (h : n < 10 ^ 10) : intBase10 (Nat.toDigits 10 n) = some (n : ℤ) := by
  have hdigits := MegaSerial.to_digits_are_digits n
  have hlength : (Nat.toDigits 10 n).length ≤ 10 :=
    (Nat.length_toDigits_le_iff (by decide) (by decide)).mpr h
  have hvalue : decimalDigits 0 false (Nat.toDigits 10 n) = some n := by
    rw [decimal_digits hdigits 0 (.inl Nat.toDigits_ne_nil),
      Nat.ofDigitChars_toDigits (by decide) (by decide)]
  generalize Nat.toDigits 10 n = chars at *
  cases chars with
  | nil => cases hvalue
  | cons c chars =>
    obtain ⟨hspace, hminus, hplus⟩ := digit_plain (hdigits c List.mem_cons_self)
    have hlast : (c :: chars).rdropWhile isSpace = c :: chars := by
      rw [List.rdropWhile_eq_self_iff]
      intro hne hlast
      rw [(digit_plain (hdigits _ (List.getLast_mem hne))).1] at hlast
      cases hlast
    have hshort : ¬ maxStrDigits < (c :: chars).countP (· ≠ '_') := by
      have hcount := List.countP_le_length (p := (· ≠ '_')) (l := c :: chars)
      unfold maxStrDigits
      omega
    rw [intBase10, List.dropWhile_cons, hspace, if_neg Bool.false_ne_true, hlast]
    simp only [if_neg hminus, if_neg hplus, unsignedBase10, if_neg hshort, hvalue, Option.map_some,
      Int.ofNat_eq_natCast]

theorem int_plain (n : ℤ) : '|' ∉ (toString n).toList := fun h =>
  ((MegaSerial.int_token n).2 _ h).2.1 rfl

theorem nat_plain (n : ℕ) : '|' ∉ (toString n).toList := int_plain n

theorem sensor_fields (sensorId : ℕ) (sensorSequence : UInt32) :
    (MegaFrame.sensorEvent sensorId sensorSequence).body.toList.splitOn '|' =
      ["E".toList, "SENSOR".toList, "SENSOR_".toList ++ (toString sensorId).toList, "1".toList,
        (toString sensorSequence.toNat).toList, "0".toList] := by
  have hbody : (MegaFrame.sensorEvent sensorId sensorSequence).body.toList =
      "E".toList ++ '|' :: ("SENSOR".toList ++ '|' :: (("SENSOR_".toList ++
        (toString sensorId).toList) ++ '|' :: ("1".toList ++ '|' ::
          ((toString sensorSequence.toNat).toList ++ '|' :: "0".toList)))) := by
    refine Eq.trans (b := ("E|SENSOR|SENSOR_" ++ toString sensorId ++ "|1|" ++
      toString sensorSequence.toNat ++ "|0").toList) rfl ?_
    simp only [String.toList_append, List.append_assoc]
    rfl
  have hid : '|' ∉ "SENSOR_".toList ++ (toString sensorId).toList := by
    rw [List.mem_append]
    exact not_or.mpr ⟨by decide, nat_plain sensorId⟩
  rw [hbody, List.splitOn_append_cons_self_of_not_mem (by decide),
    List.splitOn_append_cons_self_of_not_mem (by decide),
    List.splitOn_append_cons_self_of_not_mem hid,
    List.splitOn_append_cons_self_of_not_mem (by decide),
    List.splitOn_append_cons_self_of_not_mem (nat_plain _)]
  rfl

/-- Only the sensor events of the firmware are read without a guard. -/
theorem other_event_readable {frame : MegaFrame} {kind rest : Text}
    (hbody : frame.body.toList = "E".toList ++ '|' :: (kind ++ '|' :: rest)) (hkind : '|' ∉ kind)
    (hother : kind ≠ "SENSOR".toList) :
    ∀ event ∈ parseEvent (frame.body.toList.splitOn '|'),
      ReadableEvent (fun _ => true) event.1 event.2 := by
  have hevent : parseEvent (frame.body.toList.splitOn '|') = some (kind, rest.splitOn '|') := by
    rw [hbody, List.splitOn_append_cons_self_of_not_mem (by decide),
      List.splitOn_append_cons_self_of_not_mem hkind]
    simp [parseEvent]
  rw [hevent]
  intro event he
  obtain rfl := Option.some.inj he
  exact ⟨fun h => absurd h hother, fun _ _ => rfl⟩

/-- What the firmware sends never ends the reader, if the layer below takes the messages. -/
theorem firmware_frames_readable {m : Mega} (hrun : Mega.Run Mega.setup m) :
    ∀ e ∈ m.log, Readable (fun _ => true) (MegaSerial.sendFrame e.frame.body) := by
  intro e he
  rw [Readable, decode_sent (Mega.body_clean e.frame) (Mega.body_ascii (Mega.run_plain hrun e he)),
    Option.bind_some]
  cases hframe : e.frame with
  | acknowledge sequence status =>
    have hbody : (MegaFrame.acknowledge sequence status).body.toList =
        "A".toList ++ '|' :: ((toString sequence).toList ++ '|' :: status.toList) := by
      refine Eq.trans (b := ("A|" ++ toString sequence ++ "|" ++ status).toList) rfl ?_
      simp only [String.toList_append, List.append_assoc]
      rfl
    rw [hbody, List.splitOn_append_cons_self_of_not_mem (by decide),
      List.splitOn_append_cons_self_of_not_mem (int_plain sequence)]
    nofun
  | sensorEvent sensorId sensorSequence =>
    rw [sensor_fields]
    intro event hevent
    obtain rfl : ("SENSOR".toList, ["SENSOR_".toList ++ (toString sensorId).toList, "1".toList,
      (toString sensorSequence.toNat).toList, "0".toList]) = event := Option.some.inj hevent
    refine ⟨fun _ => ⟨rfl, ?_, rfl⟩, fun _ _ => rfl⟩
    have hsequence : sensorSequence.toNat < 10 ^ 10 := sensorSequence.toNat_lt.trans (by decide)
    have htext : (toString sensorSequence.toNat).toList = Nat.toDigits 10 sensorSequence.toNat :=
      Nat.toList_repr
    rw [htext, int_of_digits hsequence]
    rfl
  | positionSettled conveyorId movedSteps sensorSequence =>
    have hbody : (MegaFrame.positionSettled conveyorId movedSteps sensorSequence).body.toList =
        "E".toList ++ '|' :: ("POSITION".toList ++ '|' :: ((toString conveyorId).toList ++
          '|' :: ((toString movedSteps).toList ++ '|' :: (toString sensorSequence).toList))) := by
      refine Eq.trans (b := ("E|POSITION|" ++ toString conveyorId ++ "|" ++ toString movedSteps ++
        "|" ++ toString sensorSequence).toList) rfl ?_
      simp only [String.toList_append, List.append_assoc]
      rfl
    exact other_event_readable hbody (by decide) (by decide)
  | actuationEvent status sequence =>
    have hbody : (MegaFrame.actuationEvent status sequence).body.toList =
        "E".toList ++ '|' :: ("ACTUATION".toList ++ '|' :: (status.toList ++
          '|' :: (toString sequence).toList)) := by
      refine Eq.trans (b := ("E|ACTUATION|" ++ status ++ "|" ++ toString sequence).toList) rfl ?_
      simp only [String.toList_append, List.append_assoc]
      rfl
    exact other_event_readable hbody (by decide) (by decide)
  | equipmentState r =>
    obtain ⟨rest, hbody⟩ : ∃ rest, (MegaFrame.equipmentState r).body.toList =
        "E".toList ++ '|' :: ("STATE".toList ++ '|' :: rest) := by
      refine ⟨?_, Eq.trans (b := (("E|STATE|" ++ toString r.upperState.code ++ "|" ++
        toString r.lowerState.code ++ "|" ++ flag r.sensor1Clear) ++ ("|" ++ flag r.sensor2Clear ++
          "|" ++ flag r.sensor3Clear ++ "|" ++ flag r.servoReady)).toList) rfl ?_⟩
      rotate_left
      simp only [String.toList_append, List.append_assoc]
      rfl
    exact other_event_readable hbody (by decide) (by decide)

/-- A line leaves the reader running exactly when it is readable; the port closes it, and no line
does. -/
theorem reader_survives (hr : r.status = .running) (monotonic : ℚ) :
    (∀ line, (r.readMega accepts (.line line) monotonic).status = .running ↔
      Readable accepts line) ∧
    (∀ line, (r.readMega accepts (.line line) monotonic).status ≠ .closed) ∧
    (r.readMega accepts .osError monotonic).status = .closed :=
  ⟨fun line => (line_ends hr line monotonic).2, fun line => (line_ends hr line monotonic).1, rfl⟩

theorem detection_survived :
    Readable (fun _ => true) (MegaSerial.ascii "E|SENSOR|SENSOR_1|1|7|0|3EC5\n") ∧
      (({} : MegaReader).readMega (fun _ => true)
        (.line (MegaSerial.ascii "E|SENSOR|SENSOR_1|1|7|0|3EC5\n")) 0).published =
          [.sensorEvent "SENSOR_1".toList 1 7 0] :=
  ⟨((reader_survives (r := {}) rfl 0).1 _).mp (by decide +kernel), by decide +kernel⟩

/-- The checksum is right, and the edge is no number. -/
theorem reader_killed_by_edge : ¬ ∀ (accepts : ControlMessage → Bool) (r : MegaReader)
    (monotonic : ℚ) (line : List UInt8), r.status = .running →
      (r.readMega accepts (.line line) monotonic).status = .running := by
  intro h
  have hrunning := h (fun _ => true) {} 0 (MegaSerial.ascii "E|SENSOR|SENSOR_1|x|1|0|3571\n") rfl
  exact absurd hrunning (by decide +kernel)

end MegaReader

end InspectionLine
