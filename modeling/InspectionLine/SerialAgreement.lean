import InspectionLine.MegaEffects
import InspectionLine.MegaProtocol
import Mathlib.Algebra.Group.Int.Defs

/-! # The two ends of the serial line

What Control encodes, the firmware takes apart again into the sequence, the operation and the
arguments, and what the firmware sends is decoded into the fields of its body. -/
namespace InspectionLine

open InputRuns MegaSerial
open JsonText (intChars int_chars_cases)
open MegaProtocol

namespace MegaSerial

/-! ### Numbers -/

theorem digit_bytes {c : Char} (h : c.isDigit = true) :
    digitValue? c.toNat.toUInt8 = some (c.toNat - '0'.toNat) ∧ c.toNat - '0'.toNat < 10 ∧
      isSpace c.toNat.toUInt8 = false ∧ c.toNat.toUInt8 ∉ [0x2B, 0x2D, 0, separator, newline,
        carriageReturn] := by
  have hspec : ∀ d < 10, digitValue? (0x30 + d).toUInt8 = some d ∧
      isSpace (0x30 + d).toUInt8 = false ∧ (0x30 + d).toUInt8 ∉ [0x2B, 0x2D, 0, separator, newline,
        carriageReturn] := by decide
  have hrange : 48 ≤ c.toNat ∧ c.toNat ≤ 57 := by
    simpa [Char.isDigit, UInt32.le_iff_toNat_le] using h
  have hzero : '0'.toNat = 48 := rfl
  have hbyte : 0x30 + (c.toNat - 48) = c.toNat := by omega
  obtain ⟨hvalue, hspace, hother⟩ := hspec (c.toNat - 48) (by omega)
  rw [hbyte] at hvalue hspace hother
  rw [hzero]
  exact ⟨hvalue, by omega, hspace, hother⟩

theorem digits_of_chars {chars : Text} (h : ∀ c ∈ chars, c.isDigit = true) (value : ℕ) :
    digits 10 value (bytesOf chars) = Nat.ofDigitChars 10 chars value := by
  induction chars generalizing value with
  | nil => rfl
  | cons c chars ih =>
    obtain ⟨hvalue, hlt, -⟩ := digit_bytes (h c List.mem_cons_self)
    have hrest := ih (fun d hd => h d (List.mem_cons_of_mem _ hd))
    rw [Nat.ofDigitChars_cons, ← hrest]
    show digits 10 value (c.toNat.toUInt8 :: bytesOf chars) = _
    rw [digits, hvalue]
    exact if_pos hlt

theorem to_digits_are_digits (n : ℕ) : ∀ c ∈ Nat.toDigits 10 n, c.isDigit = true := fun _ hc =>
  Nat.isDigit_of_mem_toDigits (by decide) (by decide) hc

theorem digits_of_to_digits (n : ℕ) : digits 10 0 (bytesOf (Nat.toDigits 10 n)) = n := by
  rw [digits_of_chars (to_digits_are_digits n), Nat.ofDigitChars_toDigits (by decide) (by decide)]

theorem split_sign_digits (n : ℕ) :
    splitSign (bytesOf (Nat.toDigits 10 n)) = (false, bytesOf (Nat.toDigits 10 n)) := by
  cases hchars : Nat.toDigits 10 n with
  | nil => exact absurd hchars Nat.toDigits_ne_nil
  | cons c chars =>
    have hc : c.isDigit = true := to_digits_are_digits n c (hchars ▸ List.mem_cons_self)
    obtain ⟨-, -, hspace, hother⟩ := digit_bytes hc
    simp only [List.mem_cons, not_or] at hother
    have hbytes : bytesOf (c :: chars) = c.toNat.toUInt8 :: bytesOf chars := rfl
    rw [hbytes, splitSign, List.dropWhile_cons, hspace, if_neg Bool.false_ne_true]
    simp only [hother, if_false]

/-- The firmware reads back the whole numbers that Control writes. -/
theorem signed_decimal (n : ℤ) : signedDecimal (bytesOf (intChars n)) = n := by
  rcases int_chars_cases n with ⟨m, rfl, hchars⟩ | ⟨m, rfl, hchars⟩
  · rw [signedDecimal, hchars, split_sign_digits]
    simp only [digits_of_to_digits, Bool.false_eq_true, if_false]
  · have hsign : splitSign (bytesOf ('-' :: Nat.toDigits 10 m)) =
        (true, bytesOf (Nat.toDigits 10 m)) := rfl
    rw [signedDecimal, hchars, hsign]
    simp only [digits_of_to_digits, if_true]

theorem atoi_int {n : ℤ} (hlow : -2 ^ 15 ≤ n) (hhigh : n < 2 ^ 15) :
    atoi (bytesOf (intChars n)) = n := by
  rw [atoi, signed_decimal]
  exact Int.bmod_eq_of_le (by omega) (by omega)

theorem atol_long {n : ℤ} (hlow : -2 ^ 31 ≤ n) (hhigh : n < 2 ^ 31) :
    atol (bytesOf (intChars n)) = n := by
  rw [atol, signed_decimal]
  exact Int.bmod_eq_of_le (by omega) (by omega)

/-! ### Checksums -/

theorem strrchr_append {c : UInt8} {body rest : List UInt8} (h : c ∉ rest) :
    strrchr c (body ++ c :: rest) = some (body, rest) := by
  have hnone : ∀ rest : List UInt8, c ∉ rest → strrchr c rest = none := by
    intro rest
    induction rest with
    | nil => exact fun _ => rfl
    | cons b rest ih =>
      intro hc
      rw [List.mem_cons, not_or] at hc
      rw [strrchr, ih hc.2]
      exact if_neg (Ne.symm hc.1)
  induction body with
  | nil =>
    rw [List.nil_append, strrchr, hnone rest h]
    exact if_pos rfl
  | cons b body ih => rw [List.cons_append, strrchr, ih]

theorem crc_text_length (crc : UInt16) : (crcText crc).length = 4 := rfl

theorem hex_digit_spec : ∀ d < 16, digitValue? (hexDigit d) = some d ∧
    isSpace (hexDigit d) = false ∧ hexDigit d ∉ [0x2B, 0x2D, 0x58, 0x78, 0, separator, newline,
      carriageReturn] := by decide

theorem crc_text_bytes (crc : UInt16) : ∀ b ∈ crcText crc, ∃ d < 16, b = hexDigit d := by
  intro b hb
  obtain ⟨d, hd, rfl⟩ := List.mem_map.mp hb
  refine ⟨d, ?_, rfl⟩
  simp only [List.mem_cons, List.not_mem_nil, or_false] at hd
  rcases hd with rfl | rfl | rfl | rfl <;> exact Nat.mod_lt _ (by decide)

theorem separator_not_crc (crc : UInt16) : separator ∉ crcText crc := by
  intro hmem
  obtain ⟨d, hd, heq⟩ := crc_text_bytes crc _ hmem
  have hother := (hex_digit_spec d hd).2.2
  simp [← heq] at hother

theorem digits_cons {d : ℕ} (hd : d < 16) (value : ℕ) (rest : List UInt8) :
    digits 16 value (hexDigit d :: rest) = digits 16 (16 * value + d) rest := by
  rw [digits, (hex_digit_spec d hd).1]
  exact if_pos hd

/-- `strtoul` reads back what `%04X` has written. -/
theorem strtoul_crc_text (crc : UInt16) : strtoulHex (crcText crc) = crc := by
  have hfirst : crc.toNat / 4096 % 16 < 16 := Nat.mod_lt _ (by decide)
  have hsecond : crc.toNat / 256 % 16 < 16 := Nat.mod_lt _ (by decide)
  have hthird : crc.toNat / 16 % 16 < 16 := Nat.mod_lt _ (by decide)
  have hfourth : crc.toNat % 16 < 16 := Nat.mod_lt _ (by decide)
  obtain ⟨-, hspace, hother⟩ := hex_digit_spec _ hfirst
  have hx := (hex_digit_spec _ hsecond).2.2
  simp only [List.mem_cons, not_or] at hother hx
  have hsign : splitSign (crcText crc) = (false, crcText crc) := by
    simp only [crcText, List.map_cons, splitSign, List.dropWhile_cons, hspace, Bool.false_eq_true,
      if_false, hother]
  have hskip : skipHexPrefix (crcText crc) = crcText crc :=
    if_neg fun h => h.2.elim hx.2.2.1 hx.2.2.2.1
  have hvalue : digits 16 0 (crcText crc) = crc.toNat := by
    have hlt : crc.toNat < 65536 := crc.toNat_lt
    simp only [crcText, List.map_cons, List.map_nil, digits_cons hfirst, digits_cons hsecond,
      digits_cons hthird, digits_cons hfourth]
    rw [digits]
    omega
  rw [strtoulHex, hsign]
  simp only [hskip, hvalue, Bool.false_eq_true, if_false]
  exact UInt16.ofNat_toNat

theorem verify_with_crc (body : List UInt8) : verifyAndStripCrc (withCrc body) = some body := by
  rw [verifyAndStripCrc, withCrc, strrchr_append (separator_not_crc _)]
  simp only [crc_text_length, strtoul_crc_text, ne_eq, not_true_eq_false, if_false, if_true]

/-! ### Fields -/

theorem byte_of_char_ne {c : Char} (h : isAscii c = true) {b : UInt8}
    (hne : c ≠ Char.ofNat b.toNat) : c.toNat.toUInt8 ≠ b := by
  rintro rfl
  exact hne (char_of_byte h).symm

theorem not_mem_bytes {text : Text} (h : ∀ c ∈ text, isAscii c = true) {b : UInt8}
    (hb : Char.ofNat b.toNat ∉ text) : b ∉ bytesOf text := by
  intro hmem
  obtain ⟨c, hc, heq⟩ := List.mem_map.mp hmem
  exact byte_of_char_ne (h c hc) (fun heq => hb (heq ▸ hc)) heq

theorem bytes_of_join (fields : List Text) :
    bytesOf (join fields) = [separator].intercalate (fields.map bytesOf) := by
  induction fields with
  | nil => rfl
  | cons field rest ih =>
    by_cases hrest : rest = []
    · subst hrest
      simp [join]
    · rw [join_cons field hrest, bytes_append, List.map_cons,
        List.intercalate_cons_of_ne_nil (by simpa using hrest), ← ih, List.append_assoc]
      rfl

/-- A field that `strtok` finds again, without anything that ends a line or a string. -/
def IsToken (field : Text) : Prop :=
  field ≠ [] ∧ ∀ c ∈ field, isAscii c = true ∧ c ≠ '|' ∧ 32 ≤ c.toNat

instance (field : Text) : Decidable (IsToken field) :=
  @instDecidableAnd _ _ inferInstance (List.decidableBAll _ field)

theorem strtok_join {fields : List Text} (hne : fields ≠ []) (h : ∀ f ∈ fields, IsToken f) :
    strtok (bytesOf (join fields)) = fields.map bytesOf := by
  have hplain : ∀ l ∈ fields.map bytesOf, separator ∉ l := by
    intro l hl
    obtain ⟨f, hf, rfl⟩ := List.mem_map.mp hl
    exact not_mem_bytes (fun c hc => ((h f hf).2 c hc).1) fun hmem =>
      ((h f hf).2 _ hmem).2.1 rfl
  rw [strtok, bytes_of_join, List.splitOn_intercalate _ hplain (by simpa using hne)]
  refine List.filter_eq_self.mpr fun l hl => ?_
  obtain ⟨f, hf, rfl⟩ := List.mem_map.mp hl
  simpa [bytesOf] using (h f hf).1

theorem int_token (n : ℤ) : IsToken (intChars n) := by
  have hdigit : ∀ c : Char, c.isDigit = true →
      isAscii c = true ∧ c ≠ '|' ∧ 32 ≤ c.toNat := by
    intro c hc
    have hrange : 48 ≤ c.toNat ∧ c.toNat ≤ 57 := by
      simpa [Char.isDigit, UInt32.le_iff_toNat_le] using hc
    refine ⟨decide_eq_true (by omega), ?_, by omega⟩
    rintro rfl
    exact absurd hrange.2 (by decide)
  rcases int_chars_cases n with ⟨m, -, hchars⟩ | ⟨m, -, hchars⟩
  · rw [hchars]
    exact ⟨Nat.toDigits_ne_nil, fun c hc => hdigit c (to_digits_are_digits m c hc)⟩
  · rw [hchars]
    refine ⟨List.cons_ne_nil _ _, fun c hc => ?_⟩
    rcases List.mem_cons.mp hc with rfl | hc
    · exact ⟨rfl, by decide, by decide⟩
    · exact hdigit c (to_digits_are_digits m c hc)

end MegaSerial

/-! ### Commands of Control -/

inductive CType where
  | int
  | long
  deriving DecidableEq, Repr

def CType.Fits : CType → ℤ → Prop
  | .int, n => -2 ^ 15 ≤ n ∧ n < 2 ^ 15
  | .long, n => -2 ^ 31 ≤ n ∧ n < 2 ^ 31

def CType.read : CType → List UInt8 → ℤ
  | .int => atoi
  | .long => atol

theorem CType.read_fits {type : CType} {n : ℤ} (h : type.Fits n) :
    type.read (bytesOf (intChars n)) = n := by
  cases type with
  | int => exact atoi_int h.1 h.2
  | long => exact atol_long h.1 h.2

inductive HostCommand where
  | hello (version : ℤ)
  | setOffset (conveyorId steps : ℤ)
  | run (conveyorId : ℤ)
  | stop (conveyorId : ℤ)
  | actuate (actuatorCommand : ℤ)
  deriving DecidableEq, Repr

namespace HostCommand

def operation : HostCommand → String
  | hello _ => "HELLO"
  | setOffset .. => "SET_OFFSET"
  | run _ => "RUN"
  | stop _ => "STOP"
  | actuate _ => "ACTUATE"

/-- The arguments, with the type that the firmware reads each of them as. -/
def arguments : HostCommand → List (CType × ℤ)
  | hello version => [(.int, version)]
  | setOffset conveyorId steps => [(.int, conveyorId), (.long, steps)]
  | run conveyorId | stop conveyorId => [(.int, conveyorId)]
  | actuate actuatorCommand => [(.int, actuatorCommand)]

/-- What `_send_mega` encodes. -/
def fields (command : HostCommand) (sequence : ℤ) : List Text :=
  ['C'] :: intChars sequence :: command.operation.toList ::
    command.arguments.map (intChars ·.2)

theorem operation_token (command : HostCommand) : IsToken command.operation.toList := by
  have hnames : ∀ name ∈ ["HELLO", "SET_OFFSET", "RUN", "STOP", "ACTUATE"],
      IsToken name.toList := by decide
  cases command <;> exact hnames _ (by simp [operation])

theorem fields_tokens (command : HostCommand) (sequence : ℤ) :
    ∀ f ∈ command.fields sequence, IsToken f := by
  intro f hf
  simp only [fields, List.mem_cons, List.mem_map] at hf
  rcases hf with rfl | rfl | rfl | ⟨a, -, rfl⟩
  · decide
  · exact int_token sequence
  · exact command.operation_token
  · exact int_token a.2

theorem fields_ascii (command : HostCommand) (sequence : ℤ) :
    ∀ f ∈ command.fields sequence, ∀ c ∈ f, isAscii c = true := fun f hf c hc =>
  ((command.fields_tokens sequence f hf).2 c hc).1

theorem line_printable (command : HostCommand) (sequence : ℤ) :
    ∀ b ∈ withCrc (bytesOf (join (command.fields sequence))), 32 ≤ b := by
  have hchar : ∀ c : Char, isAscii c = true → 32 ≤ c.toNat → 32 ≤ c.toNat.toUInt8 := by
    intro c hascii hc
    have hlt : c.toNat < 128 := by simpa [isAscii] using hascii
    rw [UInt8.le_iff_toNat_le, Nat.toUInt8_eq, UInt8.toNat_ofNat', Nat.mod_eq_of_lt (by omega)]
    exact hc
  have hhex : ∀ d < 16, 32 ≤ hexDigit d := by decide
  intro b hb
  rw [withCrc, List.mem_append, List.mem_cons] at hb
  rcases hb with hb | rfl | hb
  · obtain ⟨c, hc, rfl⟩ := List.mem_map.mp hb
    rcases mem_join hc with rfl | ⟨f, hf, hc⟩
    · decide
    · obtain ⟨hascii, -, hprintable⟩ := (command.fields_tokens sequence f hf).2 c hc
      exact hchar c hascii hprintable
  · decide
  · obtain ⟨d, hd, rfl⟩ := crc_text_bytes _ b hb
    exact hhex d hd

end HostCommand

namespace Mega

/-- The loop over the received bytes, each with the clock at its reading. -/
def updateSerial (m : Mega) (received : List (UInt8 × UInt32)) : Mega :=
  received.foldl (fun m r => m.receive r.1 r.2) m

theorem update_serial_append (m : Mega) (received rest : List (UInt8 × UInt32)) :
    m.updateSerial (received ++ rest) = (m.updateSerial received).updateSerial rest :=
  List.foldl_append ..

theorem collect_bytes {m : Mega} {received : List (UInt8 × UInt32)}
    (hprintable : ∀ b ∈ received.map Prod.fst, 32 ≤ b)
    (hroom : m.rxBuffer.length + received.length ≤ 159) :
    m.updateSerial received = { m with rxBuffer := m.rxBuffer ++ received.map Prod.fst } := by
  induction received generalizing m with
  | nil => simp [updateSerial]
  | cons r rest ih =>
    have hbyte : 32 ≤ r.1 := hprintable r.1 (by simp)
    have hreturn : r.1 ≠ carriageReturn := by
      rintro heq
      exact absurd (heq ▸ hbyte) (by decide)
    have hnewline : r.1 ≠ newline := by
      rintro heq
      exact absurd (heq ▸ hbyte) (by decide)
    have hspace : m.rxBuffer.length < rxCapacity - 1 := by
      simp only [List.length_cons] at hroom
      show m.rxBuffer.length < 159
      omega
    have hstep : m.receive r.1 r.2 = { m with rxBuffer := m.rxBuffer ++ [r.1] } := by
      rw [receive, if_neg hreturn, if_neg hnewline, if_pos hspace]
    have hrest := ih (m := { m with rxBuffer := m.rxBuffer ++ [r.1] })
      (fun b hb => hprintable b (List.mem_cons_of_mem _ hb))
      (by simp only [List.length_append, List.length_cons, List.length_nil] at hroom ⊢; omega)
    show (m.receive r.1 r.2).updateSerial rest = _
    rw [hstep, hrest]
    simp

/-- No command looks at the receive buffer. -/
theorem dispatch_buffer (m : Mega) (buffer : List UInt8) (sequence : ℤ) (operation : List UInt8)
    (arguments : List (List UInt8)) (millis : UInt32) :
    { ({ m with rxBuffer := buffer }).dispatch sequence operation arguments millis with
      rxBuffer := [] } =
      { m.dispatch sequence operation arguments millis with rxBuffer := [] } := by
  unfold dispatch
  split
  · cases arguments <;> rfl
  split
  · rcases arguments with _ | ⟨conveyorText, _ | ⟨stepsText, rest⟩⟩
    · rfl
    · rfl
    · simp only [handleSetOffset]
      cases conveyorIndex? (atoi conveyorText) with
      | none => rfl
      | some index => simp only; split <;> rfl
  split
  · rcases arguments with _ | ⟨conveyorText, rest⟩
    · rfl
    · simp only [handleConveyorCommand]
      cases conveyorIndex? (atoi conveyorText) <;> rfl
  split
  · rcases arguments with _ | ⟨conveyorText, rest⟩
    · rfl
    · simp only [handleConveyorCommand]
      cases conveyorIndex? (atoi conveyorText) <;> rfl
  split
  · rcases arguments with _ | ⟨commandText, rest⟩
    · rfl
    · simp only [handleActuate, startRejectCycle]
      repeat' split
      all_goals rfl
  split
  · rcases arguments with _ | ⟨conveyorText, _ | ⟨stepsText, rest⟩⟩
    · rfl
    · rfl
    · simp only [handlePosition, startAutomaticPosition]
      cases conveyorIndex? (atoi conveyorText) with
      | none => rfl
      | some index =>
        simp only
        repeat' split
        all_goals rfl
  · rfl

theorem parsed_command (command : HostCommand) {sequence : ℤ} (hlow : 0 ≤ sequence)
    (hhigh : sequence < 2 ^ 31) :
    parsed (withCrc (bytesOf (join (command.fields sequence)))) =
      some (sequence, ascii command.operation,
        command.arguments.map fun a => bytesOf (intChars a.2)) := by
  have htokens : strtok (bytesOf (join (command.fields sequence))) =
      ascii "C" :: bytesOf (intChars sequence) :: ascii command.operation ::
        command.arguments.map fun a => bytesOf (intChars a.2) := by
    have hsome : command.fields sequence ≠ [] := List.cons_ne_nil _ _
    rw [strtok_join hsome (command.fields_tokens sequence)]
    simp only [HostCommand.fields, List.map_cons, List.map_map]
    rfl
  rw [parsed, verify_with_crc, Option.bind_some, htokens]
  simp only [if_true, atol_long (n := sequence) (by omega) hhigh]

/-- The line that carries a command makes the firmware carry it out. -/
theorem command_received {m : Mega} (hempty : m.rxBuffer = []) {command : HostCommand}
    {sequence : ℤ} (hlow : 0 ≤ sequence) (hhigh : sequence < 2 ^ 31)
    {received : List (UInt8 × UInt32)}
    (hbytes : received.map Prod.fst =
      withCrc (bytesOf (join (command.fields sequence))) ++ [newline])
    (hlength : (withCrc (bytesOf (join (command.fields sequence)))).length ≤ 159) :
    ∃ millis, m.updateSerial received =
      { m.dispatch sequence (ascii command.operation)
          (command.arguments.map fun a => bytesOf (intChars a.2)) millis with rxBuffer := [] } := by
  have hprintable := command.line_printable sequence
  have hparsed := parsed_command command hlow hhigh
  have hsome : withCrc (bytesOf (join (command.fields sequence))) ≠ [] := by simp [withCrc]
  generalize withCrc (bytesOf (join (command.fields sequence))) = line at *
  obtain ⟨front, last, rfl, hfront, hlast⟩ := List.map_eq_append_iff.mp hbytes
  obtain ⟨r, rfl, hr⟩ : ∃ r, last = [r] ∧ r.1 = newline := by
    cases last with
    | nil => cases hlast
    | cons r rest =>
      obtain ⟨hr, hrest⟩ := List.cons.inj hlast
      exact ⟨r, by rw [List.map_eq_nil_iff.mp hrest], hr⟩
  have hlength' : front.length = line.length := by rw [← hfront, List.length_map]
  have hcollected : m.updateSerial front = { m with rxBuffer := line } := by
    rw [collect_bytes (hfront ▸ hprintable) (by rw [hempty, hlength']; simpa using hlength),
      hempty, hfront, List.nil_append]
  have hstring : cString line = line := by
    refine c_string_eq_self.mpr fun hzero => ?_
    exact absurd (hprintable 0 hzero) (by decide)
  refine ⟨r.2, ?_⟩
  rw [update_serial_append, hcollected]
  show receive { m with rxBuffer := line } r.1 r.2 = _
  rw [hr, receive, if_neg (by decide), if_pos rfl, if_neg hsome]
  have hhandled : handleCommand { m with rxBuffer := line } (cString line) r.2 =
      dispatch { m with rxBuffer := line } sequence (ascii command.operation)
        (command.arguments.map fun a => bytesOf (intChars a.2)) r.2 := by
    rw [handle_command_eq, hstring, hparsed]
  exact (congrArg (fun n : Mega => { n with rxBuffer := [] }) hhandled).trans (dispatch_buffer ..)

/-! ### Frames of the firmware -/

/-- The texts that are sent are among those of the source. -/
def Plain : MegaFrame → Prop
  | .acknowledge _ status | .actuationEvent status _ => status ∈ statuses
  | .sensorEvent .. | .positionSettled .. | .equipmentState _ => True

theorem effect_plain {m : Mega} {t : Tick} {k : Core} {sent : List (MegaFrame × Origin)}
    (h : Effect m t k sent) : ∀ f ∈ sent, Plain f.1 := by
  have hok : "OK" ∈ statuses := by decide
  have hbusy : "BUSY" ∈ statuses := by decide
  cases h <;> simp_all [Plain]

theorem run_plain {m : Mega} (hrun : Run setup m) : ∀ e ∈ m.log, Plain e.frame := by
  refine hrun.invariant (P := fun m => ∀ e ∈ m.log, Plain e.frame) ?_ (by simp [setup])
  intro m t h _ e he
  obtain ⟨sent, heffect, hlog⟩ := next_does m t
  rw [hlog, List.mem_append] at he
  rcases he with he | he
  · exact h e he
  · exact effect_plain heffect _ (List.mem_map_of_mem he)

def AsciiText (text : String) : Prop := ∀ c ∈ text.toList, isAscii c = true

instance (text : String) : Decidable (AsciiText text) := List.decidableBAll _ text.toList

theorem AsciiText.append {text rest : String} (h : AsciiText text) (hrest : AsciiText rest) :
    AsciiText (text ++ rest) := by
  intro c hc
  rw [String.toList_append, List.mem_append] at hc
  exact hc.elim (h c) (hrest c)

theorem int_ascii (n : ℤ) : AsciiText (toString n) := fun c hc => ((int_token n).2 c hc).1

theorem nat_ascii (n : ℕ) : AsciiText (toString n) := int_ascii n

theorem texts_ascii : (∀ status ∈ statuses, AsciiText status) ∧ ∀ b, AsciiText (flag b) := by decide

theorem body_ascii {frame : MegaFrame} (h : Plain frame) : AsciiText frame.body := by
  have hbar : AsciiText "|" := by decide
  obtain ⟨hstatus, hflag⟩ := texts_ascii
  cases frame with
  | acknowledge sequence status =>
    have hhead : AsciiText "A|" := by decide
    exact ((hhead.append (int_ascii sequence)).append hbar).append (hstatus status h)
  | sensorEvent sensorId sensorSequence =>
    have hhead : AsciiText "E|SENSOR|SENSOR_" := by decide
    have hmiddle : AsciiText "|1|" := by decide
    have htail : AsciiText "|0" := by decide
    exact (((hhead.append (nat_ascii sensorId)).append hmiddle).append
      (nat_ascii sensorSequence.toNat)).append htail
  | positionSettled conveyorId movedSteps sensorSequence =>
    have hhead : AsciiText "E|POSITION|" := by decide
    exact ((((hhead.append (nat_ascii conveyorId)).append hbar).append
      (int_ascii movedSteps)).append hbar).append (int_ascii sensorSequence)
  | actuationEvent status sequence =>
    have hhead : AsciiText "E|ACTUATION|" := by decide
    exact ((hhead.append (hstatus status h)).append hbar).append (int_ascii sequence)
  | equipmentState r =>
    have hhead : AsciiText "E|STATE|" := by decide
    exact ((((((hhead.append (nat_ascii _)).append hbar).append (nat_ascii _)).append
      hbar).append (hflag _)).append ((((((hbar.append (hflag _)).append hbar).append
        (hflag _)).append hbar).append (hflag _))))

theorem head_append {text : String} {c : Char} (h : text.toList.head? = some c) (rest : String) :
    (text ++ rest).toList.head? = some c := by
  rw [String.toList_append, List.head?_append, h]
  rfl

theorem body_clean (frame : MegaFrame) : StartsClean frame.body.toList := by
  have hclean : ∀ c ∈ ['A', 'E'], frame.body.toList.head? = some c →
      StartsClean frame.body.toList := by
    intro c hc h d hd
    rw [h] at hd
    obtain rfl := Option.some.inj hd
    have hblank : ['A', 'E'].all (!isWhitespace ·) = true := rfl
    simpa using List.all_eq_true.mp hblank c hc
  cases frame with
  | acknowledge sequence status =>
    exact hclean 'A' (by decide) (head_append (head_append (head_append rfl _) _) _)
  | sensorEvent sensorId sensorSequence =>
    exact hclean 'E' (by decide) (head_append (head_append (head_append (head_append rfl _) _) _) _)
  | positionSettled conveyorId movedSteps sensorSequence =>
    exact hclean 'E' (by decide)
      (head_append (head_append (head_append (head_append (head_append rfl _) _) _) _) _)
  | actuationEvent status sequence =>
    exact hclean 'E' (by decide) (head_append (head_append (head_append rfl _) _) _)
  | equipmentState r =>
    exact hclean 'E' (by decide)
      (head_append (head_append (head_append (head_append (head_append (head_append rfl _) _) _) _)
        _) _)

/-- The two ends of the serial line agree: on commands, on frames of the firmware, on checksums, and
on what Control encodes itself. -/
theorem serial_agreement :
    (∀ (m : Mega) (command : HostCommand) (sequence : ℤ), m.rxBuffer = [] → 0 ≤ sequence →
      sequence < 2 ^ 31 → (∀ a ∈ command.arguments, a.1.Fits a.2) →
      ∃ frame, encodeFrame (command.fields sequence) = some frame ∧ (frame.length ≤ 160 →
        ∀ received, received.map Prod.fst = frame → ∃ tokens millis,
          List.Forall₂ (fun a token => a.1.read token = a.2) command.arguments tokens ∧
          m.updateSerial received =
            { m.dispatch sequence (ascii command.operation) tokens millis with
              rxBuffer := [] })) ∧
    (∀ m, Run setup m → ∀ e ∈ m.log,
      decodeFrame (sendFrame e.frame.body) = some (e.frame.body.toList.splitOn '|')) ∧
    (∀ text : Text, (∀ c ∈ text, isAscii c = true ∧ c.toNat ≠ 0) →
      MegaProtocol.crc16Ccitt text =
        some (MegaSerial.crc16Ccitt (cString (bytesOf text))).toNat) ∧
    ∀ (field : Text) (rest : List Text), StartsClean field →
      (∀ f ∈ field :: rest, ∀ c ∈ f, isAscii c = true ∧ c ≠ '|') →
      (encodeFrame (field :: rest)).bind decodeFrame = some (field :: rest) := by
  refine ⟨fun m command sequence hempty hlow hhigh hfits => ?_, fun m hrun e he => ?_,
    fun text h => ?_, fun field rest hclean h => ?_⟩
  · refine ⟨_, (encode_frame (join_ascii (command.fields_ascii sequence))).trans
      (congrArg some (framed_bytes _ _)), fun hlength received hbytes => ?_⟩
    have hline : (withCrc (bytesOf (join (command.fields sequence)))).length ≤ 159 := by
      rw [List.length_append] at hlength
      exact Nat.le_of_succ_le_succ hlength
    obtain ⟨millis, hreceived⟩ := command_received hempty hlow hhigh hbytes hline
    refine ⟨_, millis, ?_, hreceived⟩
    rw [List.forall₂_map_right_iff, List.forall₂_same]
    exact fun a ha => CType.read_fits (hfits a ha)
  · exact decode_sent (body_clean e.frame) (body_ascii (run_plain hrun e he))
  · have hzero : (0 : UInt8) ∉ bytesOf text :=
      not_mem_bytes (fun c hc => (h c hc).1) fun hmem => (h _ hmem).2 rfl
    rw [MegaProtocol.crc16Ccitt, encode_ascii fun c hc => (h c hc).1, Option.map_some, crc_agree,
      c_string_eq_self.mpr hzero]
  · exact decode_encoded hclean (fun f hf c hc => (h f hf c hc).1) fun f hf hmem =>
      (h f hf _ hmem).2 rfl

end Mega

end InspectionLine
