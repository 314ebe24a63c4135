import InspectionLine.Crc
import InspectionLine.JsonText
import InspectionLine.MegaSerial
import Mathlib.Data.List.DropRight

/-! # The codec of Control

A Python string is the list of its characters here, and the text of a field is what `str` makes
of it. An exception that `decode_frame` catches is no result. -/
namespace InspectionLine.MegaProtocol

abbrev Text := List Char

def isAscii (c : Char) : Bool := c.toNat < 128

def bytesOf (text : Text) : List UInt8 := text.map fun c => c.toNat.toUInt8

def charsOf (line : List UInt8) : Text := line.map fun b => Char.ofNat b.toNat

def encodeAscii (text : Text) : Option (List UInt8) :=
  if text.all isAscii then some (bytesOf text) else none

def decodeAscii (line : List UInt8) : Option Text :=
  if line.all (· < 128) then some (charsOf line) else none

/-! ### The checksum -/

def crcBit (crc : ℕ) : ℕ :=
  if crc &&& 0x8000 ≠ 0 then ((crc <<< 1) ^^^ 0x1021) &&& 0xFFFF else (crc <<< 1) &&& 0xFFFF

def crcByte (crc : ℕ) (byte : UInt8) : ℕ :=
  (List.range 8).foldl (fun crc _ => crcBit crc) (crc ^^^ (byte.toNat <<< 8))

def crcOfBytes (bytes : List UInt8) : ℕ := bytes.foldl crcByte 0xFFFF

def crc16Ccitt (value : Text) : Option ℕ := (encodeAscii value).map crcOfBytes

/-! ### Numbers in base 16 -/

def hexChar (d : ℕ) : Char := (Nat.digitChar d).toUpper

/-- The `:04X` rendering of a checksum. -/
def hexText (crc : ℕ) : Text :=
  [crc / 4096 % 16, crc / 256 % 16, crc / 16 % 16, crc % 16].map hexChar

/-- The white space that `int` skips. -/
def isSpace (c : Char) : Bool := c = ' ' || (9 ≤ c.toNat && c.toNat ≤ 13)

def hexValue? (c : Char) : Option ℕ :=
  if '0' ≤ c ∧ c ≤ '9' then some (c.toNat - '0'.toNat)
  else if 'A' ≤ c ∧ c ≤ 'F' then some (c.toNat - 'A'.toNat + 10)
  else if 'a' ≤ c ∧ c ≤ 'f' then some (c.toNat - 'a'.toNat + 10)
  else none

/-- The number that digits spell. A single underscore may stand behind a digit, before another. -/
def hexDigits : ℕ → Bool → Text → Option ℕ
  | value, behindDigit, [] => if behindDigit then some value else none
  | value, behindDigit, c :: rest =>
    if c = '_' then if behindDigit then hexDigits value false rest else none
    else (hexValue? c).bind fun d => hexDigits (16 * value + d) true rest

/-- A text without its `0x`, and without one underscore behind that. -/
def dropHexPrefix : Text → Text
  | z :: x :: rest =>
    if z = '0' ∧ (x = 'x' ∨ x = 'X') then if rest.head? = some '_' then rest.tail else rest
    else z :: x :: rest
  | text => text

def unsignedBase16 (text : Text) : Option ℤ :=
  (hexDigits 0 false (dropHexPrefix text)).map fun n => (n : ℤ)

/-- `int(text, 16)`. -/
def intBase16 (text : Text) : Option ℤ :=
  match (text.dropWhile isSpace).rdropWhile isSpace with
  | [] => none
  | c :: rest =>
    if c = '-' then (unsignedBase16 rest).map fun n => -n
    else if c = '+' then unsignedBase16 rest
    else unsignedBase16 (c :: rest)

/-! ### Frames -/

/-- What `str.strip` takes from an ASCII text; it strips separators that `int` does not skip. -/
def isWhitespace (c : Char) : Bool := isSpace c || (28 ≤ c.toNat && c.toNat ≤ 31)

def strip (text : Text) : Text := (text.dropWhile isWhitespace).rdropWhile isWhitespace

def join (fields : List Text) : Text := ['|'].intercalate fields

def encodeFrame (fields : List Text) : Option (List UInt8) :=
  (crc16Ccitt (join fields)).bind fun crc =>
    encodeAscii (join fields ++ '|' :: hexText crc ++ ['\n'])

def decodeFrame (line : List UInt8) : Option (List Text) :=
  (decodeAscii line).bind fun text =>
    let parts := (strip text).splitOn '|'
    if parts.length < 2 then none
    else
      (intBase16 (parts.getLastD [])).bind fun received =>
        (crc16Ccitt (join parts.dropLast)).bind fun crc =>
          if received ≠ crc then none else some parts.dropLast

example : (encodeFrame ["C".toList, "7".toList, "POSITION".toList, "1".toList]).bind decodeFrame =
    some ["C".toList, "7".toList, "POSITION".toList, "1".toList] := by decide +kernel

/-! ### The checksums agree -/

/-- The polynomial of CRC-16/CCITT. -/
abbrev ccitt : BitVec 16 := 0x1021

theorem high_bit_iff {c : BitVec 16} : c &&& 0x8000#16 ≠ 0#16 ↔ c.msb = true := by
  have hand : c &&& 0x8000#16 = if c.getLsbD 15 then BitVec.twoPow 16 15 else 0#16 :=
    BitVec.and_twoPow c 15
  rw [hand, BitVec.msb_eq_getLsbD_last]
  cases c.getLsbD 15 <;> decide

theorem crc_bit_eq (c : BitVec 16) : crcBit c.toNat = (Crc.shift ccitt c).toNat := by
  have hbit : c.toNat &&& 0x8000 ≠ 0 ↔ c.msb = true := by
    rw [← high_bit_iff, ne_eq, ne_eq, BitVec.toNat_eq, BitVec.toNat_and]
    rfl
  have hmask : ∀ n, n &&& 0xFFFF = n % 2 ^ 16 := fun n => Nat.and_two_pow_sub_one_eq_mod n 16
  simp only [crcBit, Crc.shift, hbit]
  split
  · rw [hmask, Nat.xor_mod_two_pow, BitVec.toNat_xor, BitVec.toNat_shiftLeft]
    rfl
  · rw [hmask, BitVec.toNat_shiftLeft]

theorem crc_byte_eq (c : BitVec 16) (byte : UInt8) :
    crcByte c.toNat byte = (Crc.feed ccitt c byte.toBitVec).toNat := by
  have hin : c.toNat ^^^ (byte.toNat <<< 8) =
      (c ^^^ byte.toBitVec.setWidth 16 <<< (16 - 8)).toNat := by
    rw [BitVec.toNat_xor, BitVec.toNat_shiftLeft, BitVec.toNat_setWidth]
    have hbyte : byte.toNat < 2 ^ 8 := byte.toNat_lt
    have hsmall : byte.toNat <<< 8 < 2 ^ 16 := by
      rw [Nat.shiftLeft_eq]
      omega
    rw [UInt8.toNat_toBitVec, Nat.mod_eq_of_lt (a := byte.toNat) (by omega),
      Nat.mod_eq_of_lt hsmall]
  have hbits : ∀ (n : List ℕ) (d : BitVec 16), n.foldl (fun crc _ => crcBit crc) d.toNat =
      (Crc.shifts ccitt n.length d).toNat := by
    intro n
    induction n with
    | nil => exact fun d => rfl
    | cons k n ih =>
      intro d
      rw [List.foldl_cons, crc_bit_eq, ih]
      rfl
  rw [crcByte, hin, hbits]
  rfl

theorem crc_of_bytes_eq (bytes : List UInt8) : crcOfBytes bytes =
    (Crc.register ccitt 0xFFFF (bytes.map UInt8.toBitVec)).toNat := by
  have hbytes : ∀ (bytes : List UInt8) (c : BitVec 16), bytes.foldl crcByte c.toNat =
      (Crc.register ccitt c (bytes.map UInt8.toBitVec)).toNat := by
    intro bytes
    induction bytes with
    | nil => exact fun c => rfl
    | cons byte bytes ih =>
      intro c
      rw [List.foldl_cons, crc_byte_eq, ih]
      rfl
  exact hbytes bytes 0xFFFF

theorem crc_of_bytes_lt (bytes : List UInt8) : crcOfBytes bytes < 65536 := by
  rw [crc_of_bytes_eq]
  exact BitVec.isLt _

theorem crc_step_eq (c : UInt16) :
    (MegaSerial.crcStep c).toBitVec = Crc.shift ccitt c.toBitVec := by
  have hbit : c &&& 0x8000 ≠ 0 ↔ c.toBitVec.msb = true := by
    rw [← high_bit_iff, ne_eq, ne_eq, ← UInt16.toBitVec_inj, UInt16.toBitVec_and]
    rfl
  simp only [MegaSerial.crcStep, Crc.shift, hbit]
  split <;> rfl

theorem firmware_crc_eq (bytes : List UInt8) : (MegaSerial.crc16Ccitt bytes).toBitVec =
    Crc.register ccitt 0xFFFF (bytes.map UInt8.toBitVec) := by
  have hbits : ∀ (n : List ℕ) (c : UInt16),
      (n.foldl (fun crc _ => MegaSerial.crcStep crc) c).toBitVec =
        Crc.shifts ccitt n.length c.toBitVec := by
    intro n
    induction n with
    | nil => exact fun c => rfl
    | cons k n ih =>
      intro c
      rw [List.foldl_cons, ih, crc_step_eq]
      rfl
  have hbytes : ∀ (bytes : List UInt8) (c : UInt16),
      (bytes.foldl (fun crc byte => (List.range 8).foldl (fun crc _ => MegaSerial.crcStep crc)
        (crc ^^^ (byte.toUInt16 <<< (8 : UInt16)))) c).toBitVec =
          Crc.register ccitt c.toBitVec (bytes.map UInt8.toBitVec) := by
    intro bytes
    induction bytes with
    | nil => exact fun c => rfl
    | cons byte bytes ih =>
      intro c
      rw [List.foldl_cons, ih, hbits]
      rfl
  exact hbytes bytes 0xFFFF

/-- Two loops of different widths compute one checksum. -/
theorem crc_agree (bytes : List UInt8) :
    crcOfBytes bytes = (MegaSerial.crc16Ccitt bytes).toNat := by
  rw [crc_of_bytes_eq, ← firmware_crc_eq]
  rfl

/-! ### Characters and bytes -/

theorem bytes_append (text rest : Text) : bytesOf (text ++ rest) = bytesOf text ++ bytesOf rest :=
  List.map_append ..

theorem char_of_byte {c : Char} (h : isAscii c = true) :
    Char.ofNat (c.toNat.toUInt8).toNat = c := by
  have hc : c.toNat < 128 := by simpa [isAscii] using h
  have hbyte : (c.toNat.toUInt8).toNat = c.toNat := by
    rw [Nat.toUInt8_eq, UInt8.toNat_ofNat', Nat.mod_eq_of_lt (by omega)]
  rw [hbyte, Char.ofNat_toNat]

theorem char_nat : ∀ n < 128, (Char.ofNat n).toNat = n := by decide

theorem byte_of_char {b : UInt8} (h : b < 128) : (Char.ofNat b.toNat).toNat.toUInt8 = b := by
  rw [char_nat _ (UInt8.lt_iff_toNat_lt.mp h)]
  exact UInt8.ofNat_toNat

theorem char_is_ascii {b : UInt8} (h : b < 128) : isAscii (Char.ofNat b.toNat) = true := by
  have hb : b.toNat < 128 := UInt8.lt_iff_toNat_lt.mp h
  rw [isAscii, char_nat _ hb]
  simpa using hb

theorem chars_of_bytes {text : Text} (h : ∀ c ∈ text, isAscii c = true) :
    charsOf (bytesOf text) = text := by
  rw [charsOf, bytesOf, List.map_map]
  refine (List.map_congr_left fun c hc => ?_).trans (List.map_id text)
  exact char_of_byte (h c hc)

theorem bytes_of_chars {line : List UInt8} (h : ∀ b ∈ line, b < 128) :
    bytesOf (charsOf line) = line := by
  rw [charsOf, bytesOf, List.map_map]
  refine (List.map_congr_left fun b hb => ?_).trans (List.map_id line)
  exact byte_of_char (h b hb)

theorem encode_ascii {text : Text} (h : ∀ c ∈ text, isAscii c = true) :
    encodeAscii text = some (bytesOf text) := if_pos (List.all_eq_true.mpr h)

theorem bytes_lt {text : Text} (h : ∀ c ∈ text, isAscii c = true) :
    ∀ b ∈ bytesOf text, b < 128 := by
  intro b hb
  obtain ⟨c, hc, rfl⟩ := List.mem_map.mp hb
  have hascii : c.toNat < 128 := by simpa [isAscii] using h c hc
  rw [UInt8.lt_iff_toNat_lt, Nat.toUInt8_eq, UInt8.toNat_ofNat', Nat.mod_eq_of_lt (by omega)]
  exact hascii

theorem decode_ascii {text : Text} (h : ∀ c ∈ text, isAscii c = true) :
    decodeAscii (bytesOf text) = some text := by
  have hall : (bytesOf text).all (· < 128) = true :=
    List.all_eq_true.mpr fun b hb => decide_eq_true (bytes_lt h b hb)
  rw [decodeAscii, if_pos hall, chars_of_bytes h]

/-! ### Hexadecimal digits -/

theorem hex_char_spec : ∀ d < 16, hexValue? (hexChar d) = some d ∧ isAscii (hexChar d) = true ∧
    isWhitespace (hexChar d) = false ∧ hexChar d ∉ ['+', '-', '_', 'x', 'X', '|'] := by decide

theorem hex_char_byte : ∀ d < 16, (hexChar d).toNat.toUInt8 = MegaSerial.hexDigit d := by decide

theorem hex_text_chars (n : ℕ) : ∀ c ∈ hexText n, ∃ d < 16, c = hexChar d := by
  intro c hc
  obtain ⟨d, hd, rfl⟩ := List.mem_map.mp hc
  refine ⟨d, ?_, rfl⟩
  simp only [List.mem_cons, List.not_mem_nil, or_false] at hd
  rcases hd with rfl | rfl | rfl | rfl <;> exact Nat.mod_lt _ (by decide)

theorem bytes_of_hex_text (crc : UInt16) :
    bytesOf (hexText crc.toNat) = MegaSerial.crcText crc := by
  simp only [bytesOf, hexText, MegaSerial.crcText, List.map_cons, List.map_nil]
  rw [hex_char_byte _ (Nat.mod_lt _ (by decide)), hex_char_byte _ (Nat.mod_lt _ (by decide)),
    hex_char_byte _ (Nat.mod_lt _ (by decide)), hex_char_byte _ (Nat.mod_lt _ (by decide))]

theorem hex_digits_cons {d : ℕ} (hd : d < 16) (value : ℕ) (behindDigit : Bool) (rest : Text) :
    hexDigits value behindDigit (hexChar d :: rest) = hexDigits (16 * value + d) true rest := by
  obtain ⟨hvalue, -, -, hother⟩ := hex_char_spec d hd
  have hunderscore : hexChar d ≠ '_' := by
    rintro heq
    simp [heq] at hother
  rw [hexDigits, if_neg hunderscore, hvalue]
  rfl

theorem not_space_of_not_whitespace {c : Char} (h : isWhitespace c = false) : isSpace c = false :=
  (Bool.or_eq_false_iff.mp h).1

theorem int_of_hex_text {n : ℕ} (hn : n < 65536) : intBase16 (hexText n) = some (n : ℤ) := by
  have hspace : ∀ c ∈ hexText n, isSpace c = false := by
    intro c hc
    obtain ⟨d, hd, rfl⟩ := hex_text_chars n c hc
    exact not_space_of_not_whitespace (hex_char_spec d hd).2.2.1
  have hfirst : n / 4096 % 16 < 16 := Nat.mod_lt _ (by decide)
  have hsecond : n / 256 % 16 < 16 := Nat.mod_lt _ (by decide)
  have hthird : n / 16 % 16 < 16 := Nat.mod_lt _ (by decide)
  have hfourth : n % 16 < 16 := Nat.mod_lt _ (by decide)
  have hprefix : dropHexPrefix (hexText n) = hexText n := by
    have hx : ¬ (hexChar (n / 256 % 16) = 'x' ∨ hexChar (n / 256 % 16) = 'X') := by
      have hother := (hex_char_spec _ hsecond).2.2.2
      rintro (heq | heq) <;> simp [heq] at hother
    exact if_neg fun h => hx h.2
  have hdigits : hexDigits 0 false (hexText n) = some n := by
    simp only [hexText, List.map_cons, List.map_nil, hex_digits_cons hfirst,
      hex_digits_cons hsecond, hex_digits_cons hthird, hex_digits_cons hfourth]
    have hvalue : 16 * (16 * (16 * (16 * 0 + n / 4096 % 16) + n / 256 % 16) + n / 16 % 16) +
        n % 16 = n := by omega
    rw [hvalue]
    rfl
  have hstripped : ((hexText n).dropWhile isSpace).rdropWhile isSpace = hexText n := by
    have hfront : (hexText n).dropWhile isSpace = hexText n :=
      List.dropWhile_eq_self_iff.mpr fun hl => by
        rw [hspace _ (List.getElem_mem hl)]
        exact Bool.false_ne_true
    rw [hfront]
    refine List.rdropWhile_eq_self_iff.mpr fun hl => ?_
    rw [hspace _ (List.getLast_mem hl)]
    exact Bool.false_ne_true
  have hsign : hexChar (n / 4096 % 16) ≠ '-' ∧ hexChar (n / 4096 % 16) ≠ '+' := by
    have hother := (hex_char_spec _ hfirst).2.2.2
    constructor <;> rintro heq <;> simp [heq] at hother
  unfold intBase16
  rw [hstripped]
  show (if hexChar (n / 4096 % 16) = '-' then _ else if hexChar (n / 4096 % 16) = '+' then _
    else unsignedBase16 (hexText n)) = _
  rw [if_neg hsign.1, if_neg hsign.2, unsignedBase16, hprefix, hdigits]
  rfl

/-! ### Reading a frame -/

/-- The text begins with something that is not stripped. -/
def StartsClean (text : Text) : Prop := ∀ c ∈ text.head?, isWhitespace c = false

theorem strip_framed {text tail : Text} {n : ℕ} (hclean : StartsClean text)
    (htail : ∀ c ∈ tail, isWhitespace c = true) :
    strip (text ++ '|' :: hexText n ++ tail) = text ++ '|' :: hexText n := by
  have hfront : (text ++ '|' :: (hexText n ++ tail)).dropWhile isWhitespace =
      text ++ '|' :: (hexText n ++ tail) := by
    cases text with
    | nil => rfl
    | cons c text =>
      have hc : isWhitespace c = false := hclean c rfl
      simp only [List.cons_append, List.dropWhile_cons, hc, Bool.false_eq_true, if_false]
  have hlast : isWhitespace (hexChar (n % 16)) = false :=
    (hex_char_spec _ (Nat.mod_lt _ (by decide))).2.2.1
  have hsplit : text ++ '|' :: hexText n = (text ++ '|' :: [n / 4096 % 16, n / 256 % 16,
      n / 16 % 16].map hexChar) ++ [hexChar (n % 16)] := by
    simp [hexText]
  rw [strip, List.append_assoc, List.cons_append, hfront, ← List.cons_append, ← List.append_assoc]
  clear hfront
  induction tail using List.reverseRecOn with
  | nil =>
    rw [List.append_nil, hsplit]
    exact List.rdropWhile_concat_neg isWhitespace _ _ (by rw [hlast]; exact Bool.false_ne_true)
  | append_singleton tail c ih =>
    rw [← List.append_assoc, List.rdropWhile_concat_pos isWhitespace _ c (htail c (by simp))]
    exact ih fun d hd => htail d (List.mem_append_left _ hd)

theorem separator_not_hex (n : ℕ) : '|' ∉ hexText n := by
  intro hmem
  obtain ⟨d, hd, heq⟩ := hex_text_chars n _ hmem
  have hother := (hex_char_spec d hd).2.2.2
  simp [← heq] at hother

/-- A body and four digits, with white space behind them, are read as the fields of the body if and
only if the digits are its checksum. -/
theorem decode_framed {body tail : Text} {n : ℕ} (hn : n < 65536)
    (hascii : ∀ c ∈ body, isAscii c = true) (hclean : StartsClean body)
    (htail : ∀ c ∈ tail, isAscii c = true ∧ isWhitespace c = true) :
    decodeFrame (bytesOf (body ++ '|' :: hexText n ++ tail)) =
      if n = crcOfBytes (bytesOf body) then some (body.splitOn '|') else none := by
  have hall : ∀ c ∈ body ++ '|' :: hexText n ++ tail, isAscii c = true := by
    intro c hc
    simp only [List.mem_append, List.mem_cons] at hc
    rcases hc with (hc | rfl | hc) | hc
    · exact hascii c hc
    · rfl
    · obtain ⟨d, hd, rfl⟩ := hex_text_chars n c hc
      exact (hex_char_spec d hd).2.1
    · exact (htail c hc).1
  have hparts : (body ++ '|' :: hexText n).splitOn '|' = body.splitOn '|' ++ [hexText n] := by
    rw [List.splitOn_append_cons_self, List.splitOn_eq_singleton (separator_not_hex n)]
  have hlength : ¬ (body.splitOn '|' ++ [hexText n]).length < 2 := by
    have hne := List.length_pos_iff.mpr (List.splitOn_ne_nil '|' body)
    rw [List.length_append, List.length_singleton]
    omega
  have hjoin : join (body.splitOn '|') = body := List.intercalate_splitOn '|'
  rw [decodeFrame, decode_ascii hall]
  simp only [Option.bind_some, strip_framed hclean fun c hc => (htail c hc).2, hparts, hlength,
    if_false, List.getLastD_concat, List.dropLast_concat, int_of_hex_text hn, hjoin, crc16Ccitt,
    encode_ascii hascii, Option.map_some, ne_eq, Int.ofNat_inj, ite_not]

theorem join_cons (field : Text) {rest : List Text} (h : rest ≠ []) :
    join (field :: rest) = field ++ '|' :: join rest := by
  rw [join, List.intercalate_cons_of_ne_nil h, List.append_assoc]
  rfl

theorem mem_join {fields : List Text} {c : Char} (h : c ∈ join fields) :
    c = '|' ∨ ∃ field ∈ fields, c ∈ field := by
  induction fields with
  | nil => simp [join] at h
  | cons field rest ih =>
    by_cases hrest : rest = []
    · subst hrest
      exact .inr ⟨field, List.mem_cons_self, by simpa [join] using h⟩
    rw [join_cons field hrest, List.mem_append, List.mem_cons] at h
    rcases h with h | rfl | h
    · exact .inr ⟨field, List.mem_cons_self, h⟩
    · exact .inl rfl
    · rcases ih h with hsep | ⟨f, hf, hc⟩
      · exact .inl hsep
      · exact .inr ⟨f, List.mem_cons_of_mem _ hf, hc⟩

theorem join_ascii {fields : List Text} (h : ∀ field ∈ fields, ∀ c ∈ field, isAscii c = true) :
    ∀ c ∈ join fields, isAscii c = true := by
  intro c hc
  rcases mem_join hc with rfl | ⟨field, hf, hc⟩
  · rfl
  · exact h field hf c hc

theorem encode_frame {fields : List Text} (hbody : ∀ c ∈ join fields, isAscii c = true) :
    encodeFrame fields = some (bytesOf (join fields ++
      '|' :: hexText (crcOfBytes (bytesOf (join fields))) ++ ['\n'])) := by
  rw [encodeFrame, crc16Ccitt, encode_ascii hbody, Option.map_some, Option.bind_some]
  refine encode_ascii fun c hc => ?_
  simp only [List.mem_append, List.mem_cons, List.not_mem_nil, or_false] at hc
  rcases hc with (hc | rfl | hc) | rfl
  · exact hbody c hc
  · rfl
  · obtain ⟨d, hd, rfl⟩ := hex_text_chars _ c hc
    exact (hex_char_spec d hd).2.1
  · rfl

theorem framed_bytes (body tail : Text) :
    bytesOf (body ++ '|' :: hexText (crcOfBytes (bytesOf body)) ++ tail) =
      MegaSerial.withCrc (bytesOf body) ++ bytesOf tail := by
  rw [bytes_append, bytes_append, crc_agree, MegaSerial.withCrc, ← bytes_of_hex_text]
  rfl

theorem starts_clean_join {field : Text} {rest : List Text} (h : StartsClean field) :
    StartsClean (join (field :: rest)) := by
  by_cases hrest : rest = []
  · subst hrest
    simpa [join] using h
  rw [join_cons field hrest]
  cases field with
  | nil => exact fun c hc => (Option.some.inj hc) ▸ rfl
  | cons d field => exact h

/-- A frame of Control is read back as its fields. -/
theorem decode_encoded {field : Text} {rest : List Text} (hclean : StartsClean field)
    (hascii : ∀ f ∈ field :: rest, ∀ c ∈ f, isAscii c = true)
    (hplain : ∀ f ∈ field :: rest, '|' ∉ f) :
    (encodeFrame (field :: rest)).bind decodeFrame = some (field :: rest) := by
  rw [encode_frame (join_ascii hascii), Option.bind_some,
    decode_framed (crc_of_bytes_lt _) (join_ascii hascii) (starts_clean_join hclean)
      (fun c hc => by rw [List.mem_singleton.mp hc]; exact ⟨rfl, rfl⟩), if_pos rfl]
  exact congrArg some (List.splitOn_intercalate '|' hplain (List.cons_ne_nil _ _))

/-- A frame of the firmware is read as the fields of its body. -/
theorem decode_sent {body : String} (hclean : StartsClean body.toList)
    (hascii : ∀ c ∈ body.toList, isAscii c = true) :
    decodeFrame (MegaSerial.sendFrame body) = some (body.toList.splitOn '|') := by
  have hsent : MegaSerial.sendFrame body = bytesOf (body.toList ++
      '|' :: hexText (crcOfBytes (bytesOf body.toList)) ++ ['\r', '\n']) :=
    (framed_bytes body.toList ['\r', '\n']).symm
  rw [hsent, decode_framed (crc_of_bytes_lt _) hascii hclean, if_pos rfl]
  intro c hc
  rcases List.mem_pair.mp hc with rfl | rfl <;> exact ⟨rfl, rfl⟩

end InspectionLine.MegaProtocol
