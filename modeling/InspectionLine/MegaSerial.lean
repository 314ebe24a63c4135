import Mathlib.Algebra.Group.Nat.Defs
import Mathlib.Data.List.Basic
import Mathlib.Data.Int.Notation

/-! # Serial lines of the Mega

Frames are bytes. The C library calls of the parser are written out on byte lists, with
the 16-bit `int` and the 32-bit `long` of the board. -/
namespace InspectionLine.MegaSerial

def ascii (text : String) : List UInt8 := text.toList.map fun c => c.toNat.toUInt8

def separator : UInt8 := 0x7C

def newline : UInt8 := 0x0A

def carriageReturn : UInt8 := 0x0D

def crcStep (crc : UInt16) : UInt16 :=
  if crc &&& 0x8000 ≠ 0 then (crc <<< 1) ^^^ 0x1021 else crc <<< 1

def crc16Ccitt (text : List UInt8) : UInt16 :=
  text.foldl (fun crc byte => (List.range 8).foldl (fun crc _ => crcStep crc)
    (crc ^^^ (byte.toUInt16 <<< (8 : UInt16)))) 0xFFFF

example : crc16Ccitt (ascii "123456789") = 0x29B1 := by decide +kernel

def hexDigit (n : ℕ) : UInt8 := if n < 10 then (0x30 + n).toUInt8 else (0x41 + (n - 10)).toUInt8

/-- The `%04X` rendering of a checksum. -/
def crcText (crc : UInt16) : List UInt8 :=
  [crc.toNat / 4096 % 16, crc.toNat / 256 % 16, crc.toNat / 16 % 16, crc.toNat % 16].map hexDigit

def withCrc (body : List UInt8) : List UInt8 := body ++ separator :: crcText (crc16Ccitt body)

def sendFrame (body : String) : List UInt8 :=
  withCrc (ascii body) ++ [carriageReturn, newline]

def isSpace (c : UInt8) : Bool := c = 0x20 || (0x09 ≤ c && c ≤ 0x0D)

def digitValue? (c : UInt8) : Option ℕ :=
  if 0x30 ≤ c ∧ c ≤ 0x39 then some (c.toNat - 0x30)
  else if 0x41 ≤ c ∧ c ≤ 0x46 then some (c.toNat - 0x41 + 10)
  else if 0x61 ≤ c ∧ c ≤ 0x66 then some (c.toNat - 0x61 + 10)
  else none

/-- The value of the longest run of digits of a base at the front of a text. -/
def digits (base : ℕ) : ℕ → List UInt8 → ℕ
  | value, [] => value
  | value, c :: rest =>
    match digitValue? c with
    | some d => if d < base then digits base (base * value + d) rest else value
    | none => value

def splitSign (text : List UInt8) : Bool × List UInt8 :=
  match text.dropWhile isSpace with
  | [] => (false, [])
  | c :: rest => if c = 0x2D then (true, rest) else if c = 0x2B then (false, rest)
    else (false, c :: rest)

def skipHexPrefix : List UInt8 → List UInt8
  | z :: x :: rest => if z = 0x30 ∧ (x = 0x58 ∨ x = 0x78) then rest else z :: x :: rest
  | text => text

/-- `(uint16_t)strtoul(text, nullptr, 16)`, for texts too short to overflow. -/
def strtoulHex (text : List UInt8) : UInt16 :=
  let (negative, rest) := splitSign text
  let value := (digits 16 0 (skipHexPrefix rest)).toUInt16
  if negative then -value else value

def signedDecimal (text : List UInt8) : ℤ :=
  let (negative, rest) := splitSign text
  let value : ℤ := digits 10 0 rest
  if negative then -value else value

def toLong (n : ℤ) : ℤ := n.bmod (2 ^ 32)

def atol (text : List UInt8) : ℤ := toLong (signedDecimal text)

def atoi (text : List UInt8) : ℤ := (signedDecimal text).bmod (2 ^ 16)

/-- What stands before and after the last occurrence of a character. -/
def strrchr (c : UInt8) : List UInt8 → Option (List UInt8 × List UInt8)
  | [] => none
  | b :: rest =>
    match strrchr c rest with
    | some (before, after) => some (b :: before, after)
    | none => if b = c then some ([], rest) else none

/-- The line without its checksum field, where the checksum is right. -/
def verifyAndStripCrc (line : List UInt8) : Option (List UInt8) :=
  match strrchr separator line with
  | none => none
  | some (body, received) =>
    if received.length ≠ 4 then none
    else if strtoulHex received = crc16Ccitt body then some body
    else none

/-- The successive results of `strtok_r`, which never returns an empty token. -/
def strtok (line : List UInt8) : List (List UInt8) := (line.splitOn separator).filter (· ≠ [])

end InspectionLine.MegaSerial
