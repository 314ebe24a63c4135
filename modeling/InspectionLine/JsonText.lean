import InspectionLine.JsonValues
import InspectionLine.OrderedDict
import Mathlib.Data.List.Infix

/-! # Reading JSON texts

`json.loads` for well-formed and malformed texts. What it makes of a text that `canonical_json` has
written is the written value, with its keys in order. A lone surrogate is no character here and its
escape is refused, where `json.loads` makes a string of it; a whole number of any length is read,
where Python refuses one of more than 4300 digits. -/
namespace InspectionLine

namespace JsonText

/-! ### Characters and strings -/

def isBlank (c : Char) : Bool := c = ' ' || c = '\t' || c = '\n' || c = '\r'

def skipBlank (chars : List Char) : List Char := chars.dropWhile isBlank

def hexValue? (c : Char) : Option ℕ :=
  if c.isDigit then some (c.toNat - '0'.toNat)
  else if 'a' ≤ c ∧ c ≤ 'f' then some (c.toNat - 'a'.toNat + 10)
  else if 'A' ≤ c ∧ c ≤ 'F' then some (c.toNat - 'A'.toNat + 10)
  else none

/-- Four hexadecimal digits. -/
def readCodeUnit : List Char → Option (ℕ × List Char)
  | a :: b :: c :: d :: rest => do
    let a ← hexValue? a
    let b ← hexValue? b
    let c ← hexValue? c
    let d ← hexValue? d
    return (((a * 16 + b) * 16 + c) * 16 + d, rest)
  | _ => none

def charOf? (n : ℕ) : Option Char := if h : n.isValidChar then some (Char.ofNatAux n h) else none

/-- What follows `\\u`: one code unit, or two that make up a character. -/
def readUnicode (chars : List Char) : Option (Char × List Char) := do
  let (unit, rest) ← readCodeUnit chars
  if 0xd800 ≤ unit ∧ unit ≤ 0xdbff then
    match rest with
    | '\\' :: 'u' :: rest => do
      let (low, rest) ← readCodeUnit rest
      if 0xdc00 ≤ low ∧ low ≤ 0xdfff then
        return (← charOf? (0x10000 + (unit - 0xd800) * 0x400 + (low - 0xdc00)), rest)
      else none
    | _ => none
  else return (← charOf? unit, rest)

def unescape? : Char → Option Char
  | '"' => some '"'
  | '\\' => some '\\'
  | '/' => some '/'
  | 'b' => some '\x08'
  | 'f' => some '\x0c'
  | 'n' => some '\n'
  | 'r' => some '\r'
  | 't' => some '\t'
  | _ => none

def readChar : List Char → Option (Char × List Char)
  | [] => none
  | '\\' :: 'u' :: rest => readUnicode rest
  | '\\' :: c :: rest => (unescape? c).map (·, rest)
  | ['\\'] => none
  | c :: rest => if c.toNat < 0x20 then none else some (c, rest)

/-- A string after its opening quote; every character takes one unit of fuel. -/
def readString : ℕ → List Char → Option (String × List Char)
  | 0, _ => none
  | _ + 1, '"' :: rest => some ("", rest)
  | fuel + 1, chars => do
    let (c, rest) ← readChar chars
    let (s, rest) ← readString fuel rest
    return (String.singleton c ++ s, rest)

/-! ### Numbers and names -/

def isAtomChar (c : Char) : Bool := c.isAlphanum || c = '+' || c = '-' || c = '.'

def stripMinus : List Char → List Char
  | '-' :: rest => rest
  | chars => chars

/-- Digits without a superfluous zero in front. -/
def isWhole (digits : List Char) : Bool :=
  digits = ['0'] || (digits ≠ [] && digits.all Char.isDigit && digits.head? ≠ some '0')

def isDigits (chars : List Char) : Bool := chars ≠ [] && chars.all Char.isDigit

def isExponent : List Char → Bool
  | [] => true
  | c :: '+' :: digits | c :: '-' :: digits => (c = 'e' || c = 'E') && isDigits digits
  | c :: digits => (c = 'e' || c = 'E') && isDigits digits

def isFraction : List Char → Bool
  | '.' :: rest => rest.takeWhile Char.isDigit ≠ [] && isExponent (rest.dropWhile Char.isDigit)
  | chars => isExponent chars

def isNumber (chars : List Char) : Bool :=
  isWhole ((stripMinus chars).takeWhile Char.isDigit) &&
    isFraction ((stripMinus chars).dropWhile Char.isDigit)

def wholeValue : List Char → ℤ
  | '-' :: digits => -(Nat.ofDigitChars 10 digits 0 : ℤ)
  | digits => Nat.ofDigitChars 10 digits 0

def specialNumbers : List String := ["NaN", "Infinity", "-Infinity"]

variable {F : Type} [Runtime F]

def atomValue? (chars : List Char) : Option (Json F) :=
  if chars = "null".toList then some .null
  else if chars = "true".toList then some (.bool true)
  else if chars = "false".toList then some (.bool false)
  else if isWhole (stripMinus chars) then some (.int (wholeValue chars))
  else if isNumber chars ∨ String.ofList chars ∈ specialNumbers then
    (Runtime.parseFloat (String.ofList chars)).map .float
  else none

def readAtom (chars : List Char) : Option (Json F × List Char) :=
  (atomValue? (chars.takeWhile isAtomChar)).map (·, chars.dropWhile isAtomChar)

/-! ### Values -/

/-- A dictionary of the pairs: of equal keys the last value counts. -/
def dictOf (fields : JsonFields F) : JsonFields F :=
  (fields.foldl (fun d field => d.insert field.1 field.2) OrderedDict.empty).entries

mutual

def readValue : ℕ → List Char → Option (Json F × List Char)
  | 0, _ => none
  | _ + 1, '"' :: rest => do
    let (s, rest) ← readString rest.length rest
    return (.str s, rest)
  | fuel + 1, '[' :: rest =>
    match skipBlank rest with
    | ']' :: rest => some (.arr [], rest)
    | chars => do
      let (items, rest) ← readItems fuel chars
      return (.arr items, rest)
  | fuel + 1, '\x7b' :: rest =>
    match skipBlank rest with
    | '\x7d' :: rest => some (.obj [], rest)
    | chars => do
      let (fields, rest) ← readFields fuel chars
      return (.obj (dictOf fields), rest)
  | _ + 1, chars => readAtom chars

/-- The items of a list up to its closing bracket. -/
def readItems : ℕ → List Char → Option (List (Json F) × List Char)
  | 0, _ => none
  | fuel + 1, chars => do
    let (item, rest) ← readValue fuel chars
    match skipBlank rest with
    | ',' :: rest => do
      let (items, rest) ← readItems fuel (skipBlank rest)
      return (item :: items, rest)
    | ']' :: rest => return ([item], rest)
    | _ => none

def readFields : ℕ → List Char → Option (JsonFields F × List Char)
  | 0, _ => none
  | fuel + 1, '"' :: rest => do
    let (key, rest) ← readString rest.length rest
    match skipBlank rest with
    | ':' :: rest => do
      let (value, rest) ← readValue fuel (skipBlank rest)
      match skipBlank rest with
      | ',' :: rest => do
        let (fields, rest) ← readFields fuel (skipBlank rest)
        return ((key, value) :: fields, rest)
      | '\x7d' :: rest => return ([(key, value)], rest)
      | _ => none
    | _ => none
  | _ + 1, _ => none

end

def intChars (n : ℤ) : List Char := (toString n).toList

theorem int_chars_cases (n : ℤ) : (∃ m : ℕ, n = m ∧ intChars n = Nat.toDigits 10 m) ∨
    ∃ m : ℕ, n = -m ∧ intChars n = '-' :: Nat.toDigits 10 m := by
  cases n with
  | ofNat m => exact .inl ⟨m, rfl, Nat.toList_repr⟩
  | negSucc m =>
    refine .inr ⟨m + 1, rfl, ?_⟩
    have htext : toString (Int.negSucc m) = "-" ++ (m + 1).repr := rfl
    rw [intChars, htext, String.toList_append, Nat.toList_repr]
    rfl

end JsonText

def Json.loads {F : Type} [Runtime F] (text : String) : Except PyError (Json F) :=
  match JsonText.readValue (text.toList.length + 1) (JsonText.skipBlank text.toList) with
  | some (value, rest) =>
    if JsonText.skipBlank rest = [] then .ok value else .error { kind := .valueError }
  | none => .error { kind := .valueError }

end InspectionLine
