import Mathlib.Data.Int.Notation
import Mathlib.Data.List.Basic
import Mathlib.Data.List.Sort

/-! # Decoded JSON and its conversions

What `canonical_json` makes of a value, and `str`, `int`, `float` and `bool` of a decoded one.
Floating-point numbers and their texts belong to a parameter. -/
namespace InspectionLine

inductive Json (F : Type) where
  | null
  | bool (b : Bool)
  | int (n : ℤ)
  | float (x : F)
  | str (s : String)
  | arr (items : List (Json F))
  | obj (fields : List (String × Json F))

abbrev JsonFields (F : Type) := List (String × Json F)

namespace JsonFields

variable {F : Type}

def field? (fields : JsonFields F) (key : String) : Option (Json F) := fields.lookup key

def field (fields : JsonFields F) (key : String) (default : Json F) : Json F :=
  (fields.field? key).getD default

end JsonFields

inductive ErrorKind where
  | valueError | typeError | attributeError | overflowError | integrityError
  | assertionError
  deriving DecidableEq, Repr

structure PyError where
  kind : ErrorKind
  text : String := ""
  deriving DecidableEq, Repr

/-- What the interpreter brings: the digest, and all that depends on its floating-point numbers. -/
class Runtime (F : Type) where
  sha256Text : String → String
  /-- The text of a value that is not a string. -/
  repr : Json F → String
  /-- The text of a finite number. -/
  floatText : F → Option String
  parseInt : String → Option ℤ
  truncate : F → Except PyError ℤ
  ofInt : ℤ → Except PyError F
  parseFloat : String → Option F
  equalsInt : F → ℤ → Bool
  isNaN : F → Bool
  zero : F

namespace Json

variable {F : Type}

def fields? : Json F → Option (JsonFields F)
  | .obj fields => some fields
  | _ => none

variable [Runtime F]

def toStr : Json F → String
  | .str s => s
  | value => Runtime.repr value

def toInt : Json F → Except PyError ℤ
  | .int n => .ok n
  | .bool b => .ok b.toNat
  | .float x => Runtime.truncate x
  | .str s =>
    match Runtime.parseInt F s with
    | some n => .ok n
    | none => .error { kind := .valueError }
  | .null | .arr _ | .obj _ => .error { kind := .typeError }

def toFloat : Json F → Except PyError F
  | .float x => .ok x
  | .int n => Runtime.ofInt n
  | .bool b => Runtime.ofInt b.toNat
  | .str s =>
    match Runtime.parseFloat s with
    | some x => .ok x
    | none => .error { kind := .valueError }
  | .null | .arr _ | .obj _ => .error { kind := .typeError }

def truthy : Json F → Bool
  | .null => false
  | .bool b => b
  | .int n => n ≠ 0
  | .float x => !Runtime.equalsInt x 0
  | .str s => s ≠ ""
  | .arr items => !items.isEmpty
  | .obj fields => !fields.isEmpty

def escape (c : Char) : String :=
  match c with
  | '"' => "\\\""
  | '\\' => "\\\\"
  | '\n' => "\\n"
  | '\r' => "\\r"
  | '\t' => "\\t"
  | '\x0c' => "\\f"
  | '\x08' => "\\b"
  | c =>
    if c.toNat < 0x20 then
      "\\u00" ++ String.ofList [Nat.digitChar (c.toNat / 16), Nat.digitChar (c.toNat % 16)]
    else String.singleton c

def quote (s : String) : String := "\"" ++ String.join (s.toList.map escape) ++ "\""

mutual

/-- Keys in order, no blanks, no escapes that are not needed; a number that is not finite
raises. -/
def canonicalJson : Json F → Except PyError String
  | .null => .ok "null"
  | .bool true => .ok "true"
  | .bool false => .ok "false"
  | .int n => .ok (toString n)
  | .float x =>
    match Runtime.floatText x with
    | some text => .ok text
    | none =>
      .error { kind := .valueError, text := "Out of range float values are not JSON compliant" }
  | .str s => .ok (quote s)
  | .arr items => do return "[" ++ String.intercalate "," (← itemTexts items) ++ "]"
  | .obj fields => do
    let texts := (← fieldTexts fields).insertionSort fun a b => a.1 ≤ b.1
    let members := texts.map fun (key, text) => quote key ++ ":" ++ text
    return "\x7b" ++ String.intercalate "," members ++ "\x7d"

def itemTexts : List (Json F) → Except PyError (List String)
  | [] => .ok []
  | item :: items => do return (← canonicalJson item) :: (← itemTexts items)

def fieldTexts : List (String × Json F) → Except PyError (List (String × String))
  | [] => .ok []
  | (key, value) :: fields => do return (key, ← canonicalJson value) :: (← fieldTexts fields)

end

def equalsInt : Json F → ℤ → Bool
  | .int n, k => n = k
  | .bool b, k => b.toNat = k
  | .float x, k => Runtime.equalsInt x k
  | _, _ => false

/-- What a `for` loop over the value goes through. -/
def elements : Json F → Except PyError (List (Json F))
  | .arr items => .ok items
  | .obj fields => .ok (fields.map fun field => .str field.1)
  | .str s => .ok (s.toList.map fun c => .str (String.singleton c))
  | .null | .bool _ | .int _ | .float _ => .error { kind := .typeError }

end Json

/-- An interpreter without floating-point numbers, and with the digests of some texts. -/
@[reducible] def Runtime.withDigests (digests : List (String × String)) : Runtime Unit where
  sha256Text text := (digests.lookup text).getD ""
  repr
    | .null => "None"
    | .bool true => "True"
    | .bool false => "False"
    | .int n => toString n
    | _ => ""
  floatText _ := none
  parseInt := String.toInt?
  truncate _ := .ok 0
  ofInt _ := .ok ()
  parseFloat _ := none
  equalsInt _ n := n = 0
  isNaN _ := false
  zero := ()

end InspectionLine
