import InspectionLine.JsonText
import Mathlib.Data.List.Sort
import Mathlib.Tactic.IntervalCases

/-! # Canonical texts are read back

A text that `canonical_json` writes is the one text of its value with the keys in order, and
`json.loads` makes that value of it. The interpreter promises this for its floating-point
numbers. -/
namespace InspectionLine

namespace JsonText

/-! ### Strings are read back -/

def escaped (s : List Char) : List Char := s.flatMap fun c => (Json.escape c).toList

def quoted (s : String) : List Char := '"' :: (escaped s.toList ++ ['"'])

theorem to_list_quote (s : String) : (Json.quote s).toList = quoted s := by
  simp only [Json.quote, quoted, escaped, String.toList_append, String.toList_join,
    List.flatMap_map]
  rfl

theorem hex_value_digit_char : ∀ n < 16, hexValue? (Nat.digitChar n) = some n := by decide

theorem read_unicode_control {c : Char} (h : c.toNat < 0x20) (rest : List Char) :
    readUnicode ('0' :: '0' :: Nat.digitChar (c.toNat / 16) :: Nat.digitChar (c.toNat % 16) ::
      rest) = some (c, rest) := by
  have hzero : hexValue? '0' = some 0 := rfl
  have hhigh := hex_value_digit_char (c.toNat / 16) (by omega)
  have hlow := hex_value_digit_char (c.toNat % 16) (by omega)
  have hunit : ((0 * 16 + 0) * 16 + c.toNat / 16) * 16 + c.toNat % 16 = c.toNat := by omega
  have hchar : charOf? c.toNat = some c := by
    unfold charOf?
    rw [dif_pos (show c.toNat.isValidChar from c.valid)]
    rfl
  simp only [readUnicode, readCodeUnit, hzero, hhigh, hlow, Option.bind_eq_bind,
    Option.bind_some, Option.pure_def, hunit]
  rw [if_neg (by omega), hchar]
  rfl

theorem read_char_escape (c : Char) (rest : List Char) :
    readChar ((Json.escape c).toList ++ rest) = some (c, rest) := by
  unfold Json.escape
  split
  case h_8 _ hquote hslash _ _ _ _ _ =>
    split
    · rename_i hcontrol
      simp only [String.toList_append, String.toList_ofList]
      exact read_unicode_control hcontrol rest
    · rename_i hplain
      rw [String.toList_singleton]
      simp only [List.singleton_append]
      unfold readChar
      split
      · rename_i heq
        cases heq
      · rename_i heq
        cases heq
        exact absurd rfl hslash
      · rename_i heq
        cases heq
        exact absurd rfl hslash
      · rename_i heq
        cases heq
        exact absurd rfl hslash
      · rename_i heq
        cases heq
        rw [if_neg hplain]
  all_goals rfl

theorem escape_head (c : Char) : ∃ d ds, (Json.escape c).toList = d :: ds ∧ d ≠ '"' := by
  unfold Json.escape
  split
  case h_8 _ hquote _ _ _ _ _ _ =>
    split
    · exact ⟨'\\', _, String.toList_append, by decide⟩
    · refine ⟨c, [], String.toList_singleton c, ?_⟩
      rintro rfl
      exact hquote rfl
  all_goals exact ⟨'\\', _, rfl, by decide⟩

theorem read_string_escaped (s : List Char) (rest : List Char) :
    ∀ fuel, (escaped s).length < fuel →
      readString fuel (escaped s ++ '"' :: rest) = some (String.ofList s, rest) := by
  induction s with
  | nil =>
    intro fuel hfuel
    obtain ⟨fuel, rfl⟩ := Nat.exists_eq_succ_of_ne_zero (Nat.ne_zero_of_lt hfuel)
    rfl
  | cons c s ih =>
    intro fuel hfuel
    obtain ⟨fuel, rfl⟩ := Nat.exists_eq_succ_of_ne_zero (Nat.ne_zero_of_lt hfuel)
    obtain ⟨d, ds, hd, hne⟩ := escape_head c
    have hsplit : escaped (c :: s) = (Json.escape c).toList ++ escaped s := rfl
    have hshort : (escaped s).length < fuel := by
      rw [hsplit, List.length_append, hd, List.length_cons] at hfuel
      omega
    have hread := read_char_escape c (escaped s ++ '"' :: rest)
    rw [hsplit, List.append_assoc]
    rw [hd, List.cons_append] at hread ⊢
    unfold readString
    split
    · rename_i heq
      cases heq
    · rename_i heq
      cases heq
      exact absurd rfl hne
    · rename_i heq _
      cases heq
      simp only [hread, Option.bind_eq_bind, Option.bind_some, ih fuel hshort, Option.pure_def]
      rw [String.singleton_eq_ofList, ← String.ofList_append]
      rfl

/-! ### Numbers and names are read back -/

theorem is_atom_char_of_digit {c : Char} (h : c.isDigit = true) : isAtomChar c = true := by
  unfold isAtomChar Char.isAlphanum
  rw [h, Bool.or_true, Bool.true_or, Bool.true_or, Bool.true_or]

theorem to_digits_head {n : ℕ} (h : 0 < n) : (Nat.toDigits 10 n).head? ≠ some '0' := by
  induction n using Nat.strongRecOn with
  | ind n ih =>
    by_cases hsmall : n < 10
    · rw [Nat.toDigits_of_lt_base hsmall]
      interval_cases n <;> decide
    · have hnil : Nat.toDigits 10 (n / 10) ≠ [] := Nat.toDigits_ne_nil
      rw [Nat.toDigits_of_base_le (by decide) (by omega), List.head?_append_of_ne_nil _ hnil]
      exact ih (n / 10) (by omega) (by omega)

theorem is_whole_to_digits (n : ℕ) : isWhole (Nat.toDigits 10 n) = true := by
  rcases Nat.eq_zero_or_pos n with rfl | hpos
  · rfl
  · have hdigits : (Nat.toDigits 10 n).all Char.isDigit = true :=
      List.all_eq_true.mpr fun c hc => Nat.isDigit_of_mem_toDigits (by decide) (by decide) hc
    have hnil : Nat.toDigits 10 n ≠ [] := Nat.toDigits_ne_nil
    unfold isWhole
    rw [hdigits, decide_eq_true hnil, decide_eq_true (to_digits_head hpos), Bool.true_and,
      Bool.true_and, Bool.or_true]

theorem to_digits_cons (n : ℕ) : ∃ d ds, Nat.toDigits 10 n = d :: ds ∧ d.isDigit = true := by
  cases hdigits : Nat.toDigits 10 n with
  | nil => exact absurd hdigits Nat.toDigits_ne_nil
  | cons d ds =>
    refine ⟨d, ds, rfl, Nat.isDigit_of_mem_toDigits (n := n) (b := 10) (by decide) (by decide) ?_⟩
    rw [hdigits]
    exact List.mem_cons_self

variable {F : Type} [Runtime F]

theorem atom_value_whole {chars : List Char} {d : Char} {ds : List Char} (hcons : chars = d :: ds)
    (hhead : d.isDigit = true ∨ d = '-') (hwhole : isWhole (stripMinus chars) = true) :
    (atomValue? chars : Option (Json F)) = some (.int (wholeValue chars)) := by
  have hname : ∀ (name : String) (c : Char), name.toList.head? = some c → c.isDigit = false →
      c ≠ '-' → chars ≠ name.toList := by
    rintro name c hletter hdigit hminus rfl
    rw [hcons] at hletter
    obtain rfl : d = c := Option.some.inj hletter
    rcases hhead with h | h
    · rw [h] at hdigit
      cases hdigit
    · exact hminus h
  have hnull := hname "null" 'n' rfl rfl (by decide)
  have htrue := hname "true" 't' rfl rfl (by decide)
  have hfalse := hname "false" 'f' rfl rfl (by decide)
  simp only [atomValue?, if_neg hnull, if_neg htrue, if_neg hfalse, if_pos hwhole]

theorem atom_value_nat (n : ℕ) :
    (atomValue? (Nat.toDigits 10 n) : Option (Json F)) = some (.int n) := by
  obtain ⟨d, ds, hcons, hdigit⟩ := to_digits_cons n
  have hne : d ≠ '-' := by
    rintro rfl
    cases hdigit
  have hstrip : stripMinus (Nat.toDigits 10 n) = Nat.toDigits 10 n := by
    rw [hcons]
    unfold stripMinus
    split
    · rename_i heq
      cases heq
      exact absurd rfl hne
    · rfl
  have hvalue : wholeValue (Nat.toDigits 10 n) = n := by
    rw [hcons]
    unfold wholeValue
    split
    · rename_i heq
      cases heq
      exact absurd rfl hne
    · rw [← hcons, Nat.ofDigitChars_toDigits (by decide) (by decide)]
  have hwhole : isWhole (stripMinus (Nat.toDigits 10 n)) = true := by
    rw [hstrip]
    exact is_whole_to_digits n
  rw [atom_value_whole hcons (.inl hdigit) hwhole, hvalue]

theorem atom_value_neg (n : ℕ) :
    (atomValue? ('-' :: Nat.toDigits 10 n) : Option (Json F)) = some (.int (-n)) := by
  have hwhole : isWhole (stripMinus ('-' :: Nat.toDigits 10 n)) = true := is_whole_to_digits n
  have hvalue : wholeValue ('-' :: Nat.toDigits 10 n) = -n := by
    simp only [wholeValue, Nat.ofDigitChars_toDigits (by decide : 1 < 10) (by decide : 10 ≤ 10)]
  rw [@atom_value_whole _ _ _ '-' (Nat.toDigits 10 n) rfl (.inr rfl) hwhole, hvalue]

end JsonText

/-- The text of a number is no name and no whole number, and stands for the number. -/
class LawfulRuntime (F : Type) [Runtime F] : Prop where
  atom : ∀ (x : F) (text : String), Runtime.floatText x = some text →
    text ≠ "" ∧ ∀ c ∈ text.toList, JsonText.isAtomChar c = true
  reads : ∀ (x : F) (text : String), Runtime.floatText x = some text →
    JsonText.atomValue? text.toList = some (.float x)

namespace Json

variable {F : Type}

def byKey (a b : String × Json F) : Prop := a.1 ≤ b.1

instance : DecidableRel (byKey : String × Json F → String × Json F → Prop) :=
  fun a b => inferInstanceAs (Decidable (a.1 ≤ b.1))

mutual

/-- The value with the keys of every object in order. -/
def canonical : Json F → Json F
  | .null => .null
  | .bool b => .bool b
  | .int n => .int n
  | .float x => .float x
  | .str s => .str s
  | .arr items => .arr (canonicalItems items)
  | .obj fields => .obj ((canonicalFields fields).insertionSort byKey)

def canonicalItems : List (Json F) → List (Json F)
  | [] => []
  | item :: items => canonical item :: canonicalItems items

def canonicalFields : List (String × Json F) → List (String × Json F)
  | [] => []
  | (key, value) :: fields => (key, canonical value) :: canonicalFields fields

end

mutual

def Distinct : Json F → Prop
  | .null | .bool _ | .int _ | .float _ | .str _ => True
  | .arr items => DistinctItems items
  | .obj fields => (fields.map Prod.fst).Nodup ∧ DistinctFields fields

def DistinctItems : List (Json F) → Prop
  | [] => True
  | item :: items => Distinct item ∧ DistinctItems items

def DistinctFields : List (String × Json F) → Prop
  | [] => True
  | (_, value) :: fields => Distinct value ∧ DistinctFields fields

end

variable [Runtime F]

def commaList (texts : List (List Char)) : List Char := List.intercalate [','] texts

mutual

/-- The text of a value, with the keys as they come. -/
def print : Json F → List Char
  | .null => "null".toList
  | .bool true => "true".toList
  | .bool false => "false".toList
  | .int n => JsonText.intChars n
  | .float x => ((Runtime.floatText x).getD "").toList
  | .str s => JsonText.quoted s
  | .arr items => '[' :: (commaList (printItems items) ++ [']'])
  | .obj fields => '\x7b' :: (commaList (printFields fields) ++ ['\x7d'])

def printItems : List (Json F) → List (List Char)
  | [] => []
  | item :: items => print item :: printItems items

def printFields : List (String × Json F) → List (List Char)
  | [] => []
  | (key, value) :: fields => (JsonText.quoted key ++ ':' :: print value) :: printFields fields

end

mutual

def Finite : Json F → Prop
  | .null | .bool _ | .int _ | .str _ => True
  | .float x => (Runtime.floatText x).isSome = true
  | .arr items => FiniteItems items
  | .obj fields => FiniteFields fields

def FiniteItems : List (Json F) → Prop
  | [] => True
  | item :: items => Finite item ∧ FiniteItems items

def FiniteFields : List (String × Json F) → Prop
  | [] => True
  | (_, value) :: fields => Finite value ∧ FiniteFields fields

end

/-! ### The texts that are written -/

theorem comma_list_to_list (texts : List String) :
    (String.intercalate "," texts).toList = commaList (texts.map String.toList) := by
  rw [String.toList_intercalate]
  rfl

theorem print_items_map (items : List (Json F)) : printItems items = items.map print := by
  induction items with
  | nil => rfl
  | cons item items ih => rw [printItems, ih, List.map_cons]

theorem print_fields_map (fields : List (String × Json F)) : printFields fields =
    fields.map fun field => JsonText.quoted field.1 ++ ':' :: print field.2 := by
  induction fields with
  | nil => rfl
  | cons field fields ih =>
    obtain ⟨key, value⟩ := field
    rw [printFields, ih, List.map_cons]

def fieldPrint (field : String × Json F) : String × List Char := (field.1, print field.2)

theorem sorted_field_texts {texts : List (String × String)} {fields : List (String × Json F)}
    (h : texts.map (fun field => (field.1, field.2.toList)) = fields.map fieldPrint) :
    (texts.insertionSort fun a b => a.1 ≤ b.1).map (fun field => (field.1, field.2.toList)) =
      (fields.insertionSort byKey).map fieldPrint := by
  have htexts := List.map_insertionSort (fun a b : String × String => a.1 ≤ b.1)
    (fun a b : String × List Char => a.1 ≤ b.1) (fun field => (field.1, field.2.toList)) texts
    fun _ _ _ _ => Iff.rfl
  have hfields := List.map_insertionSort byKey (fun a b : String × List Char => a.1 ≤ b.1)
    fieldPrint fields fun _ _ _ _ => Iff.rfl
  rw [htexts, h, hfields]

theorem finite_fields_iff {fields : List (String × Json F)} :
    FiniteFields fields ↔ ∀ field ∈ fields, field.2.Finite := by
  induction fields with
  | nil => simp [FiniteFields]
  | cons field fields ih =>
    obtain ⟨key, value⟩ := field
    rw [FiniteFields, ih, List.forall_mem_cons]

mutual

theorem print_canonical : ∀ (value : Json F) (text : String), value.canonicalJson = .ok text →
    text.toList = print value.canonical ∧ value.canonical.Finite
  | .null, text, h => by cases h; exact ⟨rfl, trivial⟩
  | .bool true, text, h => by cases h; exact ⟨rfl, trivial⟩
  | .bool false, text, h => by cases h; exact ⟨rfl, trivial⟩
  | .int n, text, h => by cases h; exact ⟨rfl, trivial⟩
  | .float x, text, h => by
    simp only [canonicalJson] at h
    split at h
    · rename_i t ht
      cases h
      simp only [canonical, print, Finite, ht]
      exact ⟨rfl, rfl⟩
    · cases h
  | .str s, text, h => by
    cases h
    exact ⟨JsonText.to_list_quote s, trivial⟩
  | .arr items, text, h => by
    simp only [canonicalJson] at h
    cases htexts : itemTexts items with
    | error e => rw [htexts] at h; cases h
    | ok texts =>
      rw [htexts] at h
      cases h
      obtain ⟨hprint, hfinite⟩ := print_canonical_items items texts htexts
      refine ⟨?_, hfinite⟩
      simp only [String.toList_append, comma_list_to_list, hprint, canonical, print,
        print_items_map]
      rfl
  | .obj fields, text, h => by
    simp only [canonicalJson] at h
    cases htexts : fieldTexts fields with
    | error e => rw [htexts] at h; cases h
    | ok texts =>
      rw [htexts] at h
      cases h
      obtain ⟨hprint, hfinite⟩ := print_canonical_fields fields texts htexts
      refine ⟨?_, finite_fields_iff.mpr fun field hfield =>
        finite_fields_iff.mp hfinite field ((List.mem_insertionSort byKey).mp hfield)⟩
      have hmembers : ((texts.insertionSort fun a b => a.1 ≤ b.1).map fun field =>
          quote field.1 ++ ":" ++ field.2).map String.toList =
            printFields ((canonicalFields fields).insertionSort byKey) := by
        have hsorted := congrArg (List.map fun field : String × List Char =>
          JsonText.quoted field.1 ++ ':' :: field.2) (sorted_field_texts hprint)
        rw [List.map_map, List.map_map] at hsorted
        rw [print_fields_map, List.map_map]
        refine Eq.trans (List.map_congr_left fun field _ => ?_) hsorted
        simp only [Function.comp_apply, String.toList_append, JsonText.to_list_quote]
        simp
      simp only [String.toList_append, comma_list_to_list, hmembers, canonical, print]
      rfl

theorem print_canonical_items : ∀ (items : List (Json F)) (texts : List String),
    itemTexts items = .ok texts →
      texts.map String.toList = (canonicalItems items).map print ∧
        FiniteItems (canonicalItems items)
  | [], texts, h => by cases h; exact ⟨rfl, trivial⟩
  | item :: items, texts, h => by
    simp only [itemTexts] at h
    cases htext : item.canonicalJson with
    | error e => rw [htext] at h; cases h
    | ok text =>
      cases htexts : itemTexts items with
      | error e => rw [htext, htexts] at h; cases h
      | ok rest =>
        rw [htext, htexts] at h
        cases h
        obtain ⟨hprint, hfinite⟩ := print_canonical item text htext
        obtain ⟨hprints, hfinites⟩ := print_canonical_items items rest htexts
        exact ⟨by rw [List.map_cons, hprint, hprints]; rfl, hfinite, hfinites⟩

theorem print_canonical_fields : ∀ (fields : List (String × Json F))
    (texts : List (String × String)), fieldTexts fields = .ok texts →
      texts.map (fun field => (field.1, field.2.toList)) =
        (canonicalFields fields).map fieldPrint ∧ FiniteFields (canonicalFields fields)
  | [], texts, h => by cases h; exact ⟨rfl, trivial⟩
  | (key, value) :: fields, texts, h => by
    simp only [fieldTexts] at h
    cases htext : value.canonicalJson with
    | error e => rw [htext] at h; cases h
    | ok text =>
      cases htexts : fieldTexts fields with
      | error e => rw [htext, htexts] at h; cases h
      | ok rest =>
        rw [htext, htexts] at h
        cases h
        obtain ⟨hprint, hfinite⟩ := print_canonical value text htext
        obtain ⟨hprints, hfinites⟩ := print_canonical_fields fields rest htexts
        exact ⟨by rw [List.map_cons, hprint, hprints]; rfl, hfinite, hfinites⟩

end

/-! ### The texts that are read -/

open JsonText

/-- No name and no number goes on here. -/
def Stops (rest : List Char) : Prop := ∀ c ∈ rest.head?, isAtomChar c = false

theorem stops_cons {c : Char} (h : isAtomChar c = false) (rest : List Char) :
    Stops (c :: rest) := by
  intro d hd
  cases hd
  exact h

theorem read_atom {chars rest : List Char} {value : Json F}
    (hall : ∀ c ∈ chars, isAtomChar c = true) (hvalue : atomValue? chars = some value)
    (hstops : Stops rest) : readAtom (chars ++ rest) = some (value, rest) := by
  have htake : (chars ++ rest).takeWhile isAtomChar = chars := by
    rw [List.takeWhile_append_of_pos hall]
    cases rest with
    | nil => simp
    | cons c rest => rw [List.takeWhile_cons_of_neg (by simp [hstops c rfl]), List.append_nil]
  have hdrop : (chars ++ rest).dropWhile isAtomChar = rest := by
    rw [List.dropWhile_append_of_pos hall]
    cases rest with
    | nil => rfl
    | cons c rest => rw [List.dropWhile_cons_of_neg (by simp [hstops c rfl])]
  rw [readAtom, htake, hdrop, hvalue]
  rfl

theorem read_value_atom {chars rest : List Char} {value : Json F} {fuel : ℕ} (hne : chars ≠ [])
    (hall : ∀ c ∈ chars, isAtomChar c = true) (hvalue : atomValue? chars = some value)
    (hstops : Stops rest) (hfuel : chars.length ≤ fuel) :
    readValue fuel (chars ++ rest) = some (value, rest) := by
  obtain ⟨c, cs, rfl⟩ := List.exists_cons_of_ne_nil hne
  obtain ⟨fuel, rfl⟩ : ∃ k, fuel = k + 1 := ⟨fuel - 1, by rw [List.length_cons] at hfuel; omega⟩
  have hatom := hall c List.mem_cons_self
  have hread := read_atom hall hvalue hstops
  rw [List.cons_append] at hread ⊢
  unfold readValue
  split
  · rename_i heq
    cases heq
  · rename_i heq
    cases heq
    cases hatom
  · rename_i heq
    cases heq
    cases hatom
  · rename_i heq
    cases heq
    cases hatom
  · exact hread

/-- What a printed value can begin with. -/
def Begins (chars : List Char) : Prop :=
  ∃ c cs, chars = c :: cs ∧ isBlank c = false ∧ c ≠ ']' ∧ c ≠ '\x7d'

theorem begins_of_atom {chars : List Char} (hne : chars ≠ [])
    (hall : ∀ c ∈ chars, isAtomChar c = true) : Begins chars := by
  obtain ⟨c, cs, rfl⟩ := List.exists_cons_of_ne_nil hne
  have hatom := hall c List.mem_cons_self
  refine ⟨c, cs, rfl, ?_, ?_, ?_⟩
  · unfold isBlank
    by_contra hblank
    simp only [Bool.not_eq_false, Bool.or_eq_true, decide_eq_true_eq] at hblank
    rcases hblank with ((rfl | rfl) | rfl) | rfl <;> cases hatom
  · rintro rfl
    cases hatom
  · rintro rfl
    cases hatom

theorem Begins.append {chars : List Char} (h : Begins chars) (rest : List Char) :
    Begins (chars ++ rest) := by
  obtain ⟨c, cs, rfl, hc⟩ := h
  exact ⟨c, cs ++ rest, rfl, hc⟩

theorem Begins.skip_blank {chars : List Char} (h : Begins chars) : skipBlank chars = chars := by
  obtain ⟨c, cs, rfl, hblank, -, -⟩ := h
  exact List.dropWhile_cons_of_neg (by simp [hblank])

/-- Values without an inside. -/
def IsAtom (value : Json F) : Prop :=
  print value ≠ [] ∧ (∀ c ∈ print value, isAtomChar c = true) ∧
    atomValue? (print value) = some value

theorem is_atom_int (n : ℤ) : IsAtom (.int n : Json F) := by
  have hdigits : ∀ m : ℕ, ∀ c ∈ Nat.toDigits 10 m, isAtomChar c = true := fun m c hc =>
    is_atom_char_of_digit (Nat.isDigit_of_mem_toDigits (by decide) (by decide) hc)
  unfold IsAtom
  simp only [print]
  rcases int_chars_cases n with ⟨m, rfl, hchars⟩ | ⟨m, rfl, hchars⟩
  · rw [hchars]
    exact ⟨Nat.toDigits_ne_nil, hdigits m, atom_value_nat m⟩
  · rw [hchars]
    refine ⟨List.cons_ne_nil _ _, fun c hc => ?_, atom_value_neg m⟩
    rcases List.mem_cons.mp hc with rfl | hc
    · rfl
    · exact hdigits m c hc

theorem is_atom_float [LawfulRuntime F] {x : F} (h : (Json.float x).Finite) :
    IsAtom (.float x) := by
  obtain ⟨text, htext⟩ := Option.isSome_iff_exists.mp h
  obtain ⟨hne, hall⟩ := LawfulRuntime.atom x text htext
  unfold IsAtom
  simp only [print, htext, Option.getD_some]
  exact ⟨fun hnil => hne (String.toList_eq_nil_iff.mp hnil), hall, LawfulRuntime.reads x text htext⟩

theorem is_atom_name {value : Json F} (h : value = .null ∨ value = .bool true ∨
    value = .bool false) : IsAtom value := by
  have hletters : ∀ name ∈ ["null", "true", "false"], name.toList.all isAtomChar = true := by
    decide +kernel
  rcases h with rfl | rfl | rfl
  · exact ⟨by simp [print], List.all_eq_true.mp (hletters "null" (by simp)), rfl⟩
  · exact ⟨by simp [print], List.all_eq_true.mp (hletters "true" (by simp)), rfl⟩
  · exact ⟨by simp [print], List.all_eq_true.mp (hletters "false" (by simp)), rfl⟩

theorem begins_print [LawfulRuntime F] {value : Json F} (h : value.Finite) :
    Begins (print value) := by
  have hatom : ∀ v : Json F, IsAtom v → Begins (print v) := fun v hv => begins_of_atom hv.1 hv.2.1
  cases value with
  | null => exact hatom _ (is_atom_name (.inl rfl))
  | bool b =>
    cases b
    · exact hatom _ (is_atom_name (.inr (.inr rfl)))
    · exact hatom _ (is_atom_name (.inr (.inl rfl)))
  | int n => exact hatom _ (is_atom_int n)
  | float x => exact hatom _ (is_atom_float h)
  | str s => exact ⟨'"', _, rfl, rfl, by decide, by decide⟩
  | arr items => exact ⟨'[', _, rfl, rfl, by decide, by decide⟩
  | obj fields => exact ⟨'\x7b', _, rfl, rfl, by decide, by decide⟩

@[simp] theorem comma_list_singleton (text : List Char) : commaList [text] = text := by
  simp [commaList, List.intercalate]

theorem comma_list_cons (text next : List Char) (texts : List (List Char)) :
    commaList (text :: next :: texts) = text ++ ',' :: commaList (next :: texts) := by
  simp [commaList, List.intercalate]

theorem read_string_quoted (s : String) (rest : List Char) :
    readString (escaped s.toList ++ '"' :: rest).length (escaped s.toList ++ '"' :: rest) =
      some (s, rest) := by
  rw [read_string_escaped, String.ofList_toList]
  rw [List.length_append, List.length_cons]
  omega

omit [Runtime F] in
theorem dict_of_distinct {fields : JsonFields F} (h : (fields.map Prod.fst).Nodup) :
    dictOf fields = fields := by
  have hall : ∀ (d : OrderedDict String (Json F)) (rest : JsonFields F),
      (rest.map Prod.fst).Nodup → (∀ field ∈ rest, field.1 ∉ d.keys) →
        (rest.foldl (fun d field => d.insert field.1 field.2) d).entries = d.entries ++ rest := by
    intro d rest
    induction rest generalizing d with
    | nil => intros; simp
    | cons field rest ih =>
      intro hnodup hnew
      obtain ⟨hfirst, hrest⟩ := List.nodup_cons.mp hnodup
      have hinsert : (d.insert field.1 field.2).entries = d.entries ++ [field] := by
        rw [OrderedDict.insert, dif_neg (hnew field List.mem_cons_self)]
        rfl
      rw [List.foldl_cons, ih _ hrest, hinsert, List.append_assoc, List.singleton_append]
      intro other hother hmem
      rw [OrderedDict.keys, hinsert, List.map_append, List.mem_append] at hmem
      rcases hmem with hmem | hmem
      · exact hnew other (List.mem_cons_of_mem _ hother) hmem
      · rw [List.map_singleton, List.mem_singleton] at hmem
        exact hfirst (hmem ▸ List.mem_map_of_mem hother)
  exact hall .empty fields h fun field _ => List.not_mem_nil

/-! One step of the reader. -/

theorem read_value_str {fuel : ℕ} {chars rest : List Char} {s : String}
    (h : readString chars.length chars = some (s, rest)) :
    readValue (fuel + 1) ('"' :: chars) = some ((.str s : Json F), rest) := by
  simp only [readValue, h]
  rfl

theorem read_value_arr {fuel : ℕ} {chars rest : List Char} {items : List (Json F)}
    (hbegins : Begins chars) (h : readItems fuel chars = some (items, rest)) :
    readValue (fuel + 1) ('[' :: chars) = some (.arr items, rest) := by
  simp only [readValue, hbegins.skip_blank]
  obtain ⟨c, cs, rfl, -, hc, -⟩ := hbegins
  split
  · rename_i heq
    cases heq
    exact absurd rfl hc
  · rw [h]
    rfl

theorem read_value_obj {fuel : ℕ} {chars rest : List Char} {fields : JsonFields F}
    (hbegins : Begins chars) (h : readFields fuel chars = some (fields, rest)) :
    readValue (fuel + 1) ('\x7b' :: chars) = some (.obj (dictOf fields), rest) := by
  simp only [readValue, hbegins.skip_blank]
  obtain ⟨c, cs, rfl, -, -, hc⟩ := hbegins
  split
  · rename_i heq
    cases heq
    exact absurd rfl hc
  · rw [h]
    rfl

theorem read_items_last {fuel : ℕ} {chars rest : List Char} {item : Json F}
    (h : readValue fuel chars = some (item, ']' :: rest)) :
    readItems (fuel + 1) chars = some ([item], rest) := by
  simp only [readItems, h]
  rfl

theorem read_items_next {fuel : ℕ} {chars next rest : List Char} {item : Json F}
    {items : List (Json F)} (h : readValue fuel chars = some (item, ',' :: next))
    (hbegins : Begins next) (hnext : readItems fuel next = some (items, rest)) :
    readItems (fuel + 1) chars = some (item :: items, rest) := by
  have hcomma : skipBlank (',' :: next) = ',' :: next := rfl
  simp only [readItems, h, Option.bind_eq_bind, Option.bind_some, hcomma, hbegins.skip_blank,
    hnext]
  rfl

theorem read_fields_last {fuel : ℕ} {chars text rest : List Char} {key : String} {value : Json F}
    (hkey : readString chars.length chars = some (key, ':' :: text)) (hbegins : Begins text)
    (h : readValue fuel text = some (value, '\x7d' :: rest)) :
    readFields (fuel + 1) ('"' :: chars) = some ([(key, value)], rest) := by
  have hcolon : skipBlank (':' :: text) = ':' :: text := rfl
  simp only [readFields, hkey, Option.bind_eq_bind, Option.bind_some, hcolon, hbegins.skip_blank,
    h]
  rfl

theorem read_fields_next {fuel : ℕ} {chars text next rest : List Char} {key : String}
    {value : Json F} {fields : JsonFields F}
    (hkey : readString chars.length chars = some (key, ':' :: text)) (hbegins : Begins text)
    (h : readValue fuel text = some (value, ',' :: next)) (hnext : Begins next)
    (hfields : readFields fuel next = some (fields, rest)) :
    readFields (fuel + 1) ('"' :: chars) = some ((key, value) :: fields, rest) := by
  have hcolon : skipBlank (':' :: text) = ':' :: text := rfl
  have hcomma : skipBlank (',' :: next) = ',' :: next := rfl
  simp only [readFields, hkey, Option.bind_eq_bind, Option.bind_some, hcolon, hbegins.skip_blank,
    h, hcomma, hnext.skip_blank, hfields]
  rfl

variable [LawfulRuntime F]

theorem begins_items {items : List (Json F)} (hne : items ≠ []) (h : FiniteItems items) :
    Begins (commaList (printItems items)) := by
  match items, hne, h with
  | [item], _, h => simpa [printItems] using begins_print h.1
  | item :: next :: items, _, h =>
    rw [printItems, printItems, comma_list_cons]
    exact (begins_print h.1).append _

omit [LawfulRuntime F] in
theorem begins_fields {fields : List (String × Json F)} (hne : fields ≠ []) :
    Begins (commaList (printFields fields)) := by
  have hquoted : ∀ key chars, Begins (quoted key ++ chars) := fun key chars =>
    ⟨'"', _, rfl, rfl, by decide, by decide⟩
  match fields, hne with
  | [field], _ => simpa [printFields] using hquoted field.1 _
  | field :: next :: fields, _ =>
    rw [printFields, printFields, comma_list_cons, List.append_assoc]
    exact hquoted field.1 _

mutual

theorem read_print : ∀ (value : Json F), value.Finite → value.Distinct → ∀ fuel rest,
    Stops rest → (print value).length ≤ fuel →
      readValue fuel (print value ++ rest) = some (value, rest)
  | .null, _, _, fuel, rest, hstops, hfuel =>
    have hatom := is_atom_name (F := F) (.inl rfl)
    read_value_atom hatom.1 hatom.2.1 hatom.2.2 hstops hfuel
  | .bool true, _, _, fuel, rest, hstops, hfuel =>
    have hatom := is_atom_name (F := F) (.inr (.inl rfl))
    read_value_atom hatom.1 hatom.2.1 hatom.2.2 hstops hfuel
  | .bool false, _, _, fuel, rest, hstops, hfuel =>
    have hatom := is_atom_name (F := F) (.inr (.inr rfl))
    read_value_atom hatom.1 hatom.2.1 hatom.2.2 hstops hfuel
  | .int n, _, _, fuel, rest, hstops, hfuel =>
    have hatom := is_atom_int n
    read_value_atom hatom.1 hatom.2.1 hatom.2.2 hstops hfuel
  | .float x, hfinite, _, fuel, rest, hstops, hfuel =>
    have hatom := is_atom_float hfinite
    read_value_atom hatom.1 hatom.2.1 hatom.2.2 hstops hfuel
  | .str s, _, _, fuel, rest, _, hfuel => by
    obtain ⟨fuel, rfl⟩ : ∃ k, fuel = k + 1 :=
      ⟨fuel - 1, by simp only [print, quoted, List.length_cons] at hfuel; omega⟩
    simp only [print, quoted, List.cons_append, List.append_assoc, List.nil_append]
    exact read_value_str (read_string_quoted s rest)
  | .arr items, hfinite, hdistinct, fuel, rest, _, hfuel => by
    simp only [print, List.length_cons, List.length_append, List.length_nil] at hfuel
    obtain ⟨fuel, rfl⟩ : ∃ k, fuel = k + 1 := ⟨fuel - 1, by omega⟩
    have hread := read_items items hfinite hdistinct fuel rest
    by_cases hne : items = []
    · subst hne
      rfl
    · simp only [print, List.cons_append, List.append_assoc, List.nil_append]
      exact read_value_arr ((begins_items hne hfinite).append _) (hread hne (by omega))
  | .obj fields, hfinite, hdistinct, fuel, rest, _, hfuel => by
    simp only [print, List.length_cons, List.length_append, List.length_nil] at hfuel
    obtain ⟨fuel, rfl⟩ : ∃ k, fuel = k + 1 := ⟨fuel - 1, by omega⟩
    have hread := read_fields fields hfinite hdistinct.2 fuel rest
    by_cases hne : fields = []
    · subst hne
      rfl
    · simp only [print, List.cons_append, List.append_assoc, List.nil_append]
      rw [read_value_obj ((begins_fields hne).append _) (hread hne (by omega)),
        dict_of_distinct hdistinct.1]

theorem read_items : ∀ items : List (Json F), FiniteItems items → DistinctItems items →
    ∀ fuel rest, items ≠ [] → (commaList (printItems items)).length + 1 ≤ fuel →
      readItems fuel (commaList (printItems items) ++ ']' :: rest) = some (items, rest)
  | [], _, _, _, _, hne, _ => absurd rfl hne
  | item :: items, hfinite, hdistinct, fuel, rest, _, hfuel => by
    obtain ⟨fuel, rfl⟩ : ∃ k, fuel = k + 1 := ⟨fuel - 1, by omega⟩
    have hitem := read_print item hfinite.1 hdistinct.1 fuel
    have hitems := read_items items hfinite.2 hdistinct.2 fuel rest
    cases items with
    | nil =>
      simp only [printItems, comma_list_singleton] at hfuel ⊢
      exact read_items_last (hitem _ (stops_cons rfl rest) (by omega))
    | cons next items =>
      have hnext := begins_items (List.cons_ne_nil next items) hfinite.2
      simp only [printItems] at hnext hitems
      simp only [printItems, comma_list_cons, List.length_append, List.length_cons] at hfuel ⊢
      rw [List.append_assoc, List.cons_append]
      exact read_items_next (hitem _ (stops_cons rfl _) (by omega)) (hnext.append _)
        (hitems (List.cons_ne_nil next items) (by omega))

theorem read_fields : ∀ fields : List (String × Json F), FiniteFields fields →
    DistinctFields fields → ∀ fuel rest, fields ≠ [] →
      (commaList (printFields fields)).length + 1 ≤ fuel →
        readFields fuel (commaList (printFields fields) ++ '\x7d' :: rest) = some (fields, rest)
  | [], _, _, _, _, hne, _ => absurd rfl hne
  | (key, value) :: fields, hfinite, hdistinct, fuel, rest, _, hfuel => by
    obtain ⟨fuel, rfl⟩ : ∃ k, fuel = k + 1 := ⟨fuel - 1, by omega⟩
    have hvalue := read_print value hfinite.1 hdistinct.1 fuel
    have hfields := read_fields fields hfinite.2 hdistinct.2 fuel rest
    rw [printFields] at hfuel ⊢
    cases hprint : printFields fields with
    | nil =>
      obtain rfl : fields = [] := by
        cases fields with
        | nil => rfl
        | cons field fields => cases hprint
      simp only [hprint, comma_list_singleton, quoted, List.cons_append, List.append_assoc,
        List.nil_append, List.length_cons, List.length_append] at hfuel ⊢
      exact read_fields_last (read_string_quoted key _) ((begins_print hfinite.1).append _)
        (hvalue _ (stops_cons rfl rest) (by omega))
    | cons text texts =>
      have hne : fields ≠ [] := by
        rintro rfl
        cases hprint
      have hnext := begins_fields hne
      rw [hprint] at hnext hfields hfuel
      simp only [comma_list_cons, quoted, List.cons_append, List.append_assoc,
        List.nil_append, List.length_cons, List.length_append] at hfuel ⊢
      exact read_fields_next (read_string_quoted key _) ((begins_print hfinite.1).append _)
        (hvalue _ (stops_cons rfl _) (by omega)) (hnext.append _) (hfields hne (by omega))

end

/-! ### What is decoded -/

section
omit [LawfulRuntime F] [Runtime F]

theorem distinct_fields_iff {fields : List (String × Json F)} :
    DistinctFields fields ↔ ∀ field ∈ fields, field.2.Distinct := by
  induction fields with
  | nil => simp [DistinctFields]
  | cons field fields ih =>
    obtain ⟨key, value⟩ := field
    rw [DistinctFields, ih, List.forall_mem_cons]

@[simp] theorem keys_canonical (fields : List (String × Json F)) :
    (canonicalFields fields).map Prod.fst = fields.map Prod.fst := by
  induction fields with
  | nil => rfl
  | cons field fields ih =>
    obtain ⟨key, value⟩ := field
    simp only [canonicalFields, List.map_cons, ih]

theorem nodup_sorted {fields : List (String × Json F)} (h : (fields.map Prod.fst).Nodup) :
    (((canonicalFields fields).insertionSort byKey).map Prod.fst).Nodup := by
  have hperm := (List.perm_insertionSort byKey (canonicalFields fields)).map Prod.fst
  rw [keys_canonical] at hperm
  exact hperm.nodup_iff.mpr h

mutual

theorem distinct_canonical : ∀ value : Json F, value.Distinct → value.canonical.Distinct
  | .null, _ | .bool _, _ | .int _, _ | .float _, _ | .str _, _ => trivial
  | .arr items, h => distinct_canonical_items items h
  | .obj fields, h => by
    refine ⟨nodup_sorted h.1, distinct_fields_iff.mpr fun field hfield => ?_⟩
    exact distinct_fields_iff.mp (distinct_canonical_fields fields h.2) field
      ((List.mem_insertionSort byKey).mp hfield)

theorem distinct_canonical_items : ∀ items : List (Json F), DistinctItems items →
    DistinctItems (canonicalItems items)
  | [], _ => trivial
  | item :: items, h => ⟨distinct_canonical item h.1, distinct_canonical_items items h.2⟩

theorem distinct_canonical_fields : ∀ fields : List (String × Json F), DistinctFields fields →
    DistinctFields (canonicalFields fields)
  | [], _ => trivial
  | (_, value) :: fields, h =>
    ⟨distinct_canonical value h.1, distinct_canonical_fields fields h.2⟩

end

theorem lookup_canonical (fields : List (String × Json F)) (key : String) :
    (canonicalFields fields).lookup key = (fields.lookup key).map canonical := by
  induction fields with
  | nil => rfl
  | cons field fields ih =>
    obtain ⟨name, value⟩ := field
    rw [canonicalFields, List.lookup_cons, List.lookup_cons, ih]
    split <;> rfl

theorem field?_sorted {fields : JsonFields F} (h : (fields.map Prod.fst).Nodup) (key : String) :
    JsonFields.field? ((canonicalFields fields).insertionSort byKey) key =
      (fields.field? key).map canonical := by
  rw [JsonFields.field?, JsonFields.field?, ← lookup_canonical]
  have hkeys : ((canonicalFields fields).map Prod.fst).Nodup := by rwa [keys_canonical]
  ext value
  have hsorted := OrderedDict.get?_eq_some (d := ⟨_, nodup_sorted h⟩) (k := key) (v := value)
  have hplain := OrderedDict.get?_eq_some (d := ⟨_, hkeys⟩) (k := key) (v := value)
  simp only [OrderedDict.get?] at hsorted hplain
  rw [hsorted, hplain, List.mem_insertionSort]

theorem field_sorted {fields : JsonFields F} (h : (fields.map Prod.fst).Nodup) (key : String)
    {default : Json F} (hdefault : default.canonical = default) :
    JsonFields.field ((canonicalFields fields).insertionSort byKey) key default =
      (fields.field key default).canonical := by
  rw [JsonFields.field, JsonFields.field, field?_sorted h]
  cases fields.field? key with
  | none => exact hdefault.symm
  | some value => rfl

end

/-- What `canonical_json` writes, `json.loads` makes the same value of, with its keys in order. -/
theorem loads_canonical {value : Json F} {text : String} (h : value.canonicalJson = .ok text)
    (hdistinct : value.Distinct) :
    (loads text : Except PyError (Json F)) = .ok value.canonical := by
  obtain ⟨htext, hfinite⟩ := print_canonical value text h
  have hread := read_print value.canonical hfinite (distinct_canonical value hdistinct)
    (text.toList.length + 1) [] (by intro c hc; cases hc) (by rw [htext]; omega)
  have hskip : skipBlank text.toList = print value.canonical ++ [] := by
    rw [htext, (begins_print hfinite).skip_blank, List.append_nil]
  unfold loads
  rw [hskip, hread]
  rfl

end Json

end InspectionLine
