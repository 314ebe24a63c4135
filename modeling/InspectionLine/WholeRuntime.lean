import InspectionLine.JsonRoundTrip
import InspectionLine.LogSpool

/-! # An interpreter whose numbers are whole

Its floating-point numbers are the integers, written with a fraction of zero, it has the digests
of some texts, and all that is asked of an interpreter holds of it. -/
namespace InspectionLine

namespace Runtime

/-- The part in front of the point. -/
def wholePart (text : String) : List Char := text.toList.takeWhile (· ≠ '.')

@[reducible] def whole (digests : List (String × String)) : Runtime ℤ where
  sha256Text text := (digests.lookup text).getD ""
  repr
    | .int n => toString n
    | _ => ""
  floatText n := some (toString n ++ ".0")
  parseInt text := some (JsonText.wholeValue text.toList)
  truncate := .ok
  ofInt := .ok
  parseFloat text := some (JsonText.wholeValue (wholePart text))
  equalsInt n k := n = k
  isNaN _ := false
  zero := 0

end Runtime

/-- The text that is stored of an event. -/
def LogProducer.payloadText (p : LogProducer) (e : LogEmission ℤ) : String :=
  (@Json.canonicalJson ℤ (.whole []) (p.envelope e)).toOption.getD ""

namespace JsonText

theorem int_chars_digits (n : ℤ) : ∃ sign m, intChars n = sign ++ Nat.toDigits 10 m ∧
    (sign = [] ∨ sign = ['-']) := by
  rcases int_chars_cases n with ⟨m, _, hchars⟩ | ⟨m, _, hchars⟩
  · exact ⟨[], m, hchars, .inl rfl⟩
  · exact ⟨['-'], m, hchars, .inr rfl⟩

theorem not_point_of_int_chars {n : ℤ} : ∀ c ∈ intChars n, c ≠ '.' := by
  rintro c hc rfl
  obtain ⟨sign, m, hchars, hsign⟩ := int_chars_digits n
  rw [hchars] at hc
  rcases List.mem_append.mp hc with hc | hc
  · rcases hsign with rfl | rfl
    · cases hc
    · exact absurd (List.mem_singleton.mp hc) (by decide)
  · exact absurd (Nat.isDigit_of_mem_toDigits (by decide) (by decide) hc) (by decide)

theorem whole_value_int_chars (n : ℤ) : wholeValue (intChars n) = n := by
  rcases int_chars_cases n with ⟨m, rfl, hchars⟩ | ⟨m, rfl, hchars⟩
  · rw [hchars]
    obtain ⟨d, ds, hcons, hdigit⟩ := to_digits_cons m
    rw [hcons]
    unfold wholeValue
    split
    · rename_i heq
      cases heq
      cases hdigit
    · rw [← hcons, Nat.ofDigitChars_toDigits (by decide) (by decide)]
  · rw [hchars]
    simp only [wholeValue, Nat.ofDigitChars_toDigits (by decide : 1 < 10) (by decide : 10 ≤ 10)]

theorem take_while_point (n : ℤ) :
    (intChars n ++ ['.', '0']).takeWhile (· ≠ '.') = intChars n := by
  rw [List.takeWhile_append_of_pos]
  · exact (List.append_nil _)
  · intro c hc
    exact decide_eq_true (not_point_of_int_chars c hc)

theorem strip_minus_int_chars (n : ℤ) (rest : List Char) :
    ∃ m, stripMinus (intChars n ++ rest) = Nat.toDigits 10 m ++ rest := by
  rcases int_chars_cases n with ⟨m, _, hchars⟩ | ⟨m, _, hchars⟩
  · refine ⟨m, ?_⟩
    rw [hchars]
    obtain ⟨d, ds, hcons, hdigit⟩ := to_digits_cons m
    rw [hcons, List.cons_append]
    unfold stripMinus
    split
    · rename_i heq
      cases heq
      cases hdigit
    · rfl
  · exact ⟨m, by rw [hchars]; rfl⟩

theorem digits_then_point (m : ℕ) :
    (Nat.toDigits 10 m ++ ['.', '0']).takeWhile Char.isDigit = Nat.toDigits 10 m ∧
      (Nat.toDigits 10 m ++ ['.', '0']).dropWhile Char.isDigit = ['.', '0'] := by
  have hdigits : ∀ c ∈ Nat.toDigits 10 m, c.isDigit = true :=
    fun c hc => Nat.isDigit_of_mem_toDigits (by decide) (by decide) hc
  constructor
  · rw [List.takeWhile_append_of_pos hdigits]
    exact List.append_nil _
  · rw [List.dropWhile_append_of_pos hdigits]
    rfl

theorem is_number_int_chars (n : ℤ) : isNumber (intChars n ++ ['.', '0']) = true := by
  obtain ⟨m, hstrip⟩ := strip_minus_int_chars n ['.', '0']
  unfold isNumber
  rw [hstrip, (digits_then_point m).1, (digits_then_point m).2, is_whole_to_digits]
  rfl

theorem not_whole_int_chars (n : ℤ) : isWhole (stripMinus (intChars n ++ ['.', '0'])) = false := by
  obtain ⟨m, hstrip⟩ := strip_minus_int_chars n ['.', '0']
  rw [hstrip]
  unfold isWhole
  have hpoint : (Nat.toDigits 10 m ++ ['.', '0']).all Char.isDigit = false := by
    rw [List.all_append, Bool.and_eq_false_iff]
    exact .inr rfl
  have hlong : Nat.toDigits 10 m ++ ['.', '0'] ≠ ['0'] := by
    intro h
    have hlength := congrArg List.length h
    rw [List.length_append] at hlength
    simp at hlength
  rw [hpoint, decide_eq_false hlong, Bool.and_false, Bool.false_and, Bool.false_or]

theorem not_name_int_chars (n : ℤ) {name : String} (h : '.' ∉ name.toList) :
    intChars n ++ ['.', '0'] ≠ name.toList := by
  intro heq
  rw [← heq] at h
  exact h (List.mem_append_right _ List.mem_cons_self)

end JsonText

namespace Runtime

theorem float_text_chars (n : ℤ) :
    (toString n ++ ".0").toList = JsonText.intChars n ++ ['.', '0'] := String.toList_append

theorem whole_lawful (digests : List (String × String)) :
    @LawfulRuntime ℤ (whole digests) := by
  let := whole digests
  refine { atom := fun n text htext => ?_, reads := fun n text htext => ?_ }
  · cases htext
    rw [float_text_chars]
    refine ⟨fun hempty => ?_, fun c hc => ?_⟩
    · have hchars := float_text_chars n
      rw [hempty] at hchars
      exact absurd (hchars ▸ List.mem_append_right _ List.mem_cons_self) List.not_mem_nil
    · rcases List.mem_append.mp hc with hc | hc
      · obtain ⟨sign, m, hchars, hsign⟩ := JsonText.int_chars_digits n
        rw [hchars] at hc
        rcases List.mem_append.mp hc with hc | hc
        · rcases hsign with rfl | rfl
          · cases hc
          · rw [List.mem_singleton.mp hc]
            rfl
        · exact JsonText.is_atom_char_of_digit
            (Nat.isDigit_of_mem_toDigits (by decide) (by decide) hc)
      · rcases List.mem_pair.mp hc with rfl | rfl <;> rfl
  · cases htext
    rw [float_text_chars]
    unfold JsonText.atomValue?
    rw [if_neg (JsonText.not_name_int_chars n (by decide)),
      if_neg (JsonText.not_name_int_chars n (by decide)),
      if_neg (JsonText.not_name_int_chars n (by decide)),
      if_neg (by rw [JsonText.not_whole_int_chars]; decide),
      if_pos (.inl (JsonText.is_number_int_chars n))]
    change (some (JsonText.wholeValue (wholePart _))).map Json.float = _
    rw [wholePart, String.toList_ofList, JsonText.take_while_point, JsonText.whole_value_int_chars]
    rfl

end Runtime

end InspectionLine
