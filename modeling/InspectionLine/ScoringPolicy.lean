import InspectionLine.JsonValues
import InspectionLine.SuccessfulRuns
import Mathlib.Algebra.Order.Ring.Rat
import Mathlib.Data.Rat.Floor
import Mathlib.Data.Finset.Dedup
import Mathlib.Data.Finset.Insert
import Mathlib.Tactic.NormNum

/-! # Scoring policies

The options of a spatial scoring policy are checked twice: by the tools that build an artifact
and by the Vision node that loads it. -/
namespace InspectionLine

open SuccessfulRuns

inductive ScoringErrorKind where
  | artifactContractError | runtimeError | keyError | indexError
  | builtin (kind : ErrorKind)
  deriving DecidableEq, Repr

structure ScoringError where
  kind : ScoringErrorKind
  text : String
  deriving DecidableEq, Repr

def checkScoring (kind : ScoringErrorKind) (holds : Bool) (text : String) :
    Except ScoringError Unit :=
  if holds then .ok () else .error { kind, text }

def checkContract (holds : Bool) (text : String) : Except ScoringError Unit :=
  checkScoring .artifactContractError holds text

def checkValue (holds : Bool) (text : String) : Except ScoringError Unit :=
  checkScoring (.builtin .valueError) holds text

/-- What is asked of the interpreter's floating-point numbers. -/
class DecimalFloats (F : Type) where
  /-- The number that a decimal literal of the source stands for. -/
  literal : ℚ → F
  isFinite : F → Bool
  eq : F → F → Bool
  le : F → F → Bool
  lt : F → F → Bool

/-- Literals of ordinary size are finite and keep their sign, and literals are ordered as the
decimals they stand for. -/
class LawfulDecimalFloats (F : Type) [DecimalFloats F] : Prop where
  finite_of_eq : ∀ (x : F) (q : ℚ), -10 ^ 30 ≤ q → q ≤ 10 ^ 30 →
    DecimalFloats.eq x (DecimalFloats.literal q) = true → DecimalFloats.isFinite x = true
  positive_of_eq : ∀ (x : F) (q : ℚ), 1 / 10 ^ 30 ≤ q →
    DecimalFloats.eq x (DecimalFloats.literal q) = true →
      DecimalFloats.le x (DecimalFloats.literal 0) = false
  not_lt_of_eq : ∀ (x : F) (p q : ℚ), p ≤ q →
    DecimalFloats.eq x (DecimalFloats.literal p) = true →
      DecimalFloats.lt (DecimalFloats.literal q) x = false
  le_of_eq : ∀ (x : F) (p q : ℚ), p ≤ q → DecimalFloats.eq x (DecimalFloats.literal p) = true →
    DecimalFloats.le x (DecimalFloats.literal q) = true
  ge_of_eq : ∀ (x : F) (p q : ℚ), q ≤ p → DecimalFloats.eq x (DecimalFloats.literal p) = true →
    DecimalFloats.le (DecimalFloats.literal q) x = true

section
variable {F : Type} [Runtime F] [DecimalFloats F]

/-- `float(…)`. -/
def pyFloat (value : Json F) : Except ScoringError F :=
  match value.toFloat with
  | .ok x => .ok x
  | .error e => .error { kind := .builtin e.kind, text := e.text }

def JsonFields.item (fields : JsonFields F) (key : String) : Except ScoringError (Json F) :=
  match fields.field? key with
  | some value => .ok value
  | none => .error { kind := .keyError, text := key }

/-- `set(fields) == {…}`. -/
def JsonFields.keysAre (fields : JsonFields F) (keys : List String) : Bool :=
  (fields.map Prod.fst).toFinset = keys.toFinset

def JsonFields.method (fields : JsonFields F) : String := (fields.field "method" (.str "")).toStr

/-- `x in {…}`, a set of literals. -/
def isOneOf (x : F) (literals : List ℚ) : Bool :=
  literals.any fun q => DecimalFloats.eq x (DecimalFloats.literal q)

/-- `type(value) in {int, float}`. -/
def Json.isNumber : Json F → Bool
  | .int _ | .float _ => true
  | _ => false

/-- `value == 1`. -/
def Json.equalsOne : Json F → Bool
  | .int n => n = 1
  | .bool b => b
  | .float x => Runtime.equalsInt x 1
  | _ => false

/-- `value == text`. -/
def Json.equalsText (text : String) : Json F → Bool
  | .str s => s = text
  | _ => false

/-! ### The Vision node -/

/-- The option of a method and its approved values. -/
def optionContract? : String → Option (String × List ℚ)
  | "epsilon" => some ("epsilon_ratio",
      [0.0001, 0.0005, 0.001, 0.005, 0.01, 0.05, 0.1, 0.2])
  | "std_floor" => some ("std_floor_ratio", [0.05, 0.1, 0.2])
  | "shrinkage" => some ("shrinkage_lambda", [0.05, 0.1, 0.25, 0.5])
  | "mad" => some ("mad_epsilon_ratio", [0.001, 0.01, 0.1])
  | _ => none

def validateNormalizationOption (normalization : JsonFields F) : Except ScoringError Unit :=
  match optionContract? normalization.method with
  | none => .error {
      kind := .artifactContractError, text := "artifact normalization option is invalid" }
  | some (option, approved) => do
    checkContract (normalization.keysAre ["method", option])
      "artifact normalization option is invalid"
    let value ← pyFloat (← normalization.item option)
    checkContract (isOneOf value approved) "artifact normalization value was not approved"

def validateAggregationOption (aggregation : JsonFields F) : Except ScoringError Unit :=
  if aggregation.method = "percentile" then do
    checkContract (aggregation.keysAre ["method", "percentile"])
      "artifact map percentile is invalid"
    let percentile ← pyFloat (← aggregation.item "percentile")
    checkContract (isOneOf percentile
        [95.0, 97.0, 98.0, 98.5, 99.0, 99.25, 99.5, 99.75, 99.9, 100.0])
      "artifact map percentile is invalid"
  else if aggregation.method = "top_k_percent_average" then do
    let invalid := "artifact ratio-based top-k option is invalid"
    checkContract (aggregation.keysAre
      ["method", "top_k_percent", "rounding", "minimum_patch_count"]) invalid
    let topKPercent ← aggregation.item "top_k_percent"
    checkContract topKPercent.isNumber invalid
    let percent ← pyFloat topKPercent
    checkContract (isOneOf percent [0.5, 1.0, 2.0, 5.0, 10.0, 15.0, 20.0, 25.0]) invalid
    checkContract ((← aggregation.item "rounding").equalsText "ceil") invalid
    checkContract (← aggregation.item "minimum_patch_count").equalsOne invalid
  else .error {
    kind := .artifactContractError, text := "artifact aggregation option is invalid" }

def validateSpatialPolicyOptions (normalization aggregation : Json F) :
    Except ScoringError Unit :=
  match normalization.fields?, aggregation.fields? with
  | some normalization, some aggregation => do
    validateNormalizationOption normalization
    validateAggregationOption aggregation
  | _, _ => .error {
      kind := .artifactContractError
      text := "artifact spatial scoring options must be objects" }

/-! ### The tools -/

def epsilonRatioCandidates : List ℚ := [0.0001, 0.0005, 0.001, 0.005, 0.01, 0.05, 0.1, 0.2]

def mapPercentileCandidates : List ℚ :=
  [95.0, 97.0, 98.0, 98.5, 99.0, 99.25, 99.5, 99.75, 99.9, 100.0]

def topKPercentCandidates : List ℚ := [0.5, 1.0, 2.0, 5.0, 10.0, 15.0, 20.0, 25.0]

def expectedKeys? : String → Option (List String)
  | "epsilon" => some ["method", "epsilon_ratio"]
  | "std_floor" => some ["method", "std_floor_ratio"]
  | "shrinkage" => some ["method", "shrinkage_lambda"]
  | "mad" => some ["method", "mad_epsilon_ratio"]
  | "none" => some ["method"]
  | _ => none

def allowedValues? : String → Option (List ℚ)
  | "epsilon" => some epsilonRatioCandidates
  | "std_floor" => some [0.05, 0.1, 0.2]
  | "shrinkage" => some [0.05, 0.1, 0.25, 0.5]
  | "mad" => some [0.001, 0.01, 0.1]
  | _ => none

/-- The checks of the value of an option. -/
def checkOptionValue (method field : String) (value : F) : Except ScoringError Unit := do
  checkValue (DecimalFloats.isFinite value && !DecimalFloats.le value (DecimalFloats.literal 0))
    (field ++ "는 유한한 양수여야 합니다.")
  checkValue (!(method = "shrinkage" && DecimalFloats.lt (DecimalFloats.literal 1) value))
    "shrinkage_lambda는 0보다 크고 1 이하여야 합니다."
  match allowedValues? method with
  | none => .error { kind := .keyError, text := method }
  | some allowed =>
    checkValue (isOneOf value allowed) (method ++ " 값이 승인된 후보 집합에 없습니다.")

def validateNormalizationConfig (normalization : JsonFields F) (allowNone : Bool) :
    Except ScoringError Unit :=
  let method := normalization.method
  match expectedKeys? method with
  | none => checkValue false "normalization config key가 올바르지 않습니다."
  | some keys => do
    checkValue (normalization.keysAre keys) "normalization config key가 올바르지 않습니다."
    if method = "none" then checkValue allowNone "normalization=none은 baseline 전용입니다."
    else
      match keys.find? (· ≠ "method") with
      | none => .error { kind := .runtimeError, text := "StopIteration" }
      | some field =>
        let value ← pyFloat (← normalization.item field)
        checkOptionValue method field value

def validateAggregationConfig (aggregation : JsonFields F) : Except ScoringError Unit :=
  if aggregation.method = "percentile" then do
    checkValue (aggregation.keysAre ["method", "percentile"])
      "percentile aggregation key가 올바르지 않습니다."
    let percentile ← pyFloat (← aggregation.item "percentile")
    checkValue (DecimalFloats.isFinite percentile &&
        (DecimalFloats.le (DecimalFloats.literal 0) percentile &&
          DecimalFloats.le percentile (DecimalFloats.literal 100)))
      "map percentile은 0~100이어야 합니다."
    checkValue (isOneOf percentile mapPercentileCandidates)
      "map percentile이 승인된 후보 집합에 없습니다."
  else if aggregation.method = "top_k_percent_average" then do
    checkValue (aggregation.keysAre
        ["method", "top_k_percent", "rounding", "minimum_patch_count"])
      "ratio-based top-k aggregation key가 올바르지 않습니다."
    let topKPercent ← aggregation.item "top_k_percent"
    checkValue topKPercent.isNumber "top_k_percent는 유한한 숫자여야 합니다."
    let percent ← pyFloat topKPercent
    checkValue (DecimalFloats.isFinite percent) "top_k_percent는 유한한 숫자여야 합니다."
    checkValue (isOneOf percent topKPercentCandidates)
      "top_k_percent가 승인된 후보 집합에 없습니다."
    checkValue ((← aggregation.item "rounding").equalsText "ceil")
      "ratio-based top-k rounding은 ceil이어야 합니다."
    checkValue (← aggregation.item "minimum_patch_count").equalsOne
      "ratio-based top-k minimum_patch_count는 1이어야 합니다."
  else .error {
    kind := .builtin .valueError, text := "지원하지 않는 aggregation config입니다." }

/-! ### Agreement -/

theorem check_scoring_ok {kind : ScoringErrorKind} {holds : Bool} {text : String} {u : Unit} :
    checkScoring kind holds text = .ok u ↔ holds = true := by
  unfold checkScoring
  split
  · next h => exact ⟨fun _ => h, fun _ => rfl⟩
  · next h => exact ⟨nofun, fun k => absurd k h⟩

theorem accepts_check {kind : ScoringErrorKind} {holds : Bool} {text : String}
    {f : Unit → Except ScoringError Unit} :
    (checkScoring kind holds text >>= f) = .ok () ↔ holds = true ∧ f () = .ok () := by
  rw [bind_ok]
  constructor
  · rintro ⟨_, h, k⟩
    exact ⟨check_scoring_ok.mp h, k⟩
  · rintro ⟨h, k⟩
    exact ⟨(), check_scoring_ok.mpr h, k⟩

omit [Runtime F] in
theorem is_one_of_iff {x : F} {literals : List ℚ} :
    isOneOf x literals = true ↔
      ∃ q ∈ literals, DecimalFloats.eq x (DecimalFloats.literal q) = true := by
  unfold isOneOf
  exact List.any_eq_true

/-- A method is one of the four, under the same option and values on both sides, or refused. -/
theorem option_contract_cases (method : String) :
    (∃ option approved, optionContract? method = some (option, approved) ∧
        expectedKeys? method = some ["method", option] ∧ option ≠ "method" ∧ method ≠ "none" ∧
        allowedValues? method = some approved ∧
        (∀ q ∈ approved, 1 / 10 ^ 30 ≤ q ∧ q ≤ 1)) ∨
      optionContract? method = none ∧
        (expectedKeys? method = none ∨
          method = "none" ∧ expectedKeys? method = some ["method"]) := by
  unfold optionContract?
  split
  · exact .inl ⟨_, _, rfl, rfl, by decide, by decide, rfl, by decide +kernel⟩
  · exact .inl ⟨_, _, rfl, rfl, by decide, by decide, rfl, by decide +kernel⟩
  · exact .inl ⟨_, _, rfl, rfl, by decide, by decide, rfl, by decide +kernel⟩
  · exact .inl ⟨_, _, rfl, rfl, by decide, by decide, rfl, by decide +kernel⟩
  · next hepsilon hfloor hshrinkage hmad =>
    refine .inr ⟨rfl, ?_⟩
    unfold expectedKeys?
    split
    · exact absurd rfl hepsilon
    · exact absurd rfl hfloor
    · exact absurd rfl hshrinkage
    · exact absurd rfl hmad
    · exact .inr ⟨rfl, rfl⟩
    · exact .inl rfl

variable [LawfulDecimalFloats F]

omit [Runtime F] in
/-- The approved values pass the other checks of the tools. -/
theorem check_option_value_iff {method field : String} {value : F} {approved : List ℚ}
    (hallowed : allowedValues? method = some approved)
    (hrange : ∀ q ∈ approved, 1 / 10 ^ 30 ≤ q ∧ q ≤ 1) :
    checkOptionValue method field value = .ok () ↔ isOneOf value approved = true := by
  unfold checkOptionValue checkValue
  rw [accepts_check, accepts_check, hallowed]
  dsimp only
  rw [check_scoring_ok]
  refine ⟨fun h => h.2.2, fun h => ⟨?_, ?_, h⟩⟩
  · obtain ⟨q, hq, heq⟩ := is_one_of_iff.mp h
    have hlow : (-10 ^ 30 : ℚ) ≤ q := le_trans (by norm_num) (hrange q hq).1
    have hhigh : q ≤ (10 ^ 30 : ℚ) := (hrange q hq).2.trans (by norm_num)
    rw [LawfulDecimalFloats.finite_of_eq value q hlow hhigh heq,
      LawfulDecimalFloats.positive_of_eq value q (hrange q hq).1 heq]
    rfl
  · obtain ⟨q, hq, heq⟩ := is_one_of_iff.mp h
    rw [LawfulDecimalFloats.not_lt_of_eq value q 1 (hrange q hq).2 heq, Bool.and_false]
    rfl

theorem normalizations_agree (normalization : JsonFields F) :
    validateNormalizationOption normalization = .ok () ↔
      validateNormalizationConfig normalization false = .ok () := by
  unfold validateNormalizationOption validateNormalizationConfig
  rcases option_contract_cases normalization.method with
    ⟨option, approved, hcontract, hkeys, hoption, hnone, hallowed, hrange⟩ |
    ⟨hcontract, hkeys | ⟨hnone, hkeys⟩⟩
  · have hfield : ["method", option].find? (· ≠ "method") = some option := by
      rw [List.find?_cons_of_neg (by decide), List.find?_cons_of_pos (by simpa using hoption)]
    rw [hcontract]
    dsimp only
    rw [hkeys]
    dsimp only
    rw [if_neg hnone, hfield]
    dsimp only
    unfold checkContract checkValue
    rw [accepts_check, accepts_check]
    refine and_congr_right fun _ => ?_
    simp only [bind_ok, check_scoring_ok, check_option_value_iff hallowed hrange]
  · rw [hcontract]
    dsimp only
    rw [hkeys]
    exact ⟨nofun, nofun⟩
  · rw [hcontract]
    dsimp only
    rw [hkeys]
    dsimp only
    rw [if_pos hnone]
    unfold checkValue
    rw [accepts_check]
    exact ⟨nofun, fun h => nomatch h.2⟩

theorem aggregations_agree (aggregation : JsonFields F) :
    validateAggregationOption aggregation = .ok () ↔
      validateAggregationConfig aggregation = .ok () := by
  unfold validateAggregationOption validateAggregationConfig checkContract checkValue
  by_cases hpercentile : aggregation.method = "percentile"
  · have hrange : ∀ q ∈ mapPercentileCandidates, 0 ≤ q ∧ q ≤ 100 := by decide +kernel
    have hchecks : ∀ x : F, isOneOf x mapPercentileCandidates = true →
        (DecimalFloats.isFinite x && (DecimalFloats.le (DecimalFloats.literal 0) x &&
          DecimalFloats.le x (DecimalFloats.literal 100))) = true := by
      intro x hx
      obtain ⟨q, hq, heq⟩ := is_one_of_iff.mp hx
      obtain ⟨hlow, hhigh⟩ := hrange q hq
      rw [LawfulDecimalFloats.finite_of_eq x q (le_trans (by norm_num) hlow)
          (hhigh.trans (by norm_num)) heq,
        LawfulDecimalFloats.ge_of_eq x q 0 hlow heq, LawfulDecimalFloats.le_of_eq x q 100 hhigh heq]
      rfl
    rw [if_pos hpercentile, if_pos hpercentile, accepts_check, accepts_check]
    refine and_congr_right fun _ => ?_
    simp only [bind_ok, check_scoring_ok, exists_const]
    refine exists_congr fun _ => and_congr_right fun _ => exists_congr fun x =>
      and_congr_right fun _ => ?_
    exact ⟨fun h => ⟨hchecks x h, h⟩, fun h => h.2⟩
  rw [if_neg hpercentile, if_neg hpercentile]
  by_cases htop : aggregation.method = "top_k_percent_average"
  · have hrange : ∀ q ∈ topKPercentCandidates, -10 ^ 30 ≤ q ∧ q ≤ 10 ^ 30 := by decide +kernel
    have hfinite : ∀ x : F, isOneOf x topKPercentCandidates = true →
        DecimalFloats.isFinite x = true := by
      intro x hx
      obtain ⟨q, hq, heq⟩ := is_one_of_iff.mp hx
      exact LawfulDecimalFloats.finite_of_eq x q (hrange q hq).1 (hrange q hq).2 heq
    rw [if_pos htop, if_pos htop]
    simp only [bind_ok, check_scoring_ok, exists_const]
    refine and_congr_right fun _ => exists_congr fun _ => and_congr_right fun _ =>
      and_congr_right fun _ => exists_congr fun x => and_congr_right fun _ => ?_
    exact ⟨fun h => ⟨hfinite x h.1, h⟩, fun h => h.2⟩
  · rw [if_neg htop, if_neg htop]
    exact ⟨nofun, nofun⟩

omit [LawfulDecimalFloats F] in
theorem policy_options_ok (normalization aggregation : JsonFields F) :
    validateSpatialPolicyOptions (.obj normalization) (.obj aggregation) = .ok () ↔
      validateNormalizationOption normalization = .ok () ∧
        validateAggregationOption aggregation = .ok () := by
  unfold validateSpatialPolicyOptions Json.fields?
  dsimp only
  rw [bind_ok]
  exact ⟨fun ⟨_, h, k⟩ => ⟨h, k⟩, fun ⟨h, k⟩ => ⟨(), h, k⟩⟩

/-- Both sides accept the same policies. -/
theorem policies_agree (normalization aggregation : JsonFields F) :
    validateSpatialPolicyOptions (.obj normalization) (.obj aggregation) = .ok () ↔
      validateNormalizationConfig normalization false = .ok () ∧
        validateAggregationConfig aggregation = .ok () := by
  rw [policy_options_ok, normalizations_agree, aggregations_agree]

end

/-! ### Exact arithmetic -/

instance : DecimalFloats ℚ where
  literal q := q
  isFinite _ := true
  eq x y := decide (x = y)
  le x y := decide (x ≤ y)
  lt x y := decide (x < y)

instance : LawfulDecimalFloats ℚ where
  finite_of_eq _ _ _ _ _ := rfl
  positive_of_eq x q hq heq := by
    refine decide_eq_false (not_le.mpr ?_)
    rw [of_decide_eq_true heq]
    exact lt_of_lt_of_le (show (0 : ℚ) < 1 / 10 ^ 30 by norm_num) hq
  not_lt_of_eq x p q hpq heq := by
    refine decide_eq_false (not_lt.mpr ?_)
    rw [of_decide_eq_true heq]
    exact hpq
  le_of_eq x p q hpq heq := by
    refine decide_eq_true ?_
    rw [of_decide_eq_true heq]
    exact hpq
  ge_of_eq x p q hqp heq := by
    refine decide_eq_true ?_
    rw [of_decide_eq_true heq]
    exact hqp

/-- An interpreter whose numbers are the rationals. -/
@[reducible] def Runtime.exact : Runtime ℚ where
  sha256Text _ := ""
  repr _ := ""
  floatText _ := none
  parseInt _ := none
  truncate x := .ok (if 0 ≤ x then ⌊x⌋ else ⌈x⌉)
  ofInt n := .ok n
  parseFloat _ := none
  equalsInt x n := decide (x = n)
  isNaN _ := false
  zero := 0

def epsilonPolicy : JsonFields ℚ := [("method", .str "epsilon"), ("epsilon_ratio", .float 0.01)]

def topKPolicy : JsonFields ℚ := [
  ("method", .str "top_k_percent_average"), ("top_k_percent", .float 10),
  ("rounding", .str "ceil"), ("minimum_patch_count", .int 1)]

theorem epsilon_policy_agrees :
    @validateSpatialPolicyOptions ℚ Runtime.exact _ (.obj epsilonPolicy) (.obj topKPolicy) =
        .ok () ↔
      @validateNormalizationConfig ℚ Runtime.exact _ epsilonPolicy false = .ok () ∧
        @validateAggregationConfig ℚ Runtime.exact _ topKPolicy = .ok () :=
  @policies_agree ℚ Runtime.exact _ _ epsilonPolicy topKPolicy

end InspectionLine
