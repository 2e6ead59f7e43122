import FormLang.Proofs.Binary64.Nearest
import FormLang.Proofs.Decimal.Strict
import FormLang.Proofs.Value.NumberText

/-!
# Texts as numbers and booleans

A text is a number if and only if it is a strict numeral, and then the number is the one that the numeral's value
rounds to (`strictNumber?_eq_some_iff`). A text is a boolean if it is the word for it, or a number that is one or
zero: `cast_boolean_string` says when a cast to a boolean gives which result, in terms of the cast to a number.
-/

namespace FormLang

/-! ## Strict numerals -/

namespace Numeral

/-- The value of a numeral without a power of ten: a whole number and a part of one, both negated after a minus
sign. -/
def value (n : Numeral) : ℚ :=
  let places := n.fraction.getD []
  let distance : ℚ := digitsValue n.whole + digitsValue places / 10 ^ places.length
  if n.negative then -distance else distance

theorem toRat_toDecimal {n : Numeral} (h : n.power = none) : n.toDecimal.toRat = n.value := by
  have hmagnitude : n.toDecimal.magnitude =
      digitsValue n.whole + digitsValue (n.fraction.getD []) / 10 ^ (n.fraction.getD []).length := by
    rw [Binary64.magnitude_toDecimal, h, Option.getD_none, zero_sub, zpow_neg, zpow_natCast, digitsValue_append]
    field_simp
    push_cast
    ring
  rw [Decimal.toRat, hmagnitude]
  rfl

end Numeral

/-- A text is a number if and only if it is a strict numeral, and then it is the number that the value of the
numeral rounds to. -/
theorem strictNumber?_eq_some_iff {s : String} {a : Binary64} :
    strictNumber? s = some a ↔
      ∃ n : Numeral, n.IsStrict ∧ n.chars = s.toList ∧ a.IsRounded n.negative n.value := by
  have hread : strictNumber? s = some a ↔
      ∃ n, (Numeral.ofText? s.toList = some n ∧ n.power = none) ∧ a = .ofDecimal n.toDecimal := by
    simp only [strictNumber?, Option.bind_eq_bind, Option.bind_eq_some_iff]
    refine exists_congr fun n => ?_
    split
    case isTrue hp => simp [hp, eq_comm]
    case isFalse hp => simp [hp]
  rw [hread]
  refine exists_congr fun n => ?_
  rw [Numeral.ofText?_eq_strict_iff, and_assoc]
  refine and_congr_right fun hs => and_congr_right fun _ => ?_
  rw [← Numeral.toRat_toDecimal hs.power]
  exact Binary64.isRounded_iff.symm

/-! ## Zero and one -/

namespace Binary64

/-- The number one. -/
def one : Finite := ⟨false, 0x10000000000000, 1022, by decide, by decide, by decide⟩

theorem ofInt_one : ofInt 1 = .finite one := by decide +kernel

theorem Finite.units_lt (x : Finite) : x.units < 2 ^ 2098 := by
  have hle : 53 + x.exponent ≤ 2098 := Nat.add_le_add_left x.exponent_le 53
  calc
    x.units < 2 ^ 53 * 2 ^ x.exponent := Nat.mul_lt_mul_of_pos_right x.significand_lt (by positivity)
    _ = 2 ^ (53 + x.exponent) := (pow_add 2 53 x.exponent).symm
    _ ≤ 2 ^ 2098 := pow_le_pow_right₀ one_le_two hle

/-- No finite number is equal to an infinity. -/
theorem infinite_eq_finite (negative : Bool) (x : Finite) : (infinite negative).eq (finite x) = false := by
  have hunits : (x.units : ℤ) < 2 ^ 2098 := (Nat.cast_lt.mpr x.units_lt).trans_eq (Nat.cast_pow 2 2098)
  have hsigned : x.signedUnits = x.units ∨ x.signedUnits = -x.units := by
    rw [Finite.signedUnits]
    split <;> simp
  simp only [eq, compareBy, rank, beq_eq_false_iff_ne]
  generalize (2 : ℤ) ^ 2098 = limit at hunits ⊢
  split <;> omega

/-- Only one number is equal to one. -/
theorem eq_one_iff {x : Binary64} : x.eq (.ofInt 1) = true ↔ x = .ofInt 1 := by
  rw [ofInt_one]
  cases x with
  | finite x =>
    have hone : one.withoutZeroSign = one := rfl
    rw [eq_finite_iff, ← Finite.withoutZeroSign_eq_iff, hone, finite.injEq, Finite.withoutZeroSign]
    split
    case isTrue hx =>
      refine ⟨fun h => absurd h (by decide), ?_⟩
      rintro rfl
      cases hx
    case isFalse => rfl
  | infinite negative => simp [infinite_eq_finite]
  | nan => decide

/-- The two zeros are equal to zero, and nothing else. -/
theorem eq_zero_iff_exists {x : Binary64} : x.eq .zero = true ↔ ∃ negative, x = .finite (.zero negative) := by
  cases x with
  | finite x => simp only [eq_zero_iff, Finite.isZero_iff, finite.injEq]
  | infinite negative => simp [zero, infinite_eq_finite]
  | nan =>
    have hne : nan.eq .zero = false := rfl
    simp [hne]

end Binary64

namespace Value

variable {x : Binary64} {s : String} {role role' : CastRole}

theorem booleanOfNumber?_eq_true_iff : booleanOfNumber? x = some true ↔ x = .ofInt 1 := by
  rw [← Binary64.eq_one_iff, booleanOfNumber?]
  split
  · simp [*]
  · split <;> simp [*]

theorem booleanOfNumber?_eq_false_iff :
    booleanOfNumber? x = some false ↔ ∃ negative, x = .finite (.zero negative) := by
  rw [← Binary64.eq_zero_iff_exists, booleanOfNumber?]
  split
  case isTrue h =>
    have hne : (Binary64.ofInt 1).eq .zero = false := by
      rw [Binary64.ofInt_one, Bool.eq_false_iff, Ne, Binary64.eq_zero_iff]
      decide
    rw [Binary64.eq_one_iff.mp h, hne]
    exact iff_of_false nofun nofun
  case isFalse => split <;> simp [*]

/-! ## Casts of texts -/

theorem strictNumber?_null : strictNumber? "null" = none := by decide

/-- A text is cast to a number if it is one. -/
theorem cast_string_eq_number_iff :
    (string s).cast (some .number) role = .ok (number x) ↔ strictNumber? s = some x := by
  by_cases hs : s = "null"
  · subst hs
    rw [strictNumber?_null]
    exact iff_of_false (fun h => by cases h) (fun h => by cases h)
  · rw [cast, castTo_number_string hs]
    cases strictNumber? s with
    | none => exact iff_of_false (fun h => by cases h) (fun h => by cases h)
    | some y => simp

/-- A text that is not the word `null` is cast to the boolean that it stands for. -/
theorem castTo_boolean_string (hs : s ≠ "null") :
    (string s).castTo .boolean role =
      ((string s).toBoolean?.map boolean).elim (.error (.unexpected (string s) .boolean)) .ok := by
  rw [castTo_eq_convert (isNullLike_string_eq_false_iff.mpr hs) (by simp [type, sourcesOf])]
  rfl

theorem toBoolean?_eq_true_iff :
    (string s).toBoolean? = some true ↔ s = "true" ∨ strictNumber? s = some (.ofInt 1) := by
  rw [toBoolean?]
  split
  case isTrue h => simp [h]
  case isFalse h =>
    split
    case isTrue hf =>
      have hnone : strictNumber? "false" = none := by decide
      rw [hf, hnone]
      exact iff_of_false nofun (not_or_intro (by decide) nofun)
    case isFalse => simp only [Option.bind_eq_some_iff, booleanOfNumber?_eq_true_iff, h, false_or,
      exists_eq_right]

theorem toBoolean?_eq_false_iff :
    (string s).toBoolean? = some false ↔
      s = "false" ∨ ∃ negative, strictNumber? s = some (.finite (.zero negative)) := by
  rw [toBoolean?]
  split
  case isTrue h =>
    have hnone : strictNumber? "true" = none := by decide
    rw [h, hnone]
    exact iff_of_false nofun (not_or_intro (by decide) nofun)
  case isFalse =>
    split
    case isTrue hf => simp [hf]
    case isFalse hf =>
      simp only [Option.bind_eq_some_iff, booleanOfNumber?_eq_false_iff, hf, false_or]
      constructor
      · rintro ⟨_, hx, negative, rfl⟩
        exact ⟨negative, hx⟩
      · rintro ⟨negative, hx⟩
        exact ⟨_, hx, negative, rfl⟩

/-- A text is a number if and only if it is a strict numeral, and then it is the number that the value of the
numeral rounds to. So a cast of a text to a boolean is true if the text is the word `true` or is cast to the number
one, false if it is the word `false` or is cast to a zero, and null if it is the word `null`; every other text is
not the boolean that is expected. -/
theorem cast_boolean_string (s : String) (role role' : CastRole) :
    let toBoolean := (string s).cast (some .boolean) role
    let toNumber := (string s).cast (some .number) role'
    (∀ a, strictNumber? s = some a ↔
      ∃ n : Numeral, n.IsStrict ∧ n.chars = s.toList ∧ a.IsRounded n.negative n.value) ∧
    (∀ a, toNumber = .ok (number a) ↔ strictNumber? s = some a) ∧
    (toBoolean = .ok (boolean true) ↔ s = "true" ∨ toNumber = .ok (number (.ofInt 1))) ∧
    (toBoolean = .ok (boolean false) ↔
      s = "false" ∨ ∃ negative, toNumber = .ok (number (.finite (.zero negative)))) ∧
    (toBoolean = .ok null ↔ s = "null") ∧
    (toBoolean = .ok (boolean true) ∨ toBoolean = .ok (boolean false) ∨ toBoolean = .ok null ∨
      toBoolean = .error (.unexpected (string s) .boolean)) := by
  intro toBoolean toNumber
  refine ⟨fun _ => strictNumber?_eq_some_iff, fun _ => cast_string_eq_number_iff, ?_⟩
  simp only [toNumber, cast_string_eq_number_iff, ← toBoolean?_eq_true_iff, ← toBoolean?_eq_false_iff]
  by_cases hs : s = "null"
  · have hnull : toBoolean = .ok null := by
      subst hs
      rfl
    have hnone : (string s).toBoolean? = none := by
      rw [hs]
      decide +kernel
    rw [hnull, hnone]
    simp [hs]
  · have hcast : toBoolean = _ := castTo_boolean_string hs
    rw [hcast]
    rcases (string s).toBoolean? with _ | _ | _
    · simp [hs]
    · simp [hs]
    · simp [hs]

end Value

end FormLang
