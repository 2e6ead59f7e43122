import FormLang.Proofs.Binary64.Equality
import FormLang.Proofs.Value.Regular

/-!
# Numbers as texts and back

A number that is cast to a text becomes the text that users see (`castTo_string_finite`). The cast of this
text to a number takes strict numerals only, which have no power of ten (`strictNumber?_display`). So the
number comes back if it is shown without one, and otherwise the cast fails; `cast_string_cast_number` says
for which numbers.
-/

namespace FormLang

namespace Binary64

/-- The number without its sign. -/
def abs : Binary64 → Binary64
  | .finite x => .finite { x with negative := false }
  | .infinite _ => .infinite false
  | .nan => .nan

/-- A number is zero, or its distance from zero is at least the number nearest to `10 ^ -6` and less than
`10 ^ 21`. -/
def IsPlainlyShown (x : Binary64) : Prop :=
  x.eq .zero = true ∨ (ofDecimal ⟨false, 1, -6⟩).le x.abs = true ∧ x.abs.lt (ofDecimal ⟨false, 1, 21⟩) = true

variable {x y : Finite}

theorem le_finite_iff : (finite x).le (finite y) = true ↔ x.toRat ≤ y.toRat := by
  rw [Finite.toRat, Finite.toRat, div_le_div_iff_of_pos_right unitsOfOne_pos, Int.cast_le]
  simp [le, compareBy, rank]

theorem lt_finite_iff : (finite x).lt (finite y) = true ↔ x.toRat < y.toRat := by
  rw [Finite.toRat, Finite.toRat, div_lt_div_iff_of_pos_right unitsOfOne_pos, Int.cast_lt]
  simp [lt, compareBy, rank]

theorem eq_zero_iff : (finite x).eq .zero = true ↔ x.isZero = true := by
  rw [zero, eq_finite_iff, ← Finite.signedUnits_eq_zero_iff]
  rfl

theorem Finite.toRat_abs (x : Finite) : ({ x with negative := false } : Finite).toRat = |x.toRat| := by
  rw [Finite.abs_toRat]
  rfl

theorem toRat_sextillion : sextillion.toRat = 10 ^ 21 := by
  have hunits : sextillion.units = 10 ^ 21 * unitsOfOne := by decide +kernel
  have hsigned : sextillion.signedUnits = sextillion.units := rfl
  rw [Finite.toRat, div_eq_iff unitsOfOne_pos.ne', hsigned, hunits]
  push_cast
  rfl

/-- Numbers are shown without a power of ten in this range. -/
theorem isPlainlyShown_iff : (finite x).IsPlainlyShown ↔ x.showsAllPlaces := by
  rw [IsPlainlyShown, Finite.showsAllPlaces, eq_zero_iff, ofDecimal_millionth,
    show ofDecimal ⟨false, 1, 21⟩ = .finite sextillion by decide +kernel, abs, le_finite_iff, lt_finite_iff,
    x.toRat_abs, toRat_sextillion]

/-- The text of a number is a strict numeral if it has no power of ten. -/
theorem strictNumber?_display (x : Finite) :
    ((finite x).IsPlainlyShown →
      strictNumber? (String.ofList x.display) = some (.finite x.withoutZeroSign)) ∧
    (¬(finite x).IsPlainlyShown → strictNumber? (String.ofList x.display) = none) := by
  have hread : strictNumber? (String.ofList x.display) =
      if x.numeral.power = none then some (ofDecimal x.numeral.toDecimal) else none := by
    rw [strictNumber?, String.toList_ofList, x.ofText?_display]
    rfl
  rw [isPlainlyShown_iff, hread]
  refine ⟨fun h => ?_, fun h => ?_⟩
  · rw [if_pos (Finite.isPositional_numeral h).power, x.ofDecimal_numeral]
  · obtain ⟨p, -, hp⟩ := (Finite.isScientific_numeral h).power
    rw [if_neg (by rw [hp]; nofun)]

end Binary64

namespace Value

open Binary64 (IsPlainlyShown)

variable {role : CastRole}

theorem castTo_string_finite (x : Binary64.Finite) :
    (number (.finite x)).castTo .string role = .ok (string (String.ofList x.display)) := by
  rw [castTo_eq_convert rfl (by simp [type, sourcesOf])]
  rfl

/-- A text that is not the word `null` is a number if it is a strict numeral. -/
theorem castTo_number_string {s : String} (hs : s ≠ "null") :
    (string s).castTo .number role =
      (strictNumber? s).elim (.error (.unexpected (string s) .number)) fun x => .ok (number x) := by
  rw [castTo_eq_convert (isNullLike_string_eq_false_iff.mpr hs) (by simp [type, sourcesOf]), convert, toNumber?]
  cases strictNumber? s <;> rfl

theorem display_ne_null (x : Binary64.Finite) : String.ofList x.display ≠ "null" :=
  ne_null_of_isNormal (isNormal_display x)

/-- A finite number can be cast to a text. The text can be cast to the number again, to the zero without a sign
for either zero, if the number is zero or, without its sign, at least the number nearest to `10 ^ -6` and less
than `10 ^ 21`; the text of any other finite number is not the number that is expected. -/
theorem cast_string_cast_number (x : Binary64.Finite) (role role' : CastRole) :
    ∃ s, (number (.finite x)).cast (some .string) role = .ok (string s) ∧
      (IsPlainlyShown (.finite x) →
        (string s).cast (some .number) role' = .ok (number (.finite x.withoutZeroSign))) ∧
      (¬IsPlainlyShown (.finite x) →
        (string s).cast (some .number) role' = .error (.unexpected (string s) .number)) := by
  obtain ⟨hplain, hpower⟩ := Binary64.strictNumber?_display x
  refine ⟨String.ofList x.display, castTo_string_finite x, fun h => ?_, fun h => ?_⟩
  · rw [cast, castTo_number_string (display_ne_null x), hplain h]
    rfl
  · rw [cast, castTo_number_string (display_ne_null x), hpower h]
    rfl

end Value

end FormLang
