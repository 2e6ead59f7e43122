import FormLang.Proofs.Binary64.Significant

/-!
# Displayed numbers

What users see of a finite number is a numeral that reads back as the number (`display_reads_back`). It has
a power of ten below the number nearest to `10 ^ -6` and from `10 ^ 21` on: where the point of the shortest
digits stands tells whether a number is at least as large as what a power of ten rounds to
(`units_le_iff_lt_point`). The number nearest to `10 ^ -6` is itself less than `10 ^ -6`
(`display_millionth`).
-/

namespace FormLang.Binary64

open Numeral

/-! ## Where the point stands -/

variable {x b : Finite} {k : ℤ}

theorem coefficient_shortest (tie : Tie) (hx : x.isZero = false) : (x.shortest tie).coefficient ≠ 0 := by
  intro hc
  have h := ofDecimal_shortest tie x
  rw [ofDecimal, if_pos (.inl hc)] at h
  rw [← Binary64.finite.inj h] at hx
  exact absurd hx (by simp [Finite.isZero, Finite.zero])

/-- The point of a displayed number tells whether the number is at least the one that a power of ten rounds
to, if that one is itself displayed with the point of the power of ten. -/
theorem units_le_iff_lt_point (hb : ofDecimal ⟨false, 1, k⟩ = .finite b)
    (hp : ∀ negative, k < (({ b with negative } : Finite).significant .away).point)
    (hx : x.isZero = false) : b.units ≤ x.units ↔ k < (x.significant .away).point := by
  have hread := ofDecimal_shortest .away x
  have hpow : (⟨false, 1, k⟩ : Decimal).magnitude = 10 ^ k := by
    rw [Decimal.magnitude, Nat.cast_one, one_mul]
  constructor
  · intro hle
    by_contra hk
    -- The number is below the power of ten, so it rounds to no more than the power of ten does.
    have hlt := (Significant.lt_point_iff (coefficient_shortest .away hx) k).not.mp hk
    have hge := units_le_of_ofDecimal hread hb (by rw [hpow]; exact (not_le.mp hlt).le)
    rw [Finite.eq_of_units (le_antisymm hge hle)] at hk
    exact hk (hp x.negative)
  · intro hk
    refine units_le_of_ofDecimal hb hread ?_
    rw [hpow]
    exact (Significant.lt_point_iff (coefficient_shortest .away hx) k).mp hk

/-- The number nearest to `10 ^ -6`. It is a little less. -/
def millionth : Finite := ⟨false, 0x10C6F7A0B5ED8D, 1002, by decide, by decide, by decide⟩

/-- The number `10 ^ 21`. -/
def sextillion : Finite := ⟨false, 0x1B1AE4D6E2EF50, 1091, by decide, by decide, by decide⟩

theorem ofDecimal_millionth : ofDecimal ⟨false, 1, -6⟩ = .finite millionth := by decide +kernel

theorem isNearest_millionth : millionth.IsNearest (10 ^ (-6 : ℤ)) := by
  have h := isNearest_of_ofDecimal ofDecimal_millionth
  rwa [Decimal.toRat, if_neg (by decide), Decimal.magnitude, Nat.cast_one, one_mul] at h

theorem millionth_le_iff (hx : x.isZero = false) :
    millionth.toRat ≤ |x.toRat| ↔ -6 < (x.significant .away).point := by
  rw [← units_le_iff_lt_point ofDecimal_millionth (by decide +kernel) hx, Finite.abs_toRat, Finite.toRat,
    div_le_div_iff_of_pos_right unitsOfOne_pos]
  exact Nat.cast_le

theorem lt_sextillion_iff (hx : x.isZero = false) :
    |x.toRat| < 10 ^ 21 ↔ (x.significant .away).point ≤ 21 := by
  have hle := units_le_iff_lt_point (show ofDecimal ⟨false, 1, 21⟩ = .finite sextillion by decide +kernel)
    (by decide +kernel) hx
  have hunits : sextillion.units = 10 ^ 21 * unitsOfOne := by decide +kernel
  rw [← not_lt, ← hle, hunits, Finite.abs_toRat, div_lt_iff₀ unitsOfOne_pos, not_le]
  exact_mod_cast Iff.rfl

/-! ## Displayed numbers -/

/-- A number, or the zero without a sign for either zero. -/
def Finite.withoutZeroSign (x : Finite) : Finite := if x.isZero then .zero false else x

theorem Finite.toRat_of_isZero (hx : x.isZero = true) : x.toRat = 0 := by
  have hs : x.signedUnits = 0 := by
    rw [signedUnits, units, beq_iff_eq.mp hx, Nat.zero_mul]
    split <;> rfl
  rw [toRat, hs, Int.cast_zero, zero_div]

theorem Finite.toRat_withoutZeroSign (x : Finite) : x.withoutZeroSign.toRat = x.toRat := by
  unfold withoutZeroSign
  split
  · rename_i hx
    rw [toRat_of_isZero hx]
    exact toRat_of_isZero rfl
  · rfl

/-- Whether a number is displayed without a power of ten. -/
def Finite.showsAllPlaces (x : Finite) : Prop :=
  x.isZero ∨ millionth.toRat ≤ |x.toRat| ∧ |x.toRat| < 10 ^ 21

/-- The numeral that is displayed for a number. -/
def Finite.numeral (x : Finite) : Numeral :=
  if x.isZero then ⟨false, ['0'], none, none⟩
  else if -6 < (x.significant .away).point ∧ (x.significant .away).point ≤ 21 then
    (x.significant .away).positionalNumeral x.negative
  else (x.significant .away).scientificNumeral x.negative

theorem Finite.display_of_isZero (hx : x.isZero = true) : x.display = ['0'] := by
  rw [display, Layout.chars, if_pos hx, Layout.forUsers, Bool.and_false]
  rfl

theorem Finite.display_of_ne (hx : ¬ x.isZero = true) :
    x.display = signText x.negative ++
      if -6 < (x.significant .away).point ∧ (x.significant .away).point ≤ 21 then
        (x.significant .away).positional
      else (x.significant .away).scientific := by
  have hend (s : Significant) : (if s.hasFraction then [] else Layout.forUsers.wholeEnd) = [] := by
    split <;> rfl
  rw [display, Layout.chars, if_neg hx]
  dsimp only
  rw [hend, List.append_nil]
  rfl

theorem Finite.display_eq_chars (x : Finite) : x.display = x.numeral.chars := by
  unfold numeral
  split
  case isTrue hx => exact display_of_isZero hx
  case isFalse hx =>
    rw [display_of_ne hx]
    split
    · rw [Significant.chars_positionalNumeral]
    · rw [Significant.chars_scientificNumeral]

theorem Finite.isProper_significant (tie : Tie) (hx : x.isZero = false) : (x.significant tie).IsProper :=
  Significant.isProper_ofDecimal (coefficient_shortest tie hx)

theorem Finite.isPositional_numeral (h : x.showsAllPlaces) : x.numeral.IsPositional := by
  unfold numeral
  split
  case isTrue hx =>
    exact ⟨⟨isDigits_zero, nofun⟩, rfl, nofun, rfl⟩
  case isFalse hx =>
    obtain ⟨hlow, hhigh⟩ := h.resolve_left hx
    rw [Bool.not_eq_true] at hx
    rw [millionth_le_iff hx] at hlow
    rw [lt_sextillion_iff hx] at hhigh
    rw [if_pos ⟨hlow, hhigh⟩]
    exact Significant.isPositional_positionalNumeral _ (isProper_significant _ hx)

theorem Finite.isScientific_numeral (h : ¬ x.showsAllPlaces) : x.numeral.IsScientific := by
  rw [showsAllPlaces, not_or, Bool.not_eq_true] at h
  obtain ⟨hx, hp⟩ := h
  rw [millionth_le_iff hx, lt_sextillion_iff hx] at hp
  unfold numeral
  rw [if_neg (by rw [hx]; decide), if_neg hp]
  exact Significant.isScientific_scientificNumeral _ (isProper_significant _ hx) (by omega)

/-- The numeral of a number other than zero denotes what the number's shortest digits denote. -/
theorem Finite.toDecimal_numeral (hx : x.isZero = false) :
    x.numeral.toDecimal.negative = (x.shortest .away).negative ∧
      x.numeral.toDecimal.magnitude = (x.shortest .away).magnitude := by
  have hs := isProper_significant .away hx
  rw [numeral, if_neg (by rw [hx]; decide), negative_shortest]
  unfold significant at hs ⊢
  split
  · rw [negative_toDecimal, Significant.negative_positionalNumeral, Significant.magnitude_positionalNumeral,
      Significant.magnitude_ofDecimal]
    exact ⟨rfl, rfl⟩
  · rw [negative_toDecimal, Significant.negative_scientificNumeral, Significant.magnitude_scientificNumeral _ hs,
      Significant.magnitude_ofDecimal]
    exact ⟨rfl, rfl⟩

theorem Finite.ofDecimal_numeral (x : Finite) :
    ofDecimal x.numeral.toDecimal = .finite x.withoutZeroSign := by
  unfold withoutZeroSign
  split
  case isTrue hx =>
    rw [numeral, if_pos hx]
    rfl
  case isFalse hx =>
    obtain ⟨hneg, hmagnitude⟩ := toDecimal_numeral (Bool.eq_false_iff.mpr hx)
    rw [ofDecimal_congr hneg hmagnitude, ofDecimal_shortest]

theorem Finite.isWellFormed_numeral (x : Finite) : x.numeral.IsWellFormed := by
  by_cases h : x.showsAllPlaces
  · exact (isPositional_numeral h).toIsWellFormed
  · exact (isScientific_numeral h).toIsWellFormed

theorem Finite.ofText?_display (x : Finite) : ofText? x.display = some x.numeral := by
  rw [x.display_eq_chars, ofText?_chars x.isWellFormed_numeral]

/-- What is displayed for a finite number starts with a minus sign or a digit. -/
theorem Finite.exists_display (x : Finite) :
    ∃ c cs, x.display = c :: cs ∧ (c = '-' ∨ c.isDigit = true) := by
  rw [x.display_eq_chars]
  exact exists_chars (isWellFormed_numeral x)

/-- What is displayed for a finite number is a numeral that reads back as the number, zero without its sign.
It has no power of ten if the number is zero or from the number nearest to `10 ^ -6` up to, but not
including, `10 ^ 21`, and one digit before the point and a power of ten otherwise. Numbers that are displayed
alike have the same value. -/
theorem display_reads_back (x : Finite) :
    millionth.IsNearest (10 ^ (-6 : ℤ)) ∧ ∃ n : Numeral, x.display = n.chars ∧ ofText? x.display = some n ∧
      ofDecimal n.toDecimal = .finite x.withoutZeroSign ∧
      x.withoutZeroSign.toRat = x.toRat ∧ x.withoutZeroSign.IsNearest n.toDecimal.toRat ∧
      (n.IsPositional ↔ x.showsAllPlaces) ∧ (n.IsScientific ↔ ¬ x.showsAllPlaces) ∧
      ∀ y : Finite, y.display = x.display → y.toRat = x.toRat := by
  refine ⟨isNearest_millionth, x.numeral, x.display_eq_chars, x.ofText?_display, x.ofDecimal_numeral,
    x.toRat_withoutZeroSign, isNearest_of_ofDecimal x.ofDecimal_numeral, ?_, ?_, fun y hy => ?_⟩
  · refine ⟨fun hn => ?_, Finite.isPositional_numeral⟩
    by_contra h
    exact hn.not_isScientific (Finite.isScientific_numeral h)
  · exact ⟨fun hn h => (Finite.isPositional_numeral h).not_isScientific hn, Finite.isScientific_numeral⟩
  · have hn : y.numeral = x.numeral := by
      have h := y.ofText?_display
      rw [hy, x.ofText?_display] at h
      exact (Option.some.inj h).symm
    have hz := y.ofDecimal_numeral
    rw [hn, x.ofDecimal_numeral] at hz
    rw [← y.toRat_withoutZeroSign, ← Binary64.finite.inj hz, x.toRat_withoutZeroSign]

/-- The number nearest to `10 ^ -6` is less than `10 ^ -6`, and is still displayed without a power of
ten. -/
theorem display_millionth :
    ¬ (millionth.isZero ∨ 10 ^ (-6 : ℤ) ≤ |millionth.toRat| ∧ |millionth.toRat| < 10 ^ 21) ∧
      millionth.display = "0.000001".toList ∧
      ∃ n, ofText? millionth.display = some n ∧ n.IsPositional := by
  have hlt : |millionth.toRat| < 10 ^ (-6 : ℤ) := by
    have hunits : millionth.units * 10 ^ 6 < unitsOfOne := by decide +kernel
    rw [Finite.abs_toRat, div_lt_iff₀ unitsOfOne_pos, zpow_neg, zpow_ofNat, lt_inv_mul_iff₀ (by norm_num),
      mul_comm]
    generalize millionth.units = units, unitsOfOne = one at hunits ⊢
    exact_mod_cast hunits
  refine ⟨?_, by decide +kernel, millionth.numeral, millionth.ofText?_display, ?_⟩
  · rintro (hzero | ⟨hle, -⟩)
    · exact absurd hzero (by decide)
    · exact absurd hle (not_le.mpr hlt)
  · refine Finite.isPositional_numeral (.inr ⟨?_, ?_⟩)
    · exact le_abs_self _
    · exact hlt.trans (by norm_num)

end FormLang.Binary64
