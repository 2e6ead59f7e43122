import FormLang.Proofs.Binary64.Fixed

/-!
# Reading numerals with a fixed number of places

A number's numeral with a fixed number of places does in general not read as the number, but as one with the same
numeral, so that rounding again changes nothing:

* `Finite.IsNearestTo`: what a decimal number reads as is nearest to it (`isNearestTo_of_ofDecimal`);
* `Finite.inPlaces_of_isNearestTo`: the number nearest to a numeral is no farther from it than the number that it
  was written for. It could only be as far, half a unit of the last place, on the other side. But two numbers do
  not differ by a unit of the last place (`Finite.abs_ne_add_unit`), and without places the numeral is a whole
  number and reads as itself (`Finite.abs_ne_add_half`);
* `exists_finite_of_isPlaced`: what the numeral of a number reads as.
-/

namespace FormLang.Binary64

variable {places n : ℕ} {d : Decimal} {q : ℚ} {x y z : Finite}

namespace Finite

/-! ## Distances from zero -/

theorem toRat_eq_abs (y : Finite) : y.toRat = if y.negative then -|y.toRat| else |y.toRat| := by
  rw [abs_toRat, toRat, signedUnits]
  split
  · rw [Int.cast_neg, neg_div, Int.cast_natCast]
  · rw [Int.cast_natCast]

theorem toRat_neg_iff_negative (y : Finite) : y.toRat < 0 ↔ y.negative = true ∧ y.toRat ≠ 0 := by
  rw [toRat_neg_iff, Bool.and_eq_true, Bool.not_eq_true', ne_eq, toRat_eq_zero_iff, Bool.not_eq_true]

/-- No number's distance from zero is nearer to a value. -/
def IsNearestTo (z : Finite) (q : ℚ) : Prop := ∀ y : Finite, |q - (|z.toRat|)| ≤ |q - (|y.toRat|)|

/-- A decimal number reads as the number whose distance from zero is nearest to its own. -/
theorem isNearestTo_of_ofDecimal (h : ofDecimal d = .finite z) : z.IsNearestTo d.magnitude := by
  have hside (w : Finite) (hw : w.negative = d.negative) :
      |d.toRat - w.toRat| = |d.magnitude - (|w.toRat|)| := by
    rw [Decimal.toRat, w.toRat_eq_abs, hw]
    split
    · rw [← abs_neg, neg_sub', neg_neg, abs_neg, abs_abs, neg_neg]
    · rw [abs_abs]
  intro y
  have hy : |({ y with negative := d.negative } : Finite).toRat| = |y.toRat| := by
    rw [abs_toRat, abs_toRat]
    rfl
  have hz := (isNearest_of_ofDecimal h).nearest { y with negative := d.negative }
  rwa [hside z (negative_of_ofDecimal h), hside _ rfl, hy] at hz

/-- Nothing else is nearest to the distance of a number from zero. -/
theorem IsNearestTo.abs_eq (h : z.IsNearestTo q) (hy : |y.toRat| = q) : |z.toRat| = q := by
  have hle := h y
  rw [hy, sub_self, abs_zero, abs_nonpos_iff, sub_eq_zero] at hle
  exact hle.symm

/-! ## Whole numbers -/

/-- A number with 53 bits or more before the point has no fraction. -/
theorem exists_whole (x : Finite) (h : 2 ^ 53 ≤ |x.toRat|) : ∃ k : ℕ, |x.toRat| = k := by
  obtain ⟨w, hw⟩ := unitsOfOne_eq_pow
  have hU := unitsOfOne_pos
  rw [abs_toRat, le_div_iff₀ hU] at h
  have h' : 2 ^ 53 * 2 ^ w ≤ x.significand * 2 ^ x.exponent := by
    rw [hw] at h
    exact_mod_cast h
  have hexp : w ≤ x.exponent := by
    by_contra! hlt
    have hpow : 2 ^ x.exponent ≤ 2 ^ w := Nat.pow_le_pow_right (by decide) hlt.le
    have := Nat.mul_lt_mul_of_lt_of_le x.significand_lt hpow (by positivity)
    omega
  obtain ⟨e, he⟩ := Nat.exists_eq_add_of_le hexp
  refine ⟨x.significand * 2 ^ e, ?_⟩
  have hunits : x.units = x.significand * 2 ^ e * unitsOfOne := by
    rw [units, he, hw, pow_add]
    ring
  rw [abs_toRat, hunits, Nat.cast_mul, mul_div_cancel_right₀ _ hU.ne']

theorem exponentFor_mul_pow_le (hn : n < 2 ^ 53) (w : ℕ) : exponentFor (n * 2 ^ w) ≤ w := by
  rw [exponentFor]
  rcases Nat.eq_zero_or_pos n with rfl | hpos
  · simp
  · have hlt : n * 2 ^ w < 2 ^ (53 + w) := by
      rw [pow_add]
      exact Nat.mul_lt_mul_of_pos_right hn (by positivity)
    have := (Nat.log2_lt (Nat.mul_pos hpos (Nat.pow_pos (by decide))).ne').mpr hlt
    omega

/-- A whole number below `2 ^ 53` is exact. -/
theorem exists_of_whole (hn : n < 2 ^ 53) : ∃ y : Finite, |y.toRat| = n := by
  have hfinite : (ofUnits false (n * unitsOfOne) 1).isFinite = true := by
    refine isFinite_ofUnits _ ?_
    rw [Nat.div_one]
    exact (Nat.mul_le_mul_right unitsOfOne hn.le).trans_lt (by decide +kernel)
  obtain ⟨y, hy⟩ := exists_of_isFinite hfinite
  obtain ⟨w, hw⟩ := unitsOfOne_eq_pow
  have hexp := exponentFor_mul_pow_le hn w
  obtain ⟨-, hunits, -⟩ := eq_of_assemble hy
  rw [Nat.div_one, one_mul, hw] at hunits
  generalize exponentFor (n * 2 ^ w) = e at hexp hunits
  obtain ⟨k, rfl⟩ := Nat.exists_eq_add_of_le hexp
  have hsplit : n * 2 ^ (e + k) = n * 2 ^ k * 2 ^ e := by
    rw [pow_add]
    ring
  refine ⟨y, ?_⟩
  rw [hsplit, roundHalfEven_mul_right _ (by positivity), ← hsplit, ← hw] at hunits
  rw [abs_toRat, hunits, Nat.cast_mul, mul_div_cancel_right₀ _ unitsOfOne_pos.ne']

/-! ## Rounding again -/

/-- The count of units of the last place is known from its bounds. -/
theorem inPlaces_eq (hlow : n ≤ |x.toRat| * 10 ^ places + 1 / 2)
    (hhigh : |x.toRat| * 10 ^ places + 1 / 2 < n + 1) : x.inPlaces places = n := by
  obtain ⟨hlow', hhigh'⟩ := x.inPlaces_bounds places
  have hle : (n : ℚ) < x.inPlaces places + 1 := hlow.trans_lt hhigh'
  have hge : (x.inPlaces places : ℚ) < n + 1 := hlow'.trans_lt hhigh
  have hle' : n < x.inPlaces places + 1 := by exact_mod_cast hle
  have hge' : x.inPlaces places < n + 1 := by exact_mod_cast hge
  omega

theorem abs_inPlaces_sub_le (x : Finite) (places : ℕ) :
    |x.inPlaces places - (|x.toRat|) * 10 ^ places| ≤ 1 / 2 := by
  obtain ⟨hlow, hhigh⟩ := x.inPlaces_bounds places
  rw [abs_le]
  constructor <;> linarith

theorem abs_sub_mul_pow (n : ℕ) (y : Finite) (places : ℕ) :
    |n / 10 ^ places - (|y.toRat|)| * 10 ^ places = |n - (|y.toRat|) * 10 ^ places| := by
  have hpos : (0 : ℚ) < 10 ^ places := by positivity
  rw [← abs_of_pos hpos, ← abs_mul, abs_of_pos hpos, sub_mul, div_mul_cancel₀ _ hpos.ne']

/-- Two numbers do not differ by a unit of the last place, which is no sum of powers of two. -/
theorem abs_ne_add_unit (hp : 0 < places) (x z : Finite) :
    |z.toRat| * 10 ^ places ≠ |x.toRat| * 10 ^ places + 1 := by
  intro h
  have hU := unitsOfOne_pos
  have hdiff : (z.units * 10 ^ places : ℚ) = x.units * 10 ^ places + unitsOfOne := by
    rw [abs_toRat, abs_toRat] at h
    field_simp at h
    linarith
  have hdiff' : z.units * 10 ^ places = x.units * 10 ^ places + unitsOfOne := by exact_mod_cast hdiff
  have hten : 5 ∣ 10 ^ places := dvd_pow (by decide) hp.ne'
  have hfive : 5 ∣ unitsOfOne :=
    (Nat.dvd_add_right (Dvd.dvd.mul_left hten x.units)).mp (hdiff' ▸ Dvd.dvd.mul_left hten z.units)
  exact absurd hfive (by decide +kernel)

/-- What is nearest to a whole number is not half a unit above it. -/
theorem abs_ne_add_half (hz : z.IsNearestTo n) : |z.toRat| ≠ n + 1 / 2 := by
  intro h
  have hlt : |z.toRat| < 2 ^ 53 := by
    by_contra! hge
    obtain ⟨k, hk⟩ := z.exists_whole hge
    have hodd : ((2 * k : ℕ) : ℚ) = (2 * n + 1 : ℕ) := by
      push_cast
      linarith
    have hodd' : 2 * k = 2 * n + 1 := by exact_mod_cast hodd
    omega
  have hn : (n : ℚ) < 2 ^ 53 := by linarith
  obtain ⟨y, hy⟩ := exists_of_whole (n := n) (by exact_mod_cast hn)
  linarith [hz.abs_eq hy]

/-- The number nearest to the numeral of a number has the same numeral. -/
theorem inPlaces_of_isNearestTo (hz : z.IsNearestTo (x.inPlaces places / 10 ^ places)) :
    z.inPlaces places = x.inPlaces places := by
  have hhalf := x.abs_inPlaces_sub_le places
  have hhigh := (x.inPlaces_bounds places).2
  generalize x.inPlaces places = n at hz hhalf hhigh
  have hcloser : |(n : ℚ) - (|z.toRat|) * 10 ^ places| ≤ |n - (|x.toRat|) * 10 ^ places| := by
    rw [← abs_sub_mul_pow, ← abs_sub_mul_pow]
    exact mul_le_mul_of_nonneg_right (hz x) (by positivity)
  obtain ⟨hlow', hhigh'⟩ := abs_le.mp (hcloser.trans hhalf)
  refine inPlaces_eq (by linarith) ?_
  by_contra! hge
  have habove : |z.toRat| * 10 ^ places = n + 1 / 2 := by linarith
  rcases Nat.eq_zero_or_pos places with rfl | hp
  · rw [pow_zero, div_one] at hz
    rw [pow_zero, mul_one] at habove
    exact abs_ne_add_half hz habove
  · -- The number lies half a unit above the numeral, so that the one rounded before lies half a unit below.
    rw [habove, abs_of_neg (by linarith)] at hcloser
    refine abs_ne_add_unit hp x z ?_
    rcases abs_cases ((n : ℚ) - (|x.toRat|) * 10 ^ places) with ⟨h, -⟩ | ⟨h, -⟩
    · linarith
    · linarith

/-- The number nearest to the numeral of a number below `10 ^ 21` is below `10 ^ 21` as well. -/
theorem lt_of_isNearestTo (hx : |x.toRat| < 10 ^ 21) (hz : z.IsNearestTo (x.inPlaces places / 10 ^ places)) :
    |z.toRat| < 10 ^ 21 := by
  have hpos : (0 : ℚ) < 10 ^ places := by positivity
  rcases lt_or_ge (|x.toRat|) (2 ^ 53) with hsmall | hlarge
  · have hhalf := x.abs_inPlaces_sub_le places
    rw [← abs_sub_mul_pow] at hhalf
    have hclose := (le_mul_of_one_le_right (abs_nonneg _) (one_le_pow₀ (by norm_num))).trans hhalf
    have hlow := (abs_le.mp ((hz x).trans hclose)).1
    have hhigh := (abs_le.mp hclose).2
    linarith [show ((2 : ℚ) ^ 53 + 1) < 10 ^ 21 by norm_num]
  · obtain ⟨k, hk⟩ := x.exists_whole hlarge
    have hn : x.inPlaces places = k * 10 ^ places := by
      refine inPlaces_eq ?_ ?_
      · rw [hk]
        push_cast
        linarith
      · rw [hk]
        push_cast
        linarith
    have hexact : |x.toRat| = x.inPlaces places / 10 ^ places := by
      rw [hk, hn, eq_div_iff hpos.ne']
      push_cast
      ring
    rwa [hz.abs_eq hexact, ← hexact]

theorem inPlaces_le (hx : |x.toRat| < 10 ^ 21) (places : ℕ) : x.inPlaces places ≤ 10 ^ 21 * 10 ^ places := by
  have hpos : (0 : ℚ) < 10 ^ places := by positivity
  have hlt : (x.inPlaces places : ℚ) < 10 ^ 21 * 10 ^ places + 1 := by
    linarith [(x.inPlaces_bounds places).1, mul_lt_mul_of_pos_right hx hpos]
  have hlt' : x.inPlaces places < 10 ^ 21 * 10 ^ places + 1 := by exact_mod_cast hlt
  omega

end Finite

/-! ## Numerals -/

theorem toDecimal_of_isPlaced {m : Numeral} (hm : m.IsPlaced places n) :
    m.toDecimal = ⟨m.negative, n, -places⟩ := by
  rw [Numeral.toDecimal, hm.value, hm.length_fraction, hm.power, Option.getD_none, zero_sub]

theorem magnitude_of_isPlaced {m : Numeral} (hm : m.IsPlaced places n) :
    m.toDecimal.magnitude = n / 10 ^ places := by
  rw [toDecimal_of_isPlaced hm, Decimal.magnitude, zpow_neg, zpow_natCast, div_eq_mul_inv]

theorem isFinite_of_isPlaced {m : Numeral} (hm : m.IsPlaced places n) (hn : n ≤ 10 ^ 21 * 10 ^ places) :
    (ofDecimal m.toDecimal).isFinite = true := by
  have hnum : m.toDecimal.num = n * unitsOfOne := by
    rw [Decimal.num, toDecimal_of_isPlaced hm, Int.toNat_neg_natCast, pow_zero, mul_one]
  have hden : m.toDecimal.den = 10 ^ places := by
    rw [Decimal.den, toDecimal_of_isPlaced hm, neg_neg, Int.toNat_natCast]
  have hle : m.toDecimal.num / m.toDecimal.den ≤ 10 ^ 21 * unitsOfOne := by
    refine Nat.div_le_of_le_mul ?_
    rw [hnum, hden, ← mul_assoc, mul_comm (10 ^ places)]
    exact Nat.mul_le_mul_right _ hn
  rw [ofDecimal_eq_ofUnits]
  exact isFinite_ofUnits _ (hle.trans_lt (by decide +kernel))

/-- The numeral of a number reads as a number with the same numeral, which is zero if the numeral is. -/
theorem exists_finite_of_isPlaced {m : Numeral} (hx : |x.toRat| < 10 ^ 21)
    (hm : m.IsPlaced places (x.inPlaces places)) :
    ∃ z : Finite, ofDecimal m.toDecimal = .finite z ∧ z.negative = m.negative ∧ |z.toRat| < 10 ^ 21 ∧
      z.inPlaces places = x.inPlaces places ∧ (z.toRat = 0 ↔ x.inPlaces places = 0) := by
  obtain ⟨z, hz⟩ := exists_of_isFinite (isFinite_of_isPlaced hm (Finite.inPlaces_le hx places))
  have hnear := Finite.isNearestTo_of_ofDecimal hz
  rw [magnitude_of_isPlaced hm] at hnear
  have hsame := Finite.inPlaces_of_isNearestTo hnear
  refine ⟨z, hz, negative_of_ofDecimal hz, Finite.lt_of_isNearestTo hx hnear, hsame, fun h => ?_, fun h => ?_⟩
  · rw [← hsame]
    refine Finite.inPlaces_eq ?_ ?_
    · rw [h]
      norm_num
    · rw [h]
      norm_num
  · rw [h, Nat.cast_zero, zero_div] at hnear
    have hzero : |(Finite.zero false).toRat| = 0 := by rw [Finite.toRat_of_isZero rfl, abs_zero]
    exact abs_eq_zero.mp (hnear.abs_eq hzero)

end FormLang.Binary64
