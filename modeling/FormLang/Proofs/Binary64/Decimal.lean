import Mathlib.Algebra.Order.Field.Power
import FormLang.Binary64.Shortest
import FormLang.Proofs.Binary64.Rounding

/-!
# Reading decimal numbers

The values of floating-point and decimal numbers as rational numbers, and what it means that one rounds
to the other (`Finite.IsNearest`):

* `ofDecimal_eq_ofUnits`: a decimal number is rounded as a quotient of units, however far its power of
  ten is out of range;
* `isNearest_of_ofDecimal`: what it rounds to is the nearest finite number;
* `ofDecimal_congr`: equal decimal numbers round alike, however they are written;
* `units_le_of_ofDecimal`: a greater decimal number rounds to no smaller one;
* `ofDecimal_shortest`: the shortest decimal number of a finite number rounds to it.
-/

namespace FormLang

/-! ## Values -/

/-- The distance of a decimal number from zero. -/
def Decimal.magnitude (d : Decimal) : ℚ := d.coefficient * 10 ^ d.exponent

/-- The value of a decimal number. -/
def Decimal.toRat (d : Decimal) : ℚ := if d.negative then -d.magnitude else d.magnitude

namespace Binary64

/-- The value of a finite number. -/
def Finite.toRat (x : Finite) : ℚ := x.signedUnits / unitsOfOne

/-- A number is nearest to a value: the value is too small to overflow, no finite number is nearer to
it, and if another one is equally near, the significand is even. -/
structure Finite.IsNearest (x : Finite) (q : ℚ) : Prop where
  lt_overflow : |q| < 2 ^ 1024 - 2 ^ 970
  nearest : ∀ y : Finite, |q - x.toRat| ≤ |q - y.toRat|
  even : ∀ y : Finite, |q - y.toRat| = |q - x.toRat| → y.toRat ≠ x.toRat → x.significand % 2 = 0

/-! ## Decimal numbers as quotients of units -/

theorem ofUnits_eq_zero {num den : ℕ} (negative : Bool) (h : 2 * num < den) :
    ofUnits negative num den = .finite (.zero negative) := by
  have hq : num / den = 0 := Nat.div_eq_of_lt (by omega)
  have he : exponentFor 0 = 0 := by decide
  rw [ofUnits, hq, he, pow_zero, mul_one, roundHalfEven, Nat.mod_eq_of_lt (by omega), if_pos h, hq]
  exact assemble_self (.zero negative)

theorem ofUnits_eq_infinite {num den : ℕ} (negative : Bool) (h : 2 ^ 2098 ≤ num / den) :
    ofUnits negative num den = .infinite negative := by
  have hn : num / den ≠ 0 := (lt_of_lt_of_le (by positivity) h).ne'
  have he : 2045 < exponentFor (num / den) := by
    have := (Nat.le_log2 hn).mpr h
    rw [exponentFor]
    omega
  rw [ofUnits, assemble, dif_neg (by omega), dif_neg (by omega)]

end Binary64

namespace Decimal

/-- The numerator of a decimal number counted in units. -/
def num (d : Decimal) : ℕ := d.coefficient * 10 ^ d.exponent.toNat * Binary64.unitsOfOne

/-- The denominator of a decimal number counted in units. -/
def den (d : Decimal) : ℕ := 10 ^ (-d.exponent).toNat

theorem den_pos (d : Decimal) : 0 < d.den := by
  rw [den]
  positivity

theorem magnitude_nonneg (d : Decimal) : 0 ≤ d.magnitude := by
  rw [magnitude]
  positivity

theorem abs_toRat (d : Decimal) : |d.toRat| = d.magnitude := by
  rw [toRat]
  split
  · rw [abs_neg, abs_of_nonneg d.magnitude_nonneg]
  · rw [abs_of_nonneg d.magnitude_nonneg]

theorem num_div_den (d : Decimal) :
    (d.num : ℚ) / d.den = d.magnitude * Binary64.unitsOfOne := by
  have hp : (10 : ℚ) ^ d.exponent.toNat / 10 ^ (-d.exponent).toNat = 10 ^ d.exponent := by
    rw [← zpow_natCast, ← zpow_natCast, ← zpow_sub₀ (by norm_num)]
    congr 1
    omega
  rw [num, den, magnitude, ← hp]
  push_cast
  ring

end Decimal

namespace Binary64

theorem lt_pow_digitCount (n : ℕ) : n < 10 ^ digitCount n :=
  (Nat.length_toDigits_le_iff (by decide) Nat.length_toDigits_pos).mp le_rfl

theorem cast_unitsOfOne : (unitsOfOne : ℚ) = 2 ^ 1074 := by
  unfold unitsOfOne
  generalize 1074 = n
  rw [Nat.cast_pow, Nat.cast_ofNat]

theorem unitsOfOne_pos : (0 : ℚ) < unitsOfOne := by
  rw [cast_unitsOfOne]
  positivity

/-- A decimal number is rounded as a quotient of units. -/
theorem ofDecimal_eq_ofUnits (d : Decimal) :
    ofDecimal d = ofUnits d.negative d.num d.den := by
  unfold ofDecimal
  split
  · rename_i h
    rw [ofUnits_eq_zero]
    rcases h with h | h
    · rw [Decimal.num, h, zero_mul, zero_mul, mul_zero]
      exact d.den_pos
    · have hc := lt_pow_digitCount d.coefficient
      have he : d.exponent.toNat = 0 := by omega
      have hdigits : digitCount d.coefficient + 324 ≤ (-d.exponent).toNat := by omega
      have hu : 2 * unitsOfOne ≤ 10 ^ 324 := by decide +kernel
      rw [Decimal.num, Decimal.den, he, pow_zero, mul_one]
      calc 2 * (d.coefficient * unitsOfOne) = d.coefficient * (2 * unitsOfOne) := by ring
        _ < 10 ^ digitCount d.coefficient * (2 * unitsOfOne) :=
          Nat.mul_lt_mul_of_pos_right hc (by decide +kernel)
        _ ≤ 10 ^ digitCount d.coefficient * 10 ^ 324 := Nat.mul_le_mul_left _ hu
        _ ≤ 10 ^ (-d.exponent).toNat := by
          rw [← pow_add]
          exact Nat.pow_le_pow_right (by decide) hdigits
  · rename_i h
    split
    · rename_i he
      rw [ofUnits_eq_infinite]
      have hd : (-d.exponent).toNat = 0 := by omega
      have hc : 0 < d.coefficient := by omega
      have he' : 309 ≤ d.exponent.toNat := by omega
      have hu : 2 ^ 2098 ≤ 10 ^ 309 * unitsOfOne := by decide +kernel
      rw [Decimal.num, Decimal.den, hd, pow_zero, Nat.div_one]
      have hp := pow_le_pow_right₀ (show 1 ≤ 10 by decide) he'
      exact hu.trans (Nat.mul_le_mul_right _ (hp.trans (Nat.le_mul_of_pos_left _ hc)))
    · split
      · rename_i he
        have hd : (-d.exponent).toNat = 0 := by omega
        rw [Decimal.num, Decimal.den, hd, pow_zero]
      · rename_i he
        have hd : d.exponent.toNat = 0 := by omega
        rw [Decimal.num, Decimal.den, hd, pow_zero, mul_one]

variable {d d' : Decimal} {x y : Finite}

/-- Equal decimal numbers round alike, however they are written. -/
theorem ofDecimal_congr (hs : d.negative = d'.negative) (h : d.magnitude = d'.magnitude) :
    ofDecimal d = ofDecimal d' := by
  have hq : (d.num : ℚ) / d.den = d'.num / d'.den := by rw [d.num_div_den, d'.num_div_den, h]
  rw [div_eq_div_iff (by exact_mod_cast d.den_pos.ne') (by exact_mod_cast d'.den_pos.ne')] at hq
  rw [ofDecimal_eq_ofUnits, ofDecimal_eq_ofUnits, hs,
    ofUnits_congr d.den_pos d'.den_pos (by exact_mod_cast hq)]

/-- A decimal number with the value of a finite number rounds to it. -/
theorem ofDecimal_of_magnitude (hs : d.negative = x.negative)
    (h : d.magnitude * unitsOfOne = x.units) : ofDecimal d = .finite x := by
  have hq : (d.num : ℚ) = x.units * d.den := by
    rw [← h, ← d.num_div_den, div_mul_cancel₀ _ (by exact_mod_cast d.den_pos.ne')]
  have hn : d.num = x.units * d.den := by exact_mod_cast hq
  rw [ofDecimal_eq_ofUnits, hs, hn, ofUnits_units d.den_pos]

theorem negative_of_ofDecimal (h : ofDecimal d = .finite x) : x.negative = d.negative := by
  rw [ofDecimal_eq_ofUnits] at h
  exact (eq_of_assemble h).1

/-- A greater decimal number rounds to no smaller one. -/
theorem units_le_of_ofDecimal (h : ofDecimal d = .finite x) (h' : ofDecimal d' = .finite y)
    (hle : d.magnitude ≤ d'.magnitude) : x.units ≤ y.units := by
  rw [ofDecimal_eq_ofUnits] at h h'
  refine units_le_of_ofUnits d.den_pos d'.den_pos h h' ?_
  rw [d.num_div_den, d'.num_div_den]
  exact mul_le_mul_of_nonneg_right hle (by positivity)

theorem Finite.abs_toRat (x : Finite) : |x.toRat| = x.units / unitsOfOne := by
  rw [toRat, abs_div, abs_of_pos unitsOfOne_pos, signedUnits]
  split
  · rw [Int.cast_neg, abs_neg, Int.cast_natCast, Nat.abs_cast]
  · rw [Int.cast_natCast, Nat.abs_cast]

/-! ## The nearest number -/

theorem exponent_of_assemble {negative : Bool} {significand exponent : ℕ}
    (h : assemble negative significand exponent = .finite x) :
    exponent ≤ 2045 ∧ (exponent = 2045 → significand < 2 ^ 53) := by
  unfold assemble at h
  split at h
  · rename_i hs
    exact ⟨hs.2.1, fun _ => hs.1⟩
  · split at h
    · rename_i hs
      exact ⟨hs.2.le, fun he => absurd he hs.2.ne⟩
    · cases h

/-- The middle between the largest finite number and the power of two above it, counted in units. -/
theorem overflow_mul_unitsOfOne :
    ((2 : ℚ) ^ 1024 - 2 ^ 970) * unitsOfOne = (2 ^ 54 - 1) * 2 ^ 2044 := by
  have h1024 : (2 : ℚ) ^ 1024 = 2 ^ 54 * 2 ^ 970 := by rw [← pow_add]
  have h2044 : (2 : ℚ) ^ 2044 = 2 ^ 970 * 2 ^ 1074 := by rw [← pow_add]
  rw [cast_unitsOfOne, h1024, h2044, sub_mul, sub_mul, one_mul, mul_assoc]

/-- A quotient that rounds to a finite number is less than the middle between the largest finite number
and the power of two above it. -/
theorem lt_of_ofUnits {negative : Bool} {num den : ℕ} (hd : 0 < den)
    (h : ofUnits negative num den = .finite x) :
    (num : ℚ) / den < (2 ^ 1024 - 2 ^ 970) * unitsOfOne := by
  obtain ⟨he, hlast⟩ := exponent_of_assemble h
  obtain ⟨hlt, -⟩ := exponentFor_spec (num / den)
  generalize exponentFor (num / den) = e at he hlast hlt
  have hpos : (0 : ℚ) < 2 ^ 2044 := by positivity
  rw [overflow_mul_unitsOfOne]
  rcases he.lt_or_eq with he | he
  · have hn : num < 2 ^ 53 * 2 ^ e * den := by
      rw [← Nat.div_lt_iff_lt_mul hd, ← Nat.div_lt_iff_lt_mul (by positivity)]
      exact hlt
    have hn' : (num : ℚ) / den < 2 ^ 53 * 2 ^ e := by
      rw [div_lt_iff₀ (by exact_mod_cast hd)]
      exact_mod_cast hn
    have hle : (2 : ℚ) ^ e ≤ 2 ^ 2044 := pow_le_pow_right₀ (by norm_num) (by omega)
    generalize (2 : ℚ) ^ 2044 = B at hle hpos ⊢
    linarith
  · obtain ⟨hclose, htie⟩ := roundHalfEven_spec num (show 0 < den * 2 ^ e by positivity)
    have hr := hlast he
    generalize roundHalfEven num (den * 2 ^ e) = r at hclose htie hr
    have hq : (num : ℚ) / (den * 2 ^ e : ℕ) = num / den / (2 * 2 ^ 2044) := by
      rw [Nat.cast_mul, Nat.cast_pow, Nat.cast_ofNat, he, ← pow_succ', div_div]
    rw [hq] at hclose htie
    generalize (num : ℚ) / den = q at hclose htie ⊢
    generalize (2 : ℚ) ^ 2044 = B at hclose htie hpos ⊢
    -- The largest significand is odd, so that the middle itself is rounded away from it.
    by_contra! hge
    have hr' : (r : ℚ) ≤ 2 ^ 53 - 1 := by
      have : (r : ℚ) + 1 ≤ 2 ^ 53 := by exact_mod_cast hr
      linarith
    have hhalf : (2 : ℚ) ^ 53 - 1 / 2 ≤ q / (2 * B) := by
      rw [le_div_iff₀ (by linarith)]
      linarith
    have habs : |q / (2 * B) - r| = 1 / 2 := by
      refine le_antisymm hclose ?_
      rw [abs_of_nonneg (by linarith)]
      linarith
    have heq : (r : ℚ) = (2 ^ 53 - 1 : ℕ) := by
      rw [abs_of_nonneg (by linarith)] at habs
      refine le_antisymm (by exact_mod_cast Nat.le_pred_of_lt hr) ?_
      push_cast
      linarith
    have hodd := htie habs
    rw [Nat.cast_inj.mp heq] at hodd
    exact absurd hodd (by decide)

/-- A value counted in units from zero to the side that a sign says. -/
def Finite.unitsTo (negative : Bool) (y : Finite) : ℤ :=
  if negative then -y.signedUnits else y.signedUnits

theorem Finite.natAbs_unitsTo (negative : Bool) (y : Finite) :
    (y.unitsTo negative).natAbs = y.units := by
  unfold unitsTo signedUnits
  split <;> split <;> simp

theorem Finite.unitsTo_self (y : Finite) : y.unitsTo y.negative = y.units := by
  unfold unitsTo signedUnits
  split <;> simp

theorem Finite.unitsTo_ne {negative : Bool} (h : x.toRat ≠ y.toRat) :
    x.unitsTo negative ≠ y.unitsTo negative := by
  intro heq
  have hs : x.signedUnits = y.signedUnits := by
    unfold unitsTo at heq
    split at heq <;> omega
  exact h (by rw [toRat, toRat, hs])

/-- The distance of a decimal number from a finite number, counted in units. -/
theorem abs_toRat_sub (d : Decimal) (y : Finite) :
    |d.toRat - y.toRat| = |(d.num : ℚ) / d.den - y.unitsTo d.negative| / unitsOfOne := by
  have hU := unitsOfOne_pos
  have hmul : |d.toRat - y.toRat| * unitsOfOne = |d.toRat * unitsOfOne - y.signedUnits| := by
    rw [← abs_of_pos hU, ← abs_mul, abs_of_pos hU, sub_mul, Finite.toRat, div_mul_cancel₀ _ hU.ne']
  rw [eq_div_iff hU.ne', hmul, d.num_div_den, Decimal.toRat, Finite.unitsTo]
  split
  · rw [Int.cast_neg, neg_mul, ← abs_neg, neg_sub', neg_neg]
  · rfl

/-- What a decimal number rounds to is the nearest finite number. -/
theorem isNearest_of_ofDecimal (h : ofDecimal d = .finite x) : x.IsNearest d.toRat := by
  have hU := unitsOfOne_pos
  have hself : x.unitsTo d.negative = x.units := negative_of_ofDecimal h ▸ x.unitsTo_self
  rw [ofDecimal_eq_ofUnits] at h
  refine ⟨?_, fun y => ?_, fun y heq hne => ?_⟩
  · have hlt := lt_of_ofUnits d.den_pos h
    rwa [d.num_div_den, ← d.abs_toRat, mul_lt_mul_iff_of_pos_right hU] at hlt
  · rw [abs_toRat_sub, abs_toRat_sub, hself]
    exact div_le_div_of_nonneg_right
      (nearest_of_ofUnits d.den_pos h y (y.natAbs_unitsTo d.negative)).1 hU.le
  · rw [abs_toRat_sub, abs_toRat_sub, div_left_inj' hU.ne', hself] at heq
    refine (nearest_of_ofUnits d.den_pos h y (y.natAbs_unitsTo d.negative)).2 heq ?_
    rw [← hself]
    exact Finite.unitsTo_ne hne

/-! ## The shortest decimal number -/

theorem magnitude_exact (x : Finite) : x.exact.magnitude * unitsOfOne = x.units := by
  have hten : (10 : ℚ) ^ 1074 = 5 ^ 1074 * 2 ^ 1074 := by
    rw [← mul_pow, show (5 : ℚ) * 2 = 10 by norm_num]
  rw [Decimal.magnitude, Finite.exact, Finite.expansion, cast_unitsOfOne, zpow_neg, zpow_ofNat,
    mul_right_comm]
  generalize 1074 = n at hten ⊢
  rw [Nat.cast_mul, Nat.cast_pow, Nat.cast_ofNat, mul_assoc (x.units : ℚ), ← hten,
    mul_inv_cancel_right₀ (by positivity)]

/-- The shortest decimal number of a finite number reads back as it. -/
theorem ofDecimal_shortest (tie : Tie) (x : Finite) : ofDecimal (x.shortest tie) = .finite x := by
  unfold Finite.shortest
  dsimp only
  cases h : (List.range 17).findSome? _ with
  | none => exact ofDecimal_of_magnitude rfl (magnitude_exact x)
  | some d =>
    obtain ⟨n, -, hn⟩ := List.exists_of_findSome?_eq_some h
    have hd := List.find?_some hn
    exact of_decide_eq_true hd

/-- The shortest digits have the sign of the number. -/
theorem negative_shortest (tie : Tie) (x : Finite) : (x.shortest tie).negative = x.negative :=
  (negative_of_ofDecimal (ofDecimal_shortest tie x)).symm

end Binary64

end FormLang
