import FormLang.Proofs.Binary64.Equality

/-!
# The one number that a value rounds to

Rounding to nearest leaves no choice:

* `Finite.IsNearest.eq`: two numbers of one sign that are nearest to a value are the same. If both were equally
  near, both significands would be even; but the number that follows the smaller one has an odd significand, and
  it would be nearer than both (`Finite.exists_next`);
* `le_of_ofDecimal`: only a value that is too large for the finite numbers rounds to infinity;
* `isRounded_iff`: so a decimal number reads as the one number that its value rounds to.
-/

namespace FormLang.Binary64

/-- A number is what a value rounds to: with the sign that is given, the nearest finite number, or the infinity if
the value is at least the middle between the largest finite number and the power of two above it. -/
def IsRounded (negative : Bool) (q : ℚ) : Binary64 → Prop
  | .finite x => x.negative = negative ∧ x.IsNearest q
  | .infinite sign => sign = negative ∧ 2 ^ 1024 - 2 ^ 970 ≤ |q|
  | .nan => False

/-! ## Nearest numbers -/

namespace Finite

variable {x y z : Finite} {q : ℚ}

/-- Between a number with an even significand and any larger one there is a number with an odd significand, or
else it is the larger one. -/
theorem exists_next (hx : x.significand % 2 = 0) (hlt : x.units < y.units) :
    ∃ z : Finite, z.negative = x.negative ∧ x.units < z.units ∧ z.units ≤ y.units ∧ z.significand % 2 = 1 := by
  have hpow : 0 < 2 ^ x.exponent := by positivity
  have hsucc : x.significand + 1 < 2 ^ 53 := by
    have := x.significand_lt
    omega
  have hcanonical : x.exponent = 0 ∨ 2 ^ 52 ≤ x.significand + 1 :=
    x.canonical.imp_right fun h => h.trans (Nat.le_succ _)
  refine ⟨⟨x.negative, x.significand + 1, x.exponent, hsucc, x.exponent_le, hcanonical⟩, rfl, ?_, ?_, ?_⟩
  · exact Nat.mul_lt_mul_of_pos_right (Nat.lt_succ_self _) hpow
  · rcases y.dvd_units_or_lt x.exponent with ⟨k, hk⟩ | ⟨he, hsmall⟩
    · rw [hk, mul_comm _ k] at hlt ⊢
      exact Nat.mul_le_mul_right _ (Nat.lt_of_mul_lt_mul_right hlt)
    · have := Nat.mul_le_mul_right (2 ^ x.exponent) (x.canonical.resolve_left he)
      exact absurd (hsmall.trans_le this) (Nat.lt_asymm hlt)
  · change (x.significand + 1) % 2 = 1
    omega

/-- What lies between two values that are equally far from a third one is nearer to it. -/
theorem abs_sub_lt_of_between {a b c : ℚ} (h : |q - a| = |q - b|) (hc : a < c ∧ c < b ∨ b < c ∧ c < a) :
    |q - c| < |q - a| := by
  have hne : a ≠ b := by rcases hc with hc | hc <;> linarith
  have hmid : q - a = -(q - b) := (abs_eq_abs.mp h).resolve_left fun h => hne (by linarith)
  rcases hc with hc | hc
  · rw [abs_of_pos (by linarith : 0 < q - a), abs_lt]
    constructor <;> linarith
  · rw [abs_of_neg (by linarith : q - a < 0), abs_lt]
    constructor <;> linarith

/-- On one side of zero, the values are ordered by their distance from zero. -/
theorem toRat_between (hy : y.negative = x.negative) (hz : z.negative = x.negative)
    (h : x.units < z.units ∧ z.units < y.units) :
    x.toRat < z.toRat ∧ z.toRat < y.toRat ∨ y.toRat < z.toRat ∧ z.toRat < x.toRat := by
  simp only [toRat, div_lt_div_iff_of_pos_right unitsOfOne_pos, Int.cast_lt, signedUnits, hy, hz]
  cases x.negative
  · exact .inl ⟨by simpa using h.1, by simpa using h.2⟩
  · exact .inr ⟨by simpa using h.2, by simpa using h.1⟩

/-- Of two numbers of one sign, the smaller one is not nearest to a value if the larger one is. -/
theorem IsNearest.not_lt (hx : x.IsNearest q) (hy : y.IsNearest q) (hs : x.negative = y.negative) :
    ¬x.units < y.units := by
  intro hlt
  have heq : |q - x.toRat| = |q - y.toRat| := le_antisymm (hx.nearest y) (hy.nearest x)
  have hne : x.toRat ≠ y.toRat := by
    intro h
    have habs := congrArg abs h
    rw [abs_toRat, abs_toRat, div_left_inj' unitsOfOne_pos.ne', Nat.cast_inj] at habs
    exact hlt.ne habs
  obtain ⟨z, hsign, hxz, hzy, hodd⟩ := exists_next (hx.even y heq.symm hne.symm) hlt
  rcases hzy.lt_or_eq with hzy | hzy
  · have hbetween := toRat_between hs.symm hsign ⟨hxz, hzy⟩
    exact absurd (hx.nearest z) (not_le.mpr (abs_sub_lt_of_between heq hbetween))
  · have heven := hy.even x heq hne
    have hsame : z = y := by
      rw [eq_of_units hzy, hsign, hs]
    rw [← hsame, hodd] at heven
    cases heven

/-- Only one number of a sign is nearest to a value. -/
theorem IsNearest.eq (hx : x.IsNearest q) (hy : y.IsNearest q) (hs : x.negative = y.negative) : x = y := by
  have hunits : x.units = y.units :=
    Nat.le_antisymm (Nat.le_of_not_lt (hy.not_lt hx hs.symm)) (Nat.le_of_not_lt (hx.not_lt hy hs))
  rw [eq_of_units hunits, hs]

end Finite

/-! ## Values that are too large -/

variable {negative sign : Bool} {num den significand exponent : ℕ}

theorem assemble_ne_nan : assemble negative significand exponent ≠ .nan := by
  intro h
  unfold assemble at h
  split at h
  · cases h
  · split at h <;> cases h

theorem exponent_of_assemble_infinite (hs : significand ≤ 2 ^ 53) (hc : exponent = 0 ∨ 2 ^ 52 ≤ significand)
    (h : assemble negative significand exponent = .infinite sign) :
    sign = negative ∧ (2046 ≤ exponent ∨ exponent = 2045 ∧ significand = 2 ^ 53) := by
  unfold assemble at h
  split at h
  · cases h
  · split at h
    · cases h
    · cases h
      exact ⟨rfl, by omega⟩

/-- A quotient that rounds to infinity is at least the middle between the largest finite number and the power of
two above it. -/
theorem le_of_ofUnits (hd : 0 < den) (h : ofUnits negative num den = .infinite sign) :
    sign = negative ∧ (2 ^ 1024 - 2 ^ 970) * unitsOfOne ≤ (num : ℚ) / den := by
  obtain ⟨hs, hc⟩ := significand_bounds num den
  obtain ⟨rfl, hexp⟩ := exponent_of_assemble_infinite hs hc h
  refine ⟨rfl, ?_⟩
  rw [overflow_mul_unitsOfOne]
  have hpos : (0 : ℚ) < 2 ^ 2044 := by positivity
  rcases hexp with he | ⟨he, hsig⟩
  · have hle := (exponentFor_spec (num / den)).2.resolve_left (by omega)
    generalize exponentFor (num / den) = e at he hle
    have hnat : 2 ^ 52 * 2 ^ e * den ≤ num :=
      (Nat.le_div_iff_mul_le hd).mp ((Nat.le_div_iff_mul_le (by positivity)).mp hle)
    have hnum : (2 : ℚ) ^ 52 * 2 ^ e ≤ num / den := by
      rw [le_div_iff₀ (by exact_mod_cast hd)]
      exact_mod_cast hnat
    have hpow : (2 : ℚ) ^ 2044 * 2 ^ 2 ≤ 2 ^ e := by
      rw [← pow_add]
      exact pow_le_pow_right₀ (by norm_num) he
    generalize (2 : ℚ) ^ 2044 = B at hpos hpow ⊢
    linarith
  · have hclose := (roundHalfEven_spec num (show 0 < den * 2 ^ exponentFor (num / den) by positivity)).1
    have hq : (num : ℚ) / (den * 2 ^ exponentFor (num / den) : ℕ) = num / den / (2 * 2 ^ 2044) := by
      rw [Nat.cast_mul, Nat.cast_pow, Nat.cast_ofNat, he, ← pow_succ', div_div]
    rw [hq, hsig] at hclose
    have hlow := (abs_le.mp hclose).1
    generalize (2 : ℚ) ^ 2044 = B at hpos hlow ⊢
    have hge : (2 : ℚ) ^ 53 - 1 / 2 ≤ num / den / (2 * B) := by
      push_cast at hlow
      linarith
    rw [le_div_iff₀ (by linarith)] at hge
    linarith

/-! ## Decimal numbers -/

variable {d : Decimal}

/-- Only a value that is too large for the finite numbers rounds to infinity. -/
theorem le_of_ofDecimal (h : ofDecimal d = .infinite sign) :
    sign = d.negative ∧ 2 ^ 1024 - 2 ^ 970 ≤ |d.toRat| := by
  rw [ofDecimal_eq_ofUnits] at h
  obtain ⟨hs, hle⟩ := le_of_ofUnits d.den_pos h
  rw [d.num_div_den, ← d.abs_toRat, mul_le_mul_iff_of_pos_right unitsOfOne_pos] at hle
  exact ⟨hs, hle⟩

theorem isRounded_ofDecimal (d : Decimal) : (ofDecimal d).IsRounded d.negative d.toRat := by
  cases h : ofDecimal d with
  | finite x => exact ⟨negative_of_ofDecimal h, isNearest_of_ofDecimal h⟩
  | infinite sign => exact le_of_ofDecimal h
  | nan =>
    rw [ofDecimal_eq_ofUnits] at h
    exact absurd h assemble_ne_nan

/-- A value with a sign rounds to one number. -/
theorem IsRounded.eq {a b : Binary64} {q : ℚ} (ha : a.IsRounded negative q) (hb : b.IsRounded negative q) :
    a = b := by
  cases a with
  | finite x =>
    cases b with
    | finite y => rw [ha.2.eq hb.2 (ha.1.trans hb.1.symm)]
    | infinite sign => exact absurd ha.2.lt_overflow (not_lt.mpr hb.2)
    | nan => cases hb
  | infinite sign =>
    cases b with
    | finite y => exact absurd hb.2.lt_overflow (not_lt.mpr ha.2)
    | infinite sign' => rw [ha.1, hb.1]
    | nan => cases hb
  | nan => cases ha

/-- A decimal number reads as the one number that its value rounds to. -/
theorem isRounded_iff {a : Binary64} : a.IsRounded d.negative d.toRat ↔ a = ofDecimal d :=
  ⟨fun h => h.eq (isRounded_ofDecimal d), fun h => h ▸ isRounded_ofDecimal d⟩

end FormLang.Binary64
