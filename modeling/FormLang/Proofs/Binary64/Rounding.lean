import Mathlib.Algebra.Order.Field.Rat
import Mathlib.Tactic.FieldSimp
import Mathlib.Tactic.Linarith
import Mathlib.Tactic.Positivity
import Mathlib.Tactic.Ring
import FormLang.Binary64.Rounding

/-!
# Rounding to nearest

What rounding a quotient of units gives, said once so that no later proof opens `ofUnits`:

* `nearest_of_ofUnits`: no finite number is nearer to the quotient, and if another one is equally near,
  the significand is even;
* `units_le_of_ofUnits`: a greater quotient gives no smaller number;
* `ofUnits_congr`: only the value of the quotient counts, not how it is written;
* `ofUnits_units`: a finite number rounds to itself;
* `isFinite_ofUnits`: what is not too large rounds to a finite number, and so every machine word does
  (`isFinite_ofInt`).
-/

namespace FormLang.Binary64

/-! ## Whole numbers -/

theorem roundHalfEven_bounds (num den : ℕ) :
    num / den ≤ roundHalfEven num den ∧ roundHalfEven num den ≤ num / den + 1 := by
  dsimp only [roundHalfEven]
  split
  · omega
  · split <;> omega

/-- A quotient is rounded by at most a half, and by exactly a half only to an even number. -/
theorem roundHalfEven_spec (num : ℕ) {den : ℕ} (hd : 0 < den) :
    |(num : ℚ) / den - roundHalfEven num den| ≤ 1 / 2 ∧
      (|(num : ℚ) / den - roundHalfEven num den| = 1 / 2 → roundHalfEven num den % 2 = 0) := by
  have hq : (num : ℚ) / den = (num / den : ℕ) + (num % den : ℕ) / (den : ℚ) := by
    have hn : (num : ℚ) = den * (num / den : ℕ) + (num % den : ℕ) := by
      exact_mod_cast (Nat.div_add_mod num den).symm
    field_simp
    linarith
  have hd' : (0 : ℚ) < den := by exact_mod_cast hd
  have hlt : ((num % den : ℕ) : ℚ) / den < 1 := by
    rw [div_lt_one hd']
    exact_mod_cast Nat.mod_lt num hd
  have hnonneg : 0 ≤ ((num % den : ℕ) : ℚ) / den := by positivity
  rw [hq]
  dsimp only [roundHalfEven]
  split
  · rename_i h
    have hr : ((num % den : ℕ) : ℚ) / den < 1 / 2 := by
      rw [div_lt_iff₀ hd']
      have : 2 * ((num % den : ℕ) : ℚ) < den := by exact_mod_cast h
      linarith
    rw [add_sub_cancel_left, abs_of_nonneg hnonneg]
    exact ⟨hr.le, fun h => absurd h hr.ne⟩
  · split
    · rename_i h
      have hr : ((num % den : ℕ) : ℚ) / den = 1 / 2 := by
        rw [div_eq_iff hd'.ne']
        have : 2 * ((num % den : ℕ) : ℚ) = den := by exact_mod_cast h
        linarith
      rw [hr]
      rcases Nat.mod_two_eq_zero_or_one (num / den) with h | h
      · rw [h, Nat.add_zero, add_sub_cancel_left, abs_of_pos (by norm_num)]
        exact ⟨le_rfl, fun _ => h⟩
      · refine ⟨?_, fun _ => by omega⟩
        rw [h]
        push_cast
        rw [add_sub_add_left_eq_sub]
        norm_num
    · rename_i h
      have hr : 1 / 2 < ((num % den : ℕ) : ℚ) / den := by
        rw [lt_div_iff₀ hd']
        have : (den : ℚ) < 2 * (num % den : ℕ) := by exact_mod_cast (by omega : den < 2 * (num % den))
        linarith
      push_cast
      rw [add_sub_add_left_eq_sub, abs_of_neg (by linarith)]
      exact ⟨by linarith, fun h => by linarith⟩

/-- What lies within a half of one whole number is at least a half away from every other. -/
theorem half_le_abs_sub {q : ℚ} {r n : ℤ} (h : |q - r| ≤ 1 / 2) (hn : n ≠ r) :
    1 / 2 ≤ |q - n| := by
  have hone : (1 : ℚ) ≤ |(n : ℚ) - r| := by exact_mod_cast Int.one_le_abs (sub_ne_zero.mpr hn)
  have htri : |(n : ℚ) - r| ≤ |q - r| + |q - n| := by
    have := abs_sub (q - r) (q - n)
    rwa [sub_sub_sub_cancel_left] at this
  linarith

/-! ## Significands and exponents -/

/-- The exponent for a number of units leaves 53 bits before the point, and no fewer unless it is
zero. -/
theorem exponentFor_spec (n : ℕ) :
    n / 2 ^ exponentFor n < 2 ^ 53 ∧ (exponentFor n = 0 ∨ 2 ^ 52 ≤ n / 2 ^ exponentFor n) := by
  have hlt : n < 2 ^ (n.log2 + 1) := Nat.lt_log2_self
  constructor
  · rw [Nat.div_lt_iff_lt_mul (by positivity), ← Nat.pow_add]
    refine hlt.trans_le (Nat.pow_le_pow_right (by decide) ?_)
    rw [exponentFor]
    omega
  · rcases Nat.eq_zero_or_pos (exponentFor n) with he | he
    · exact .inl he
    · refine .inr ((Nat.le_div_iff_mul_le (by positivity)).mpr ?_)
      have hl : 52 + exponentFor n = n.log2 := by
        rw [exponentFor] at he ⊢
        omega
      have hn : n ≠ 0 := by
        rintro rfl
        simp [exponentFor] at he
      rw [← Nat.pow_add, hl]
      exact Nat.log2_self_le hn

/-- The significand of a quotient has 53 bits or has just grown to 54, and no fewer than 53 unless the
exponent is zero. -/
theorem significand_bounds (num den : ℕ) :
    let exponent := exponentFor (num / den)
    let significand := roundHalfEven num (den * 2 ^ exponent)
    significand ≤ 2 ^ 53 ∧ (exponent = 0 ∨ 2 ^ 52 ≤ significand) := by
  intro exponent significand
  obtain ⟨hlt, hle⟩ := exponentFor_spec (num / den)
  have hb := roundHalfEven_bounds num (den * 2 ^ exponent)
  rw [← Nat.div_div_eq_div_mul] at hb
  change _ / 2 ^ exponent < _ at hlt
  change _ ∨ _ ≤ _ / 2 ^ exponent at hle
  exact ⟨by omega, hle.imp_right fun h => h.trans hb.1⟩

theorem eq_of_assemble {negative : Bool} {significand exponent : ℕ} {x : Finite}
    (h : assemble negative significand exponent = .finite x) :
    x.negative = negative ∧ x.units = significand * 2 ^ exponent ∧
      (significand % 2 = 0 → x.significand % 2 = 0) := by
  unfold assemble at h
  split at h
  · cases h
    exact ⟨rfl, rfl, id⟩
  · split at h
    · rename_i hs
      cases h
      refine ⟨rfl, ?_, fun _ => show 2 ^ 52 % 2 = 0 by decide⟩
      change 2 ^ 52 * 2 ^ (exponent + 1) = significand * 2 ^ exponent
      rw [hs.1]
      ring
    · cases h

theorem isFinite_assemble {significand exponent : ℕ} (negative : Bool)
    (hs : significand ≤ 2 ^ 53) (he : exponent < 2045)
    (hc : exponent = 0 ∨ 2 ^ 52 ≤ significand) :
    (assemble negative significand exponent).isFinite = true := by
  unfold assemble
  split
  · rfl
  · rw [dif_pos (by omega)]
    rfl

theorem assemble_self (x : Finite) :
    assemble x.negative x.significand x.exponent = .finite x := by
  rw [assemble, dif_pos ⟨x.significand_lt, x.exponent_le, x.canonical⟩]

/-! ## Quotients of units -/

/-- The units of a finite number are a multiple of a power of two, or fewer than half of what 53 bits
at that power come to. -/
theorem Finite.dvd_units_or_lt (y : Finite) (exponent : ℕ) :
    2 ^ exponent ∣ y.units ∨ exponent ≠ 0 ∧ y.units < 2 ^ 52 * 2 ^ exponent := by
  rcases Nat.lt_or_ge y.exponent exponent with h | h
  · refine .inr ⟨by omega, ?_⟩
    calc y.units < 2 ^ 53 * 2 ^ y.exponent :=
          Nat.mul_lt_mul_of_pos_right y.significand_lt (by positivity)
      _ = 2 ^ 52 * 2 ^ (y.exponent + 1) := by rw [pow_succ, pow_succ]; ring
      _ ≤ 2 ^ 52 * 2 ^ exponent :=
          Nat.mul_le_mul_left _ (Nat.pow_le_pow_right (by decide) h)
  · exact .inl ((pow_dvd_pow 2 h).trans (Nat.dvd_mul_left _ _))

variable {negative negative' : Bool} {num den num' den' : ℕ} {x y : Finite}

/-- No finite number is nearer to a quotient than what it rounds to, and if another one is equally near,
the significand is even. -/
theorem nearest_of_ofUnits (hd : 0 < den) (h : ofUnits negative num den = .finite x) (y : Finite)
    {t : ℤ} (ht : t.natAbs = y.units) :
    |(num : ℚ) / den - x.units| ≤ |(num : ℚ) / den - t| ∧
      (|(num : ℚ) / den - t| = |(num : ℚ) / den - x.units| → t ≠ x.units →
        x.significand % 2 = 0) := by
  obtain ⟨-, hu, heven⟩ := eq_of_assemble h
  obtain ⟨-, hle⟩ := exponentFor_spec (num / den)
  generalize exponentFor (num / den) = e at hu heven hle
  obtain ⟨hclose, htie⟩ := roundHalfEven_spec num (show 0 < den * 2 ^ e by positivity)
  generalize roundHalfEven num (den * 2 ^ e) = r at hu heven hclose htie
  have hB : (0 : ℚ) < 2 ^ e := by positivity
  have hq : (num : ℚ) / (den * 2 ^ e : ℕ) = num / den / 2 ^ e := by
    push_cast
    rw [div_div]
  rw [hq] at hclose htie
  generalize hqd : (num : ℚ) / den = q at hclose htie ⊢
  have hclose' : |q / 2 ^ e - (r : ℤ)| ≤ 1 / 2 := by exact_mod_cast hclose
  -- On the grid of the multiples of the power of two, distances shrink by that power.
  have hscale (n : ℤ) : |q - n * 2 ^ e| = 2 ^ e * |q / 2 ^ e - n| := by
    rw [← abs_of_pos hB, ← abs_mul, abs_of_pos hB, mul_sub, mul_div_cancel₀ _ hB.ne', mul_comm _ (n : ℚ)]
  have hx : ((x.units : ℕ) : ℚ) = (r : ℤ) * 2 ^ e := by
    rw [hu]
    push_cast
    rfl
  have hgrid (n : ℤ) : |q - x.units| ≤ |q - n * 2 ^ e| := by
    rw [hx, hscale, hscale]
    refine mul_le_mul_of_nonneg_left ?_ hB.le
    by_cases hn : n = r
    · rw [hn]
    · exact hclose'.trans (half_le_abs_sub hclose' hn)
  rcases y.dvd_units_or_lt e with hdvd | ⟨he, hlt⟩
  · obtain ⟨n, rfl⟩ : ((2 ^ e : ℕ) : ℤ) ∣ t := Int.natCast_dvd.mpr (ht ▸ hdvd)
    have hn : ((((2 ^ e : ℕ) : ℤ) * n : ℤ) : ℚ) = n * 2 ^ e := by
      push_cast
      ring
    rw [hn]
    refine ⟨hgrid n, fun heq hne => heven (htie ?_)⟩
    have hnr : n ≠ r := by
      rintro rfl
      refine hne ?_
      rw [hu]
      push_cast
      ring
    have hhalf := half_le_abs_sub hclose' hnr
    rw [hx, hscale, hscale] at heq
    have := mul_left_cancel₀ hB.ne' heq
    exact le_antisymm hclose (by rw [this] at hhalf; exact_mod_cast hhalf)
  · -- Below the grid, the least number with 53 bits on it lies between.
    have hlow : ((2 ^ 52 : ℤ) : ℚ) * 2 ^ e ≤ q := by
      have hm := (Nat.le_div_iff_mul_le (by positivity)).mp (hle.resolve_left he)
      have hm' : 2 ^ 52 * 2 ^ e * den ≤ num := (Nat.le_div_iff_mul_le hd).mp hm
      rw [← hqd, le_div_iff₀ (by exact_mod_cast hd)]
      exact_mod_cast hm'
    have htlt : (t : ℚ) < ((2 ^ 52 : ℤ) : ℚ) * 2 ^ e := by
      have : t < 2 ^ 52 * 2 ^ e := by
        have : (y.units : ℤ) < 2 ^ 52 * 2 ^ e := by exact_mod_cast hlt
        omega
      exact_mod_cast this
    have hstrict : |q - ((2 ^ 52 : ℤ) : ℚ) * 2 ^ e| < |q - t| := by
      rw [abs_of_nonneg (by linarith), abs_of_pos (by linarith)]
      linarith
    have := (hgrid (2 ^ 52)).trans_lt hstrict
    exact ⟨this.le, fun heq => absurd heq this.ne'⟩

/-! ## Equal quotients -/

theorem roundHalfEven_mul {k : ℕ} (hk : 0 < k) (num den : ℕ) :
    roundHalfEven (k * num) (k * den) = roundHalfEven num den := by
  have hm : 2 * (k * num % (k * den)) = k * (2 * (num % den)) := by
    rw [Nat.mul_mod_mul_left]
    ring
  simp only [roundHalfEven, Nat.mul_div_mul_left _ _ hk, hm, Nat.mul_lt_mul_left hk,
    Nat.mul_right_inj hk.ne']

theorem ofUnits_mul {k : ℕ} (hk : 0 < k) (negative : Bool) (num den : ℕ) :
    ofUnits negative (k * num) (k * den) = ofUnits negative num den := by
  simp only [ofUnits, Nat.mul_div_mul_left _ _ hk, mul_assoc, roundHalfEven_mul hk]

/-- Equal quotients round alike, however they are written. -/
theorem ofUnits_congr (hd : 0 < den) (hd' : 0 < den') (h : num * den' = num' * den) :
    ofUnits negative num den = ofUnits negative num' den' := by
  rw [← ofUnits_mul hd' negative num den, ← ofUnits_mul hd negative num' den', mul_comm den', h,
    mul_comm num', mul_comm den']

/-- The sign has no part in rounding. -/
theorem units_eq_of_ofUnits (h : ofUnits negative num den = .finite x)
    (h' : ofUnits negative' num den = .finite y) : x.units = y.units := by
  rw [(eq_of_assemble h).2.1, (eq_of_assemble h').2.1]

/-- A greater quotient rounds to no smaller number. -/
theorem units_le_of_ofUnits (hd : 0 < den) (hd' : 0 < den')
    (h : ofUnits negative num den = .finite x) (h' : ofUnits negative' num' den' = .finite y)
    (hle : (num : ℚ) / den ≤ num' / den') : x.units ≤ y.units := by
  by_contra! hlt
  have hlt' : (y.units : ℚ) < x.units := by exact_mod_cast hlt
  have hx := (nearest_of_ofUnits hd h y (t := y.units) rfl).1
  have hy := (nearest_of_ofUnits hd' h' x (t := x.units) rfl).1
  push_cast at hx hy
  -- The greater number is no farther from the smaller quotient, nor the smaller from the greater one:
  -- so both quotients are the middle of the two numbers, and must round alike.
  have hmid : (x.units + y.units : ℚ) / 2 ≤ num / den := by
    by_contra! hq
    rw [abs_sub_comm, abs_of_pos (by linarith)] at hx
    have : (num / den : ℚ) - y.units < x.units - num / den := by linarith
    have : -((num / den : ℚ) - y.units) < x.units - num / den := by linarith
    exact absurd hx (not_le.mpr (abs_lt.mpr ⟨by linarith, by linarith⟩))
  have hmid' : (num' / den' : ℚ) ≤ (x.units + y.units) / 2 := by
    by_contra! hq
    rw [abs_of_pos (by linarith)] at hy
    exact absurd hy (not_le.mpr (abs_lt.mpr ⟨by linarith, by linarith⟩))
  have heq : (num : ℚ) / den = num' / den' := by linarith
  rw [div_eq_div_iff (by exact_mod_cast hd.ne') (by exact_mod_cast hd'.ne')] at heq
  rw [ofUnits_congr hd hd' (by exact_mod_cast heq)] at h
  exact hlt.ne' (units_eq_of_ofUnits h h')

/-! ## Finite results -/

/-- A finite number rounds to itself. -/
theorem ofUnits_units {k : ℕ} (hk : 0 < k) (x : Finite) :
    ofUnits x.negative (x.units * k) k = .finite x := by
  rw [ofUnits_congr hk Nat.one_pos (show x.units * k * 1 = x.units * k by rw [mul_one])]
  have he : exponentFor x.units = x.exponent := by
    have hlt : x.units < 2 ^ (53 + x.exponent) := by
      rw [pow_add]
      exact Nat.mul_lt_mul_of_pos_right x.significand_lt (by positivity)
    rcases x.canonical with hz | hc
    · by_cases hu : x.units = 0
      · rw [hu, hz]
        rfl
      · have := (Nat.log2_lt hu).mpr hlt
        rw [exponentFor]
        omega
    · have hle : 2 ^ (52 + x.exponent) ≤ x.units := by
        rw [pow_add]
        exact Nat.mul_le_mul_right _ hc
      have hu : x.units ≠ 0 := (lt_of_lt_of_le (by positivity) hle).ne'
      have := (Nat.log2_lt hu).mpr hlt
      have := (Nat.le_log2 hu).mpr hle
      rw [exponentFor]
      omega
  have hr : roundHalfEven x.units (1 * 2 ^ x.exponent) = x.significand := by
    have hp : 0 < 2 ^ x.exponent := by positivity
    rw [one_mul, roundHalfEven, Finite.units, Nat.mul_mod_left, Nat.mul_div_cancel _ hp, if_pos hp]
  rw [ofUnits, Nat.div_one, he, hr, assemble_self]

/-- A finite number is known from its sign and its distance from zero. -/
theorem Finite.eq_of_units (h : x.units = y.units) : x = { y with negative := x.negative } := by
  have hx := ofUnits_units Nat.one_pos x
  have hy := ofUnits_units Nat.one_pos { y with negative := x.negative }
  rw [h] at hx
  exact Binary64.finite.inj (hx.symm.trans hy)

theorem exists_of_isFinite {a : Binary64} (h : a.isFinite = true) : ∃ x, a = .finite x := by
  cases a with
  | finite x => exact ⟨x, rfl⟩
  | infinite | nan => cases h

/-- What is not too large rounds to a finite number. -/
theorem isFinite_ofUnits (negative : Bool) (h : num / den < 2 ^ 2097) :
    (ofUnits negative num den).isFinite = true := by
  obtain ⟨hs, hc⟩ := significand_bounds num den
  refine isFinite_assemble _ hs ?_ hc
  by_cases hn : num / den = 0
  · rw [hn]
    decide
  · have := (Nat.log2_lt hn).mpr h
    rw [exponentFor]
    omega

/-- A machine word is a finite number. -/
theorem isFinite_ofInt {i : ℤ} (h : i.natAbs ≤ 2 ^ 64) : (ofInt i).isFinite = true := by
  refine isFinite_ofUnits _ ?_
  rw [Nat.div_one]
  exact (Nat.mul_le_mul_right unitsOfOne h).trans_lt (by decide +kernel)

end FormLang.Binary64
