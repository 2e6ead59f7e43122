import FormLang.Proofs.Binary64.FixedReading

/-!
# Displayed whole numbers

A whole number with at most fifteen digits is displayed with exactly these digits (`Finite.display_of_whole`):
its shortest digits are found on a grid of whole numbers (`Finite.exponent_shortest_nonneg`), and no other whole
number reads as it (`Finite.magnitude_eq_of_whole`).
-/

namespace FormLang.Binary64

open Numeral (IsDigits digitsValue)

variable {k n : ℕ} {tie : Tie} {x : Finite} {d : Decimal}

/-! ## The digits of a whole number -/

theorem digitCount_le_iff (hn : 0 < n) : digitCount k ≤ n ↔ k < 10 ^ n :=
  Nat.length_toDigits_le_iff (by decide) hn

/-- Zeros at the end are digits. -/
theorem digitCount_mul_pow (hk : 0 < k) (n : ℕ) : digitCount (k * 10 ^ n) = digitCount k + n := by
  have hpos : 0 < digitCount k := Nat.length_toDigits_pos
  have hpos' : 0 < digitCount (k * 10 ^ n) := Nat.length_toDigits_pos
  have hlow : 10 ^ (digitCount k - 1) ≤ k := (Numeral.pow_length_toDigits hk.ne').1
  refine le_antisymm ?_ ?_
  · rw [digitCount_le_iff (by omega), pow_add]
    exact Nat.mul_lt_mul_of_pos_right (lt_pow_digitCount k) (by positivity)
  · by_contra! hlt
    have hle : k * 10 ^ n < 10 ^ (digitCount k - 1 + n) := (digitCount_le_iff (by omega)).mp (by omega)
    rw [pow_add] at hle
    exact absurd (Nat.mul_le_mul_right (10 ^ n) hlow) (not_le.mpr hle)

namespace Finite

theorem expansion_of_whole (hx : |x.toRat| = k) : x.expansion = k * 10 ^ 1074 := by
  have hexact := magnitude_exact x
  rw [abs_toRat, div_eq_iff unitsOfOne_pos.ne'] at hx
  rw [hx, mul_left_inj' unitsOfOne_pos.ne', Decimal.magnitude, exact, zpow_neg, zpow_ofNat, ← div_eq_mul_inv,
    div_eq_iff (by positivity)] at hexact
  generalize 1074 = n at hexact ⊢
  exact_mod_cast hexact

/-! ## The shortest digits of a whole number -/

theorem exponent_of_mem_neighbours (h : d ∈ x.neighbours tie n) : d.exponent = n - 1074 := by
  dsimp only [neighbours] at h
  split at h
  all_goals
    simp only [List.mem_cons, List.not_mem_nil, or_false] at h
    rcases h with rfl | rfl <;> rfl

/-- On a grid on which a number lies, its first neighbour is the number itself. -/
theorem mem_neighbours_of_dvd (h : x.expansion = k * 10 ^ n) :
    (⟨x.negative, k, n - 1074⟩ : Decimal) ∈ x.neighbours tie n := by
  have hpos : 0 < 10 ^ n := by positivity
  simp only [neighbours, h, Nat.mul_div_cancel k hpos, Nat.mul_mod_left, mul_zero, hpos, true_or, if_true]
  exact List.mem_cons_self

theorem ofDecimal_of_whole (hx : |x.toRat| = k) : ofDecimal ⟨x.negative, k, 0⟩ = .finite x := by
  refine ofDecimal_of_magnitude rfl ?_
  rw [abs_toRat, div_eq_iff unitsOfOne_pos.ne'] at hx
  rw [hx, Decimal.magnitude, zpow_zero, mul_one]

/-- The shortest digits of a whole number with at most seventeen digits are found on a grid of whole numbers. -/
theorem shortest_mem_neighbours (hx : |x.toRat| = k) (hk : 0 < k) (hk' : k < 10 ^ 17) :
    ∃ n, 1074 ≤ n ∧ x.shortest tie ∈ x.neighbours tie n := by
  have hexpansion := expansion_of_whole hx
  have hcount : digitCount x.expansion = digitCount k + 1074 := by rw [hexpansion, digitCount_mul_pow hk]
  have hpos : 0 < digitCount k := Nat.length_toDigits_pos
  have hle : digitCount k ≤ 17 := (digitCount_le_iff (by decide)).mpr hk'
  -- The grid of whole numbers is the last one that is tried, if no coarser one has the number.
  have hsplit : List.range 17 =
      List.range (digitCount k) ++ (List.range (17 - digitCount k)).map (digitCount k + ·) := by
    rw [← List.range_add, Nat.add_sub_cancel' hle]
  have hread : decide (ofDecimal ⟨x.negative, k, (1074 : ℕ) - 1074⟩ = .finite x) = true :=
    decide_eq_true (ofDecimal_of_whole hx)
  unfold shortest
  dsimp only
  rw [hsplit, List.findSome?_append, hcount]
  cases hfound : (List.range (digitCount k)).findSome? _ with
  | none =>
    have hnone := List.findSome?_eq_none_iff.mp hfound (digitCount k - 1) (List.mem_range.mpr (by omega))
    rw [show digitCount k + 1074 - (digitCount k - 1 + 1) = 1074 by omega] at hnone
    exact absurd hread (List.find?_eq_none.mp hnone _ (mem_neighbours_of_dvd hexpansion))
  | some d =>
    obtain ⟨n, hn, hd⟩ := List.exists_of_findSome?_eq_some hfound
    rw [Option.some_or, Option.getD_some]
    refine ⟨_, ?_, List.mem_of_find?_eq_some hd⟩
    have := List.mem_range.mp hn
    omega

/-- The shortest digits of a whole number with at most seventeen digits denote a whole number. -/
theorem exponent_shortest_nonneg (hx : |x.toRat| = k) (hk : 0 < k) (hk' : k < 10 ^ 17) :
    0 ≤ (x.shortest tie).exponent := by
  obtain ⟨n, hn, hmem⟩ : ∃ n, 1074 ≤ n ∧ x.shortest tie ∈ x.neighbours tie n := shortest_mem_neighbours hx hk hk'
  rw [exponent_of_mem_neighbours hmem]
  omega

/-- No other whole number reads as a whole number that is small enough for its two neighbours to be exact. -/
theorem magnitude_eq_of_whole (hx : |x.toRat| = k) (hk : 0 < k) (hk' : k + 1 < 2 ^ 53) (hd : 0 ≤ d.exponent)
    (h : ofDecimal d = .finite x) : d.magnitude = k := by
  obtain ⟨N, hN⟩ : ∃ N : ℕ, d.magnitude = N := by
    refine ⟨d.coefficient * 10 ^ d.exponent.toNat, ?_⟩
    rw [Decimal.magnitude, Nat.cast_mul, Nat.cast_pow, Nat.cast_ofNat, ← zpow_natCast, Int.toNat_of_nonneg hd]
  have hnear := isNearestTo_of_ofDecimal h
  rw [hN] at hnear ⊢
  obtain ⟨y, hy⟩ := exists_of_whole (n := k - 1) (by omega)
  obtain ⟨z, hz⟩ := exists_of_whole hk'
  have hbelow := hnear y
  have habove := hnear z
  rw [hx, hy, Nat.cast_pred hk] at hbelow
  rw [hx, hz, Nat.cast_succ] at habove
  rcases lt_trichotomy N k with hlt | rfl | hlt
  · have hlt' : (N : ℚ) + 1 ≤ k := by exact_mod_cast hlt
    rw [abs_of_neg (by linarith), abs_of_nonpos (by linarith)] at hbelow
    linarith
  · rfl
  · have hlt' : (k : ℚ) + 1 ≤ N := by exact_mod_cast hlt
    rw [abs_of_pos (by linarith), abs_of_nonneg (by linarith)] at habove
    linarith

/-- The shortest digits of a whole number with at most fifteen digits denote the number. -/
theorem magnitude_shortest (hx : |x.toRat| = k) (hk : 0 < k) (hk' : k < 10 ^ 15) :
    (x.shortest tie).magnitude = k :=
  magnitude_eq_of_whole hx hk (by omega) (exponent_shortest_nonneg hx hk (by omega)) (ofDecimal_shortest tie x)

/-- A decimal number that is a natural number and not too large reads as this number. -/
theorem toRat_of_ofDecimal (h : ofDecimal d = .finite x) (hs : d.negative = false) (hd : d.magnitude = n)
    (hn : n < 2 ^ 53) : x.toRat = n := by
  have hnear := isNearestTo_of_ofDecimal h
  rw [hd] at hnear
  obtain ⟨y, hy⟩ := exists_of_whole hn
  have hsign : x.negative = false := (negative_of_ofDecimal h).trans hs
  rw [toRat_eq_abs, hsign, hnear.abs_eq hy]
  rfl

end Finite

/-! ## The text of a whole number -/

/-- A positional numeral of a whole number has no places. -/
theorem isPlaced_of_isPositional {m : Numeral} (hm : m.IsPositional) (h : m.toDecimal.magnitude = k) :
    m.IsPlaced 0 k := by
  have hnone : m.fraction = none := by
    by_contra hne
    obtain ⟨digits, hdigits⟩ := Option.ne_none_iff_exists'.mp hne
    have hd := hm.fraction digits hdigits
    have hvalue : digitsValue (m.whole ++ digits) = k * 10 ^ digits.length := by
      rw [magnitude_toDecimal, hdigits, hm.power, Option.getD_some, Option.getD_none, zero_sub, zpow_neg,
        zpow_natCast, ← div_eq_mul_inv, div_eq_iff (by positivity)] at h
      exact_mod_cast h
    refine hm.ending digits hdigits ?_
    have hlast : (m.whole ++ digits).getLast? = some '0' := by
      rw [Numeral.getLast?_eq_zero_iff (hm.whole.append hd.isDigit), hvalue]
      have hlen := List.length_pos_iff.mpr hd.ne_nil
      exact Nat.mod_eq_zero_of_dvd (Dvd.dvd.mul_left (dvd_pow_self 10 hlen.ne') k)
    rwa [List.getLast?_append_of_ne_nil _ hd.ne_nil] at hlast
  refine ⟨hm.toIsWellFormed, hm.leading, ?_, hm.power, ?_⟩
  · rw [hnone]
    rfl
  · rw [magnitude_toDecimal, hnone, hm.power, Option.getD_none, Option.getD_none, List.length_nil, Nat.cast_zero,
      sub_zero, zpow_zero, mul_one] at h
    rw [hnone]
    exact_mod_cast h

/-- A whole number with at most fifteen digits is displayed with these digits. -/
theorem Finite.display_of_whole (hx : |x.toRat| = k) (hk : 0 < k) (hk' : k < 10 ^ 15) :
    x.display = signText x.negative ++ Nat.toDigits 10 k := by
  have hkq : (1 : ℚ) ≤ k := by exact_mod_cast hk
  have hkq' : (k : ℚ) < 10 ^ 15 := by exact_mod_cast hk'
  have hzero : x.isZero = false := by
    rw [← Bool.not_eq_true]
    intro hzero
    rw [toRat_of_isZero hzero, abs_zero] at hx
    linarith
  have hmagnitude : (x.shortest .away).magnitude = k := magnitude_shortest hx hk hk'
  have hpoint := Significant.lt_point_iff (coefficient_shortest .away hzero)
  rw [hmagnitude] at hpoint
  have hshown : x.showsAllPlaces := by
    refine .inr ⟨(millionth_le_iff hzero).mpr ((hpoint (-6)).mpr ?_), ?_⟩
    · exact (zpow_le_one_of_nonpos₀ (by norm_num) (by norm_num)).trans hkq
    · rw [hx]
      exact hkq'.trans (by norm_num)
  obtain ⟨hneg, hvalue⟩ := toDecimal_numeral hzero
  have hplaced := isPlaced_of_isPositional (isPositional_numeral hshown) (hvalue.trans hmagnitude)
  rw [x.display_eq_chars, chars_eq, ← negative_toDecimal, hneg, negative_shortest,
    hplaced.unsignedChars_eq (Numeral.isPlaced_toDigits x.negative k)]
  simp only [Numeral.unsignedChars, Numeral.fractionText, Numeral.powerText, List.append_nil]

end FormLang.Binary64
