import FormLang.Proofs.Binary64.Rounding

/-!
# Numbers that are nearly ties

A number is a tie between two numerals of some places if twice its count of units of the last place is odd.
With at most a hundred places, a number that is so near to a tie that thirty more places do not show a
difference is a tie (`Finite.eq_of_near_tie`).

The digits of a number are those of a multiple of a power of five, and it is nearly a tie if this multiple is
nearly one of a power of two. Fractions on both sides of the quotient of the two powers bound from below how
near their multiples come to each other (`lt_abs_of_staysAway`); Euclid's algorithm finds such fractions
(`staysAway`), and the powers that can occur are finitely many (`staysAway_powers`).
-/

namespace FormLang.Binary64

/-! ## Multiples that stay apart -/

/-- Whether the multiples of one number, fewer than `bound` of them, stay farther than `gap` from the multiples of
another. Their quotient lies between two fractions with the denominators `q` and `q'`, and `d` and `d'` say how
far the multiples by these denominators are off. Euclid's algorithm brings the fractions together until no
denominator below the bound lies between them. -/
def staysAway (bound gap : ℕ) : ℕ → ℕ → ℕ → ℕ → ℕ → Bool
  | 0, _, _, _, _ => false
  | fuel + 1, q, d, q', d' =>
    if bound ≤ q + q' then gap < d && gap < d'
    else
      let steps := min (d / d') ((bound - q) / q')
      staysAway bound gap fuel q' d' (q + steps * q') (d - steps * d')

/-- Between neighbouring fractions with large denominators, the multiples stay apart. -/
theorem lt_abs_of_neighbours {bound gap q d q' d' : ℕ} {a b p r σ m k : ℤ} (hσ : σ = 1 ∨ σ = -1)
    (hd : (d : ℤ) = σ * (q * a - p * b)) (hd' : (d' : ℤ) = -σ * (q' * a - r * b))
    (hdet : r * q - p * q' = σ) (hb : bound ≤ q + q') (hgap : gap < d) (hgap' : gap < d')
    (hm : 0 < m) (hmb : m < bound) : (gap : ℤ) < |m * a - k * b| := by
  have hσσ : σ * σ = 1 := by rcases hσ with rfl | rfl <;> rfl
  -- Since the fractions are neighbours, every pair is a combination of the two of them.
  obtain ⟨u, hu⟩ : ∃ u, u = σ * (m * r - k * q') := ⟨_, rfl⟩
  obtain ⟨v, hv⟩ : ∃ v, v = σ * (k * q - m * p) := ⟨_, rfl⟩
  have hmq : m = u * q + v * q' := by
    calc m = σ * σ * m := by rw [hσσ, one_mul]
      _ = σ * m * (r * q - p * q') := by rw [hdet]; ring
      _ = u * q + v * q' := by rw [hu, hv]; ring
  have hkp : k = u * p + v * r := by
    calc k = σ * σ * k := by rw [hσσ, one_mul]
      _ = σ * k * (r * q - p * q') := by rw [hdet]; ring
      _ = u * p + v * r := by rw [hu, hv]; ring
  have hdist : |m * a - k * b| = |u * d - v * d'| := by
    have : u * d - v * d' = σ * (m * a - k * b) := by rw [hmq, hkp, hd, hd']; ring
    rw [this, abs_mul]
    rcases hσ with rfl | rfl <;> simp
  rw [hdist]
  -- A multiple below the bound uses one of the two fractions forwards and the other one not at all or backwards.
  rcases le_or_gt u 0 with hu0 | hu0
  · have hv0 : 0 < v := by
      by_contra! hv0
      nlinarith
    rw [lt_abs]
    right
    nlinarith
  · have hv0 : v ≤ 0 := by
      by_contra! hv0
      nlinarith
    rw [lt_abs]
    left
    nlinarith

/-- The multiples of one number by fewer than `bound` stay farther than `gap` from the multiples of another if
Euclid's algorithm says so. -/
theorem lt_abs_of_staysAway {bound gap fuel q d q' d' : ℕ} {a b p r σ m k : ℤ} (hσ : σ = 1 ∨ σ = -1)
    (hd : (d : ℤ) = σ * (q * a - p * b)) (hd' : (d' : ℤ) = -σ * (q' * a - r * b))
    (hdet : r * q - p * q' = σ) (h : staysAway bound gap fuel q d q' d' = true)
    (hm : 0 < m) (hmb : m < bound) : (gap : ℤ) < |m * a - k * b| := by
  induction fuel generalizing q d q' d' p r σ with
  | zero => simp [staysAway] at h
  | succ fuel ih =>
    simp only [staysAway] at h
    split at h
    · next hb =>
      simp only [Bool.and_eq_true, decide_eq_true_eq] at h
      exact lt_abs_of_neighbours hσ hd hd' hdet hb h.1 h.2 hm hmb
    · next hb =>
      -- Going on with the second fraction and the mediant keeps the fractions neighbours.
      generalize hsteps : min (d / d') ((bound - q) / q') = steps at h
      have hle : steps * d' ≤ d :=
        (Nat.mul_le_mul_right d' (hsteps ▸ Nat.min_le_left ..)).trans (Nat.div_mul_le_self d d')
      refine ih (σ := -σ) (p := r) (r := p + steps * r) (by omega) hd' ?_ ?_ h
      · push_cast [Nat.cast_sub hle]
        rw [hd, hd']
        ring
      · push_cast
        linarith [hdet]

/-! ## Powers of five and powers of two -/

/-- Euclid's algorithm starts with the remainder and the whole number below the quotient. -/
theorem lt_abs_of_staysAway_mod {bound gap fuel a b : ℕ} {m k : ℤ}
    (h : staysAway bound gap fuel 0 b 1 (a % b) = true) (hm : 0 < m) (hmb : m < bound) :
    (gap : ℤ) < |m * a - k * b| := by
  refine lt_abs_of_staysAway (σ := -1) (p := 1) (r := (a / b : ℕ)) (.inr rfl) ?_ ?_ ?_ h hm hmb
  · push_cast
    ring
  · have : (a : ℤ) = b * (a / b : ℕ) + (a % b : ℕ) := by exact_mod_cast (Nat.div_add_mod a b).symm
    rw [Nat.cast_one]
    linarith
  · rw [Nat.cast_zero, Nat.cast_one]
    ring

/-- Wherever a number of 53 bits and a hundred places can be nearly a tie, the powers keep apart. -/
theorem staysAway_powers : ∀ places < 101, ∀ i < 8, 2 ^ (100 + 25 * i) < 2 ^ 54 * 5 ^ places →
    staysAway (2 ^ 53) (2 ^ (125 + 25 * i) / 10 ^ 30) 64 0 (2 ^ (100 + 25 * i)) 1
      (5 ^ places % 2 ^ (100 + 25 * i)) = true := by
  decide +kernel

/-! ## Ties -/

/-- A power of two that is nearly divided is not much greater than the multiple of the power of five. -/
theorem lt_of_near_power {s places t n : ℕ} (hs : s < 2 ^ 53) (hn : 0 < n)
    (h : |(s : ℤ) * 5 ^ places - n * 2 ^ t| * 10 ^ 30 ≤ 2 ^ t) :
    0 < s ∧ 2 ^ t < 2 ^ 54 * 5 ^ places := by
  have hpow : (0 : ℤ) < 2 ^ t := by positivity
  have hle : (2 : ℤ) ^ t ≤ n * 2 ^ t := le_mul_of_one_le_left hpow.le (by exact_mod_cast hn)
  have hdiff := neg_abs_le ((s : ℤ) * 5 ^ places - n * 2 ^ t)
  have hhalf : (2 : ℤ) ^ t ≤ 2 * (s * 5 ^ places) := by linarith
  constructor
  · by_contra! hs0
    obtain rfl : s = 0 := by omega
    rw [Nat.cast_zero, zero_mul, mul_zero] at hhalf
    exact absurd hhalf hpow.not_ge
  · have hs' : (s : ℤ) * 5 ^ places < 2 ^ 53 * 5 ^ places :=
      mul_lt_mul_of_pos_right (by exact_mod_cast hs) (by positivity)
    have : (2 : ℤ) ^ t < 2 ^ 54 * 5 ^ places := by linarith
    exact_mod_cast this

theorem lt_eight_of_lt {places i : ℕ} (hp : places ≤ 100) (h : 2 ^ (100 + 25 * i) < 2 ^ 54 * 5 ^ places) :
    i < 8 := by
  by_contra! hi
  rw [show 100 + 25 * i = 54 + (46 + 25 * i) by omega, pow_add] at h
  have hlow : 2 ^ 246 ≤ 2 ^ (46 + 25 * i) := Nat.pow_le_pow_right (by decide) (by omega)
  have hhigh : 5 ^ places ≤ 5 ^ 100 := Nat.pow_le_pow_right (by decide) hp
  exact absurd ((hlow.trans_lt (Nat.lt_of_mul_lt_mul_left h)).trans_le hhigh) (by decide)

/-- Multiples of powers whose difference is small against the power of two are equal. -/
theorem eq_of_near_power {s places t n : ℕ} (hs : s < 2 ^ 53) (hp : places ≤ 100) (hn : 0 < n)
    (h : |(s : ℤ) * 5 ^ places - n * 2 ^ t| * 10 ^ 30 ≤ 2 ^ t) : s * 5 ^ places = n * 2 ^ t := by
  by_contra hne
  have habs : 1 ≤ |(s : ℤ) * 5 ^ places - n * 2 ^ t| := by
    refine Int.one_le_abs (sub_ne_zero.mpr fun heq => hne ?_)
    exact_mod_cast heq
  have ht : 100 ≤ t := by
    by_contra! ht
    have : (2 : ℤ) ^ t ≤ 2 ^ 99 := pow_le_pow_right₀ (by decide) (by omega)
    linarith [show (2 : ℤ) ^ 99 < 10 ^ 30 by decide]
  -- The exponents are taken in steps of 25, so that a step costs less than what thirty places leave.
  obtain ⟨i, r, hr, rfl⟩ : ∃ i r, r < 25 ∧ t = 100 + 25 * i + r :=
    ⟨(t - 100) / 25, (t - 100) % 25, Nat.mod_lt _ (by decide), by omega⟩
  obtain ⟨hpos, hlt⟩ := lt_of_near_power hs hn h
  have hstep : 2 ^ (100 + 25 * i) < 2 ^ 54 * 5 ^ places :=
    (Nat.pow_le_pow_right (by decide) (by omega)).trans_lt hlt
  have haway := lt_abs_of_staysAway_mod (k := n * 2 ^ r)
    (staysAway_powers places (by omega) i (lt_eight_of_lt hp hstep) hstep) (Int.natCast_pos.mpr hpos)
    (by exact_mod_cast hs)
  have hgap : 2 ^ (125 + 25 * i) < (2 ^ (125 + 25 * i) / 10 ^ 30 + 1) * 10 ^ 30 :=
    Nat.lt_mul_of_div_lt (Nat.lt_succ_self _) (by decide)
  generalize 2 ^ (125 + 25 * i) / 10 ^ 30 = gap at haway hgap
  have hgap' : (2 : ℤ) ^ (125 + 25 * i) < (gap + 1) * 10 ^ 30 := by exact_mod_cast hgap
  have hle : (2 : ℤ) ^ (100 + 25 * i + r) ≤ 2 ^ (125 + 25 * i) := pow_le_pow_right₀ (by decide) (by omega)
  have hsplit : (n : ℤ) * 2 ^ (100 + 25 * i + r) = n * 2 ^ r * 2 ^ (100 + 25 * i) := by
    rw [pow_add]
    ring
  push_cast at haway
  rw [hsplit] at h
  linarith

/-- A power of two taken out on both sides leaves the smaller exponents. -/
theorem eq_of_near_powers {s places c w n : ℕ} (hs : s < 2 ^ 53) (hp : places ≤ 100) (hn : 0 < n)
    (h : |(s : ℤ) * 5 ^ places * 2 ^ c - n * 2 ^ w| * 10 ^ 30 ≤ 2 ^ w) :
    s * 5 ^ places * 2 ^ c = n * 2 ^ w := by
  rcases Nat.le_total w c with hwc | hcw
  · obtain ⟨e, rfl⟩ := Nat.exists_eq_add_of_le hwc
    have hsplit : (s : ℤ) * 5 ^ places * 2 ^ (w + e) - n * 2 ^ w =
        2 ^ w * (s * 5 ^ places * 2 ^ e - n) := by
      rw [pow_add]
      ring
    rw [hsplit, abs_mul, abs_of_pos (show (0 : ℤ) < 2 ^ w by positivity), mul_assoc] at h
    have hone := le_of_mul_le_mul_left (h.trans_eq (mul_one _).symm) (show (0 : ℤ) < 2 ^ w by positivity)
    have hzero : (s : ℤ) * 5 ^ places * 2 ^ e - n = 0 := by
      rw [← abs_nonpos_iff]
      linarith
    have heq : s * 5 ^ places * 2 ^ e = n := by exact_mod_cast sub_eq_zero.mp hzero
    rw [← heq, pow_add]
    ring
  · obtain ⟨t, rfl⟩ := Nat.exists_eq_add_of_le hcw
    have hsplit : (s : ℤ) * 5 ^ places * 2 ^ c - n * 2 ^ (c + t) =
        2 ^ c * (s * 5 ^ places - n * 2 ^ t) := by
      rw [pow_add]
      ring
    rw [hsplit, abs_mul, abs_of_pos (show (0 : ℤ) < 2 ^ c by positivity), mul_assoc, pow_add] at h
    have hnear := le_of_mul_le_mul_left h (show (0 : ℤ) < 2 ^ c by positivity)
    rw [eq_of_near_power hs hp hn hnear, pow_add]
    ring

theorem unitsOfOne_eq_pow : ∃ w, unitsOfOne = 2 ^ w := by
  unfold unitsOfOne
  generalize 1074 = w
  exact ⟨w, rfl⟩

theorem zero_lt_unitsOfOne : 0 < unitsOfOne := by
  obtain ⟨w, hw⟩ := unitsOfOne_eq_pow
  rw [hw]
  exact Nat.pow_pos (by decide)

/-- A number that thirty more places do not tell from a tie is a tie. -/
theorem Finite.eq_of_near_tie (x : Finite) {places n : ℕ} (hp : places ≤ 100) (hn : 0 < n)
    (h : |(2 * (x.units * 10 ^ places) : ℤ) - n * unitsOfOne| * 10 ^ 30 ≤ unitsOfOne) :
    2 * (x.units * 10 ^ places) = n * unitsOfOne := by
  have hunits : 2 * (x.units * 10 ^ places) =
      x.significand * 5 ^ places * 2 ^ (x.exponent + places + 1) := by
    rw [Finite.units, show 10 = 5 * 2 by rfl, mul_pow, pow_add, pow_add]
    ring
  have hunits' : (2 * (x.units * 10 ^ places) : ℤ) =
      x.significand * 5 ^ places * 2 ^ (x.exponent + places + 1) := by exact_mod_cast hunits
  obtain ⟨w, hw⟩ := unitsOfOne_eq_pow
  rw [hunits', hw, Nat.cast_pow, Nat.cast_ofNat] at h
  rw [hunits, hw]
  exact eq_of_near_powers x.significand_lt hp hn h

end FormLang.Binary64
