import FormLang.Proofs.Binary64.Display

/-!
# Numbers of the same value

Two finite numbers are displayed alike if and only if they have the same value (`Finite.display_eq_iff`), so
comparing their texts is comparing the numbers (`display_eq_iff_eq`). The zeros with and without a sign have
the same value; every other value is that of one number (`Finite.withoutZeroSign_eq_iff`).
-/

namespace FormLang.Binary64

variable {x y : Finite}

namespace Finite

/-- The two zeros are the only numbers that are zero. -/
theorem isZero_iff : x.isZero = true ↔ ∃ negative, x = .zero negative := by
  constructor
  · intro h
    obtain ⟨negative, significand, exponent, hlt, hle, hcanonical⟩ := x
    obtain rfl : significand = 0 := beq_iff_eq.mp h
    obtain rfl : exponent = 0 := hcanonical.resolve_right (by decide)
    exact ⟨negative, rfl⟩
  · rintro ⟨negative, rfl⟩
    rfl

theorem signedUnits_eq_zero_iff : x.signedUnits = 0 ↔ x.isZero = true := by
  have hpow : 0 < 2 ^ x.exponent := Nat.two_pow_pos _
  have hunits : x.units = 0 ↔ x.isZero = true := by
    rw [units, isZero, Nat.mul_eq_zero, beq_iff_eq]
    omega
  rw [← hunits, signedUnits]
  split <;> omega

/-- Numbers of the same value are the same, but for the sign of a zero. -/
theorem withoutZeroSign_eq_iff : x.withoutZeroSign = y.withoutZeroSign ↔ x.signedUnits = y.signedUnits := by
  have hself (z : Finite) : z.withoutZeroSign.signedUnits = z.signedUnits := by
    unfold withoutZeroSign
    split
    · rename_i hz
      rw [signedUnits_eq_zero_iff.mpr hz]
      rfl
    · rfl
  constructor
  · intro h
    rw [← hself x, h, hself y]
  · intro h
    have hzero : x.isZero = y.isZero := by
      rw [Bool.eq_iff_iff, ← signedUnits_eq_zero_iff, h, signedUnits_eq_zero_iff]
    unfold withoutZeroSign
    rw [hzero]
    split
    · rfl
    · rename_i hy
      have hne : y.signedUnits ≠ 0 := mt signedUnits_eq_zero_iff.mp hy
      have hsame : x.negative = y.negative ∧ x.units = y.units := by
        unfold signedUnits at h hne
        cases hx : x.negative <;> cases hy : y.negative <;>
          simp only [hx, hy, Bool.false_eq_true, ↓reduceIte] at h hne
        · exact ⟨rfl, by omega⟩
        · omega
        · omega
        · exact ⟨rfl, by omega⟩
      rw [eq_of_units hsame.2, hsame.1]

theorem display_withoutZeroSign (x : Finite) : x.withoutZeroSign.display = x.display := by
  unfold withoutZeroSign
  split
  · rename_i hx
    rw [display_of_isZero hx]
    exact display_of_isZero rfl
  · rfl

/-- Numbers are displayed alike if and only if they have the same value. -/
theorem display_eq_iff : x.display = y.display ↔ x.signedUnits = y.signedUnits := by
  rw [← withoutZeroSign_eq_iff]
  constructor
  · intro h
    have hnumeral : x.numeral = y.numeral :=
      Option.some.inj (x.ofText?_display.symm.trans (h ▸ y.ofText?_display))
    have hread := x.ofDecimal_numeral
    rw [hnumeral, y.ofDecimal_numeral] at hread
    exact (Binary64.finite.inj hread).symm
  · intro h
    rw [← x.display_withoutZeroSign, h, y.display_withoutZeroSign]

theorem toRat_eq_iff : x.toRat = y.toRat ↔ x.signedUnits = y.signedUnits := by
  rw [toRat, toRat, div_left_inj' unitsOfOne_pos.ne', Int.cast_inj]

end Finite

theorem eq_finite_iff : (finite x).eq (finite y) = true ↔ x.signedUnits = y.signedUnits := by
  simp [eq, compareBy, rank]

/-- Finite numbers are displayed alike if and only if they are equal. -/
theorem display_eq_iff_eq {a b : Binary64} (ha : a.isFinite = true) (hb : b.isFinite = true) :
    a.display = b.display ↔ a.eq b = true := by
  cases a with
  | finite x =>
    cases b with
    | finite y => rw [eq_finite_iff, ← Finite.display_eq_iff, display, display]
    | infinite | nan => cases hb
  | infinite | nan => cases ha

/-- Two numbers are equal if and only if each is at most the other. -/
theorem le_and_le (a b : Binary64) : (b.le a && a.le b) = a.eq b := by
  unfold le eq compareBy
  cases a.rank with
  | none => cases b.rank <;> rfl
  | some i =>
    cases b.rank with
    | none => rfl
    | some j =>
      rw [Bool.eq_iff_iff]
      simp only [Bool.and_eq_true, decide_eq_true_eq, beq_iff_eq]
      omega

end FormLang.Binary64
