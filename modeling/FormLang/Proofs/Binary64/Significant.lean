import Mathlib.Data.List.DropRight
import FormLang.Binary64.Layout
import FormLang.Proofs.Binary64.Decimal
import FormLang.Proofs.Decimal.Numeral

/-!
# Significant digits and their layouts

* `isProper_ofDecimal`, `magnitude_ofDecimal`: the significant digits of a decimal number other than zero
  begin and end with a digit other than zero, and denote the number;
* `lt_point_iff`: their point tells which powers of ten the number reaches;
* `positionalNumeral`, `scientificNumeral`: the numerals behind the two ways to lay digits out. Both denote
  what the digits denote (`magnitude_positionalNumeral`, `magnitude_scientificNumeral`), and each has the
  form of its layout (`isPositional_positionalNumeral`, `isScientific_scientificNumeral`).
-/

namespace FormLang.Binary64

open Numeral

/-! ## The parts of a numeral -/

/-- A numeral's text is its sign before the text of its other parts. -/
theorem chars_eq (n : Numeral) : n.chars = signText n.negative ++ n.unsignedChars := by
  unfold chars signText
  split <;> rfl

theorem negative_toDecimal (n : Numeral) : n.toDecimal.negative = n.negative := rfl

theorem magnitude_toDecimal (n : Numeral) :
    n.toDecimal.magnitude = digitsValue (n.whole ++ n.fraction.getD []) *
      10 ^ (n.power.getD 0 - ((n.fraction.getD []).length : ℤ)) :=
  rfl

/-! ## Significant digits -/

namespace Significant

/-- Significant digits are digits, and neither the first nor the last is zero. -/
structure IsProper (s : Significant) : Prop where
  isDigits : IsDigits s.digits
  first : s.digits.head? ≠ some '0'
  last : s.digits.getLast? ≠ some '0'

/-- The number that significant digits denote. -/
def magnitude (s : Significant) : ℚ := digitsValue s.digits * 10 ^ (s.point - s.digits.length)

/-- The digits that are left out are zeros. -/
theorem digits_ofDecimal (d : Decimal) :
    ∃ k, Nat.toDigits 10 d.coefficient = (ofDecimal d).digits ++ List.replicate k '0' := by
  have hsplit := List.takeWhile_append_dropWhile (p := (· == '0')) (l := (Nat.toDigits 10 d.coefficient).reverse)
  refine ⟨((Nat.toDigits 10 d.coefficient).reverse.takeWhile (· == '0')).length, ?_⟩
  rw [← List.reverse_inj, List.reverse_append, List.reverse_replicate, ofDecimal, List.reverse_reverse]
  conv_lhs => rw [← hsplit]
  congr 1
  exact List.eq_replicate_iff.mpr ⟨rfl, fun c hc => by simpa using List.mem_takeWhile_imp hc⟩

variable {d : Decimal}

theorem isProper_ofDecimal (hd : d.coefficient ≠ 0) : (ofDecimal d).IsProper := by
  have hdigits := isDigits_toDigits d.coefficient
  have hpre : (ofDecimal d).digits <+: Nat.toDigits 10 d.coefficient := List.rdropWhile_prefix _ _
  have hne : (ofDecimal d).digits ≠ [] := by
    intro hnil
    obtain ⟨c, hc⟩ := Option.isSome_iff_exists.mp (List.isSome_head?.mpr hdigits.ne_nil)
    have hzero := List.rdropWhile_eq_nil_iff.mp hnil c (List.mem_of_head? hc)
    rw [beq_iff_eq] at hzero
    exact head?_toDigits hd (hzero ▸ hc)
  refine ⟨⟨hne, fun c hc => hdigits.isDigit c (hpre.subset hc)⟩, fun hhead => ?_, fun hlast => ?_⟩
  · obtain ⟨rest, hrest⟩ := hpre
    refine head?_toDigits hd ?_
    rw [← hrest, List.head?_append, hhead, Option.some_or]
  · have hnot := List.rdropWhile_last_not (· == '0') _ hne
    rw [List.getLast?_eq_some_getLast hne, Option.some_inj] at hlast
    exact hnot (beq_iff_eq.mpr hlast)

theorem magnitude_ofDecimal (d : Decimal) : (ofDecimal d).magnitude = d.magnitude := by
  obtain ⟨k, hk⟩ := digits_ofDecimal d
  have hpoint : (ofDecimal d).point - (ofDecimal d).digits.length = k + d.exponent := by
    have hlen := congrArg List.length hk
    rw [List.length_append, List.length_replicate] at hlen
    change ((Nat.toDigits 10 d.coefficient).length : ℤ) + d.exponent - _ = _
    omega
  have hvalue : (d.coefficient : ℚ) = digitsValue (ofDecimal d).digits * 10 ^ k := by
    rw [← digitsValue_toDigits d.coefficient, hk, digitsValue_append, digitsValue_replicate,
      List.length_replicate]
    push_cast
    ring
  rw [magnitude, Decimal.magnitude, hpoint, hvalue, zpow_add₀ (by norm_num), zpow_natCast, mul_assoc]

/-- The point tells which powers of ten a number reaches. -/
theorem lt_point_iff (hd : d.coefficient ≠ 0) (k : ℤ) :
    k < (ofDecimal d).point ↔ 10 ^ k ≤ d.magnitude := by
  obtain ⟨hle, hlt⟩ := pow_length_toDigits hd
  have hpos : 0 < (Nat.toDigits 10 d.coefficient).length := Nat.length_toDigits_pos
  have hexp : (0 : ℚ) < 10 ^ d.exponent := by positivity
  change k < ((Nat.toDigits 10 d.coefficient).length : ℤ) + d.exponent ↔ _
  generalize (Nat.toDigits 10 d.coefficient).length = n at hle hlt hpos
  constructor
  · intro hk
    calc (10 : ℚ) ^ k ≤ 10 ^ (((n - 1 : ℕ) : ℤ) + d.exponent) :=
          zpow_le_zpow_right₀ (by norm_num) (by omega)
      _ = (10 ^ (n - 1) : ℕ) * 10 ^ d.exponent := by
          rw [zpow_add₀ (by norm_num), zpow_natCast]
          push_cast
          rfl
      _ ≤ d.magnitude := mul_le_mul_of_nonneg_right (by exact_mod_cast hle) hexp.le
  · intro hk
    by_contra! hn
    have : d.magnitude < 10 ^ k :=
      calc d.magnitude < (10 ^ n : ℕ) * 10 ^ d.exponent :=
            mul_lt_mul_of_pos_right (by exact_mod_cast hlt) hexp
        _ = 10 ^ ((n : ℤ) + d.exponent) := by
            rw [zpow_add₀ (by norm_num), zpow_natCast]
            push_cast
            rfl
        _ ≤ 10 ^ k := zpow_le_zpow_right₀ (by norm_num) hn
    exact absurd hk (not_le.mpr this)

/-! ## The numerals of the two layouts -/

variable {s : Significant}

/-- The numeral of digits that are laid out positionally. -/
def positionalNumeral (negative : Bool) (s : Significant) : Numeral :=
  if s.point ≤ 0 then
    ⟨negative, ['0'], some (List.replicate (-s.point).toNat '0' ++ s.digits), none⟩
  else if s.digits.length ≤ s.point then
    ⟨negative, s.digits ++ List.replicate (s.point - s.digits.length).toNat '0', none, none⟩
  else ⟨negative, s.digits.take s.point.toNat, some (s.digits.drop s.point.toNat), none⟩

/-- The numeral of digits that are laid out with a power of ten. -/
def scientificNumeral (negative : Bool) (s : Significant) : Numeral :=
  ⟨negative, s.digits.take 1, if s.digits.length ≤ 1 then none else some (s.digits.drop 1),
    some (s.point - 1)⟩

theorem negative_positionalNumeral (negative : Bool) (s : Significant) :
    (s.positionalNumeral negative).negative = negative := by
  unfold positionalNumeral
  split
  · rfl
  · split <;> rfl

theorem negative_scientificNumeral (negative : Bool) (s : Significant) :
    (s.scientificNumeral negative).negative = negative := rfl

theorem chars_positionalNumeral (negative : Bool) (s : Significant) :
    (s.positionalNumeral negative).chars = signText negative ++ s.positional := by
  rw [chars_eq, negative_positionalNumeral]
  congr 1
  unfold positionalNumeral positional unsignedChars
  split
  · simp only [fractionText, powerText, List.append_nil, List.cons_append, List.nil_append]
  · split
    · simp only [fractionText, powerText, List.append_nil]
    · simp only [fractionText, powerText, List.append_nil]

theorem mem_fraction {negative : Bool} {digits : List Char}
    (h : digits ∈ (s.scientificNumeral negative).fraction) :
    1 < s.digits.length ∧ s.digits.drop 1 = digits := by
  unfold scientificNumeral at h
  split at h
  · cases h
  · cases h
    exact ⟨by omega, rfl⟩

theorem chars_scientificNumeral (negative : Bool) (s : Significant) :
    (s.scientificNumeral negative).chars = signText negative ++ s.scientific := by
  rw [chars_eq]
  change _ ++ unsignedChars _ = _ ++ (mantissa s.digits ++ _)
  congr 1
  unfold scientificNumeral unsignedChars
  rcases s.digits with _ | ⟨d, _ | ⟨e, es⟩⟩
  · rfl
  · rfl
  · rfl

theorem isPositional_positionalNumeral (negative : Bool) (hs : s.IsProper) :
    (s.positionalNumeral negative).IsPositional := by
  have hne := hs.isDigits.ne_nil
  unfold positionalNumeral
  split
  case isTrue hp =>
    refine ⟨⟨isDigits_zero, ?_⟩, rfl, ?_, rfl⟩
    · rintro _ ⟨⟩
      refine ⟨List.append_ne_nil_of_right_ne_nil _ hne, fun c hc => ?_⟩
      rcases List.mem_append.mp hc with hc | hc
      · rw [List.eq_of_mem_replicate hc]
        decide
      · exact hs.isDigits.isDigit c hc
    · rintro _ ⟨⟩
      rw [List.getLast?_append_of_ne_nil _ hne]
      exact hs.last
  case isFalse hp =>
    split
    case isTrue hlen =>
      refine ⟨⟨hs.isDigits.append fun c hc => ?_, nofun⟩, hasLeadingZero_eq_false ?_, nofun, rfl⟩
      · rw [List.eq_of_mem_replicate hc]
        decide
      · change (s.digits ++ _).head? ≠ _
        rw [List.head?_append, List.head?_eq_some_head hne, Option.some_or, ← List.head?_eq_some_head]
        exact hs.first
    case isFalse hlen =>
      have htake : s.digits.take s.point.toNat ≠ [] := by
        rw [ne_eq, List.take_eq_nil_iff]
        exact not_or_intro (by omega) hne
      have hdrop : s.digits.drop s.point.toNat ≠ [] := by
        rw [ne_eq, List.drop_eq_nil_iff]
        omega
      refine ⟨⟨hs.isDigits.of_subset htake (List.take_subset _ _), ?_⟩, hasLeadingZero_eq_false ?_, ?_, rfl⟩
      · rintro _ ⟨⟩
        exact hs.isDigits.of_subset hdrop (List.drop_subset _ _)
      · change (s.digits.take _).head? ≠ _
        rw [List.head?_take, if_neg (by omega)]
        exact hs.first
      · rintro _ ⟨⟩
        rw [List.getLast?_drop, if_neg (by omega)]
        exact hs.last

theorem isScientific_scientificNumeral (negative : Bool) (hs : s.IsProper) (hp : s.point ≠ 1) :
    (s.scientificNumeral negative).IsScientific := by
  have hne := hs.isDigits.ne_nil
  have hlen : 0 < s.digits.length := List.length_pos_iff.mpr hne
  have htake : s.digits.take 1 ≠ [] := by
    rw [ne_eq, List.take_eq_nil_iff]
    exact not_or_intro (by decide) hne
  refine ⟨⟨hs.isDigits.of_subset htake (List.take_subset _ _), fun digits hd => ?_⟩, ?_, fun hzero => ?_,
    fun digits hd => ?_, s.point - 1, by omega, rfl⟩
  · obtain ⟨hlen', rfl⟩ := mem_fraction hd
    exact hs.isDigits.of_subset (by rw [ne_eq, List.drop_eq_nil_iff]; omega) (List.drop_subset _ _)
  · change (s.digits.take 1).length = 1
    rw [List.length_take]
    omega
  · have hhead := congrArg List.head? (show s.digits.take 1 = ['0'] from hzero)
    rw [List.head?_take, if_neg (by decide)] at hhead
    exact hs.first hhead
  · obtain ⟨hlen', rfl⟩ := mem_fraction hd
    rw [List.getLast?_drop, if_neg (by omega)]
    exact hs.last

theorem magnitude_positionalNumeral (negative : Bool) (s : Significant) :
    (s.positionalNumeral negative).toDecimal.magnitude = s.magnitude := by
  unfold positionalNumeral
  split
  case isTrue hp =>
    rw [magnitude_toDecimal, magnitude]
    congr 2
    · change digitsValue ('0' :: (List.replicate _ '0' ++ s.digits)) = _
      rw [← List.cons_append, ← List.replicate_succ, digitsValue_append, digitsValue_replicate, mul_zero,
        zero_add]
    · simp only [Option.getD_none, Option.getD_some, List.length_append, List.length_replicate]
      omega
  case isFalse hp =>
    split
    case isTrue hlen =>
      rw [magnitude_toDecimal, magnitude]
      change (digitsValue (s.digits ++ List.replicate _ '0' ++ []) : ℚ) * 10 ^ (0 : ℤ) = _
      rw [List.append_nil, digitsValue_append, digitsValue_replicate, List.length_replicate, add_zero,
        zpow_zero, mul_one, mul_comm, Nat.cast_mul, Nat.cast_pow, Nat.cast_ofNat, ← zpow_natCast,
        Int.toNat_of_nonneg (by omega)]
    case isFalse hlen =>
      rw [magnitude_toDecimal, magnitude]
      congr 2
      · change digitsValue (s.digits.take _ ++ s.digits.drop _) = _
        rw [List.take_append_drop]
      · simp only [Option.getD_none, Option.getD_some, List.length_drop]
        omega

theorem magnitude_scientificNumeral (negative : Bool) (hs : s.IsProper) :
    (s.scientificNumeral negative).toDecimal.magnitude = s.magnitude := by
  have hlen : 0 < s.digits.length := List.length_pos_iff.mpr hs.isDigits.ne_nil
  rw [magnitude_toDecimal, magnitude, scientificNumeral]
  split
  case isTrue hle =>
    congr 2
    · change digitsValue (s.digits.take 1 ++ []) = _
      rw [List.append_nil, List.take_of_length_le hle]
    · simp only [Option.getD_none, Option.getD_some, List.length_nil]
      omega
  case isFalse hle =>
    congr 2
    · change digitsValue (s.digits.take 1 ++ s.digits.drop 1) = _
      rw [List.take_append_drop]
    · simp only [Option.getD_some, List.length_drop]
      omega

end Significant

end FormLang.Binary64
