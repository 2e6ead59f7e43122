import FormLang.Binary64.Fixed
import FormLang.Proofs.Binary64.Equality
import FormLang.Proofs.Binary64.NearTie
import FormLang.Proofs.Decimal.Increment

/-!
# Numbers with a fixed number of decimal places

With at most a hundred places, thirty places more tell ties from other numbers, so that the text is the exact
one:

* `isPlaced_placed`, `increment_placed`: units of the last place are written as a numeral, and the next numeral
  is the one of one unit more;
* `Finite.fixedDigits_eq`: the digits are those of the nearest count of units, and of the greater one if two are
  equally near (`Finite.inPlaces`);
* `fixed_exact`: the sign and the digits of a number below `10 ^ 21`.
-/

namespace FormLang.Binary64

open Numeral (IsPlaced IsDigits digitsValue)

variable {places n : ℕ} {x : Finite}

/-! ## Numerals of units of the last place -/

/-- A numeral from its digits, with a point before the last ones of them. -/
def pointed (negative : Bool) (places : ℕ) (digits : List Char) : Numeral where
  negative
  whole := digits.take (digits.length - places)
  fraction := if places = 0 then none else some (digits.drop (digits.length - places))
  power := none

theorem isPlaced_pointed {digits : List Char} (negative : Bool) (hd : ∀ c ∈ digits, c.isDigit = true)
    (hlen : places < digits.length)
    (hlead : digits.length = places + 1 ∨ 10 ^ (digits.length - 1) ≤ digitsValue digits) :
    (pointed negative places digits).IsPlaced places (digitsValue digits) := by
  have htake : (digits.take (digits.length - places)).length = digits.length - places := by
    rw [List.length_take]
    omega
  have hdrop : (digits.drop (digits.length - places)).length = places := by
    rw [List.length_drop]
    omega
  have hwhole : IsDigits (digits.take (digits.length - places)) :=
    ⟨List.ne_nil_of_length_pos (by omega), fun c hc => hd c (List.mem_of_mem_take hc)⟩
  have hfraction : (pointed negative places digits).fraction.getD [] = digits.drop (digits.length - places) := by
    unfold pointed
    split
    · rename_i hp
      rw [hp, Nat.sub_zero, List.drop_length]
      rfl
    · rfl
  refine ⟨⟨hwhole, ?_⟩, ?_, ?_, rfl, ?_⟩
  · intro ds hds
    unfold pointed at hds
    split at hds
    · cases hds
    · cases hds
      exact ⟨List.ne_nil_of_length_pos (by omega), fun c hc => hd c (List.mem_of_mem_drop hc)⟩
  · refine (Numeral.hasLeadingZero_eq_false_iff hwhole).mpr ?_
    change (digits.take (digits.length - places)).length = 1 ∨
      10 ^ ((digits.take (digits.length - places)).length - 1) ≤ digitsValue (digits.take (digits.length - places))
    rw [htake, Numeral.digitsValue_take hd]
    refine hlead.imp (fun h => by omega) fun h => ?_
    rw [show digits.length - (digits.length - places) = places by omega, Nat.le_div_iff_mul_le (by positivity),
      ← pow_add]
    rwa [show digits.length - places - 1 + places = digits.length - 1 by omega]
  · rw [hfraction, hdrop]
  · rw [hfraction]
    exact congrArg digitsValue (List.take_append_drop _ digits)

theorem unsignedChars_pointed (negative : Bool) (places : ℕ) (digits : List Char) :
    (pointed negative places digits).unsignedChars =
      if places = 0 then digits
      else digits.take (digits.length - places) ++ '.' :: digits.drop (digits.length - places) := by
  rw [Numeral.unsignedChars, pointed]
  dsimp only
  rw [Numeral.powerText, List.append_nil]
  split
  · rename_i hp
    rw [hp, Nat.sub_zero, List.take_length, Numeral.fractionText, List.append_nil]
  · rfl

/-- Units of the last place are written as a numeral. -/
theorem isPlaced_placed (negative : Bool) (places n : ℕ) :
    ∃ m : Numeral, m.IsPlaced places n ∧ m.negative = negative ∧ placed places n = m.unsignedChars := by
  have hdigits := Numeral.isDigits_toDigits n
  have hpos : 0 < (Nat.toDigits 10 n).length := Nat.length_toDigits_pos
  generalize hpad : List.replicate (places + 1 - (Nat.toDigits 10 n).length) '0' ++ Nat.toDigits 10 n = padded
  have hlen : padded.length = places + 1 - (Nat.toDigits 10 n).length + (Nat.toDigits 10 n).length := by
    rw [← hpad, List.length_append, List.length_replicate]
  have hvalue : digitsValue padded = n := by
    rw [← hpad, Numeral.digitsValue_append, Numeral.digitsValue_replicate, Numeral.digitsValue_toDigits, mul_zero,
      zero_add]
  have hd : ∀ c ∈ padded, c.isDigit = true := by
    rw [← hpad]
    exact List.forall_mem_append.mpr ⟨Numeral.isDigit_of_mem_replicate, hdigits.isDigit⟩
  have hlead : padded.length = places + 1 ∨ 10 ^ (padded.length - 1) ≤ digitsValue padded := by
    rcases Nat.lt_or_ge (places + 1) (Nat.toDigits 10 n).length with h | h
    · right
      have hn : n ≠ 0 := by
        rintro rfl
        simp at h
      rw [hvalue, hlen, Nat.sub_eq_zero_of_le h.le, zero_add]
      exact (Numeral.pow_length_toDigits hn).1
    · left
      omega
  refine ⟨pointed negative places padded, hvalue ▸ isPlaced_pointed negative hd (by omega) hlead, rfl, ?_⟩
  rw [unsignedChars_pointed, placed, hpad]

/-- The next numeral is the one of one unit more. -/
theorem increment_placed (places n : ℕ) : Decimal.increment (placed places n) = placed places (n + 1) := by
  obtain ⟨m, hm, -, htext⟩ := isPlaced_placed false places n
  obtain ⟨m', hm', hnext⟩ := Decimal.increment_unsignedChars hm
  obtain ⟨m'', hm'', -, htext'⟩ := isPlaced_placed false places (n + 1)
  rw [htext, hnext, htext', hm'.unsignedChars_eq hm'']

/-! ## More places than wanted -/

/-- Digits are a five and zeros if their value is half of what their places allow. -/
theorem isHalf_iff {digits : List Char} {k : ℕ} (hd : ∀ c ∈ digits, c.isDigit = true)
    (hlen : digits.length = k + 1) : isHalf digits = true ↔ digitsValue digits = 5 * 10 ^ k := by
  have hhalf : isHalf digits = true ↔ digits = '5' :: List.replicate k '0' := by
    cases digits with
    | nil => cases hlen
    | cons d ds =>
      rw [isHalf, Bool.and_eq_true, beq_iff_eq, List.all_eq_true, List.cons.injEq, List.eq_replicate_iff]
      have : ds.length = k := Nat.succ.inj hlen
      simp [this]
  have hvalue : digitsValue ('5' :: List.replicate k '0') = 5 * 10 ^ k := by
    rw [Numeral.digitsValue_cons, Numeral.digitsValue_replicate, List.length_replicate, add_zero, mul_comm]
    rfl
  rw [hhalf]
  constructor
  · rintro rfl
    exact hvalue
  · intro h
    refine Numeral.eq_of_digitsValue hd (List.forall_mem_cons.mpr ⟨rfl, Numeral.isDigit_of_mem_replicate⟩) ?_
      (h.trans hvalue.symm)
    rw [hlen, List.length_cons, List.length_replicate]

/-- The text before the digits of the places that are too many. -/
theorem take_pointed {whole digits : List Char} (hw : IsDigits whole) (hd : ∀ c ∈ digits, c.isDigit = true)
    (hlen : places ≤ digits.length)
    (hlead : whole.length = 1 ∨ 10 ^ (whole.length - 1) ≤ digitsValue whole) :
    (whole ++ '.' :: digits).take (if places = 0 then whole.length else whole.length + 1 + places) =
      placed places (digitsValue (whole ++ digits) / 10 ^ (digits.length - places)) := by
  have hpos := List.length_pos_iff.mpr hw.ne_nil
  have htake : (digits.take places).length = places := List.length_take_of_le hlen
  have hlength : (whole ++ digits.take places).length = whole.length + places := by
    rw [List.length_append, htake]
  have hvalue : digitsValue (whole ++ digits) / 10 ^ (digits.length - places) =
      digitsValue (whole ++ digits.take places) := by
    rw [← List.take_length_add_append, Numeral.digitsValue_take (hw.append hd).isDigit, List.length_append,
      Nat.add_sub_add_left]
  have hdigits : ∀ c ∈ whole ++ digits.take places, c.isDigit = true :=
    (hw.append fun c hc => hd c (List.mem_of_mem_take hc)).isDigit
  have hlead' : (whole ++ digits.take places).length = places + 1 ∨
      10 ^ ((whole ++ digits.take places).length - 1) ≤ digitsValue (whole ++ digits.take places) := by
    refine hlead.imp (fun h => by omega) fun h => ?_
    rw [hlength, Numeral.digitsValue_append, htake,
      show whole.length + places - 1 = places + (whole.length - 1) by omega, pow_add]
    exact Nat.le_add_right_of_le (Nat.mul_le_mul_left _ h)
  have hplaced := isPlaced_pointed false hdigits (by omega) hlead'
  obtain ⟨m, hm, -, htext⟩ := isPlaced_placed false places (digitsValue (whole ++ digits.take places))
  rw [hvalue, htext, hm.unsignedChars_eq hplaced, unsignedChars_pointed, hlength, Nat.add_sub_cancel]
  split
  · rename_i hp
    rw [List.take_left' rfl, hp, List.take_zero, List.append_nil]
  · rw [Nat.add_assoc, List.take_length_add_append, Nat.add_comm 1, List.take_succ_cons, List.take_left' rfl,
      List.drop_left' rfl]

/-- The digits of the places that are too many. -/
theorem drop_pointed {whole digits : List Char} (hd : ∀ c ∈ digits, c.isDigit = true) :
    ((whole ++ '.' :: digits).drop (if places = 0 then whole.length else whole.length + 1 + places)).dropWhile
      (· == '.') = digits.drop places := by
  have hnone : ∀ ds : List Char, (∀ c ∈ ds, c.isDigit = true) → ds.dropWhile (· == '.') = ds := by
    intro ds hds
    cases ds with
    | nil => rfl
    | cons c cs =>
      refine List.dropWhile_cons_of_neg fun h => ?_
      have hc := hds c List.mem_cons_self
      rw [eq_of_beq h] at hc
      cases hc
  split
  · rename_i hp
    rw [List.drop_left', hp, List.drop_zero]
    · exact hnone digits hd
    · rfl
  · rw [Nat.add_assoc, List.drop_length_add_append, Nat.add_comm 1, List.drop_succ_cons]
    exact hnone _ fun c hc => hd c (List.mem_of_mem_drop hc)

/-- Thirty more places can be cut off a numeral, and tell whether its rest is half a unit of the last place that
is left. -/
theorem cut_placed (places w : ℕ) :
    let wide := placed (places + guardPlaces) w
    let cut := if places = 0 then wide.idxOf '.' else wide.idxOf '.' + 1 + places
    wide.take cut = placed places (w / 10 ^ guardPlaces) ∧
      (isHalf ((wide.drop cut).dropWhile (· == '.')) = true ↔ w % 10 ^ guardPlaces = 5 * 10 ^ 29) := by
  intro wide cut
  obtain ⟨m, hm, -, htext⟩ := isPlaced_placed false (places + guardPlaces) w
  obtain ⟨digits, hchars, hd, hlen, hvalue⟩ := hm.unsignedChars_of_pos (by unfold guardPlaces; omega)
  have hmore : digits.length - places = guardPlaces := by omega
  have hwide : wide = m.whole ++ '.' :: digits := htext.trans hchars
  have hcut : cut = if places = 0 then m.whole.length else m.whole.length + 1 + places := by
    have hnot : '.' ∉ m.whole := fun h => absurd (hm.whole.isDigit _ h) (by decide)
    have hpoint : wide.idxOf '.' = m.whole.length := by
      rw [hwide, List.idxOf_append_of_notMem hnot, List.idxOf_cons_self, Nat.add_zero]
    rw [← hpoint]
  have htail : digitsValue (digits.drop places) = w % 10 ^ guardPlaces := by
    have hdrop : (m.whole ++ digits).drop (m.whole.length + places) = digits.drop places :=
      List.drop_length_add_append places
    rw [← hdrop, Numeral.digitsValue_drop (hm.whole.append hd).isDigit, hvalue, List.length_append,
      Nat.add_sub_add_left, hmore]
  have htaken : (digits.drop places).length = 29 + 1 := by
    rw [List.length_drop, hmore]
    rfl
  rw [hwide, hcut]
  constructor
  · rw [take_pointed hm.whole hd (by omega) ((Numeral.hasLeadingZero_eq_false_iff hm.whole).mp hm.leading), hvalue,
      hmore]
  · rw [drop_pointed hd, ← htail]
    exact isHalf_iff (fun c hc => hd c (List.mem_of_mem_drop hc)) htaken

/-! ## Rounding with more places -/

/-- The distance from zero counted in units of the last place, a half away from zero. -/
def Finite.inPlaces (places : ℕ) (x : Finite) : ℕ :=
  (2 * (x.units * 10 ^ places) + unitsOfOne) / (2 * unitsOfOne)

theorem roundHalfEven_close (num : ℕ) {den : ℕ} (hd : 0 < den) :
    |(2 * num : ℤ) - 2 * roundHalfEven num den * den| ≤ den := by
  have hd' : (0 : ℚ) < den := by exact_mod_cast hd
  have hclose := (roundHalfEven_spec num hd).1
  have hscale : (2 * num - 2 * roundHalfEven num den * den : ℚ) =
      2 * den * (num / den - roundHalfEven num den) := by
    field_simp
  have : |(2 * num - 2 * roundHalfEven num den * den : ℚ)| ≤ den := by
    rw [hscale, abs_mul, abs_of_pos (by positivity)]
    nlinarith
  exact_mod_cast this

theorem roundHalfEven_mul_right (n : ℕ) {den : ℕ} (hd : 0 < den) : roundHalfEven (n * den) den = n := by
  rw [roundHalfEven, Nat.mul_mod_left, Nat.mul_div_cancel _ hd]
  exact if_pos hd

/-- Without a tie, half of the denominator makes a quotient the nearest number. -/
theorem roundHalfEven_of_not_tie {num den : ℕ} (hd : 0 < den)
    (h : ∀ k, 2 * num ≠ (2 * k + 1) * den) : roundHalfEven num den = (2 * num + den) / (2 * den) := by
  have hsplit := Nat.div_add_mod num den
  have hlt := Nat.mod_lt num hd
  have hne := h (num / den)
  rw [roundHalfEven]
  generalize num / den = q at hsplit hne
  generalize num % den = r at hsplit hlt
  have hodd : (2 * q + 1) * den = 2 * (den * q) + den := by ring
  split
  · refine (Nat.div_eq_of_lt_le ?_ ?_).symm
    · rw [show q * (2 * den) = 2 * (den * q) by ring]
      omega
    · rw [show (q + 1) * (2 * den) = 2 * (den * q) + 2 * den by ring]
      omega
  · split
    · omega
    · refine (Nat.div_eq_of_lt_le ?_ ?_).symm
      · rw [show (q + 1) * (2 * den) = 2 * (den * q) + 2 * den by ring]
        omega
      · rw [show (q + 1 + 1) * (2 * den) = 2 * (den * q) + 4 * den by ring]
        omega

namespace Finite

/-- Thirty more places of a tie are a five and zeros. -/
theorem wide_of_tie {k : ℕ} (h : 2 * (x.units * 10 ^ places) = (2 * k + 1) * unitsOfOne) :
    roundHalfEven (x.units * 10 ^ (places + guardPlaces)) unitsOfOne = (2 * k + 1) * (5 * 10 ^ 29) := by
  have hmul : x.units * 10 ^ (places + guardPlaces) = (2 * k + 1) * (5 * 10 ^ 29) * unitsOfOne := by
    rw [show guardPlaces = 30 from rfl, pow_add]
    calc x.units * (10 ^ places * 10 ^ 30) = 2 * (x.units * 10 ^ places) * (5 * 10 ^ 29) := by ring
      _ = (2 * k + 1) * (5 * 10 ^ 29) * unitsOfOne := by rw [h]; ring
  rw [hmul, roundHalfEven_mul_right _ zero_lt_unitsOfOne]

/-- Thirty more places are a five and zeros only for ties. -/
theorem tie_of_wide (x : Finite) (hp : places ≤ 100)
    (h : roundHalfEven (x.units * 10 ^ (places + guardPlaces)) unitsOfOne % 10 ^ guardPlaces = 5 * 10 ^ 29) :
    ∃ k, 2 * (x.units * 10 ^ places) = (2 * k + 1) * unitsOfOne := by
  rw [show guardPlaces = 30 from rfl, pow_add, ← mul_assoc] at h
  have hclose := roundHalfEven_close (x.units * 10 ^ places * 10 ^ 30) zero_lt_unitsOfOne
  generalize roundHalfEven (x.units * 10 ^ places * 10 ^ 30) unitsOfOne = w at h hclose
  have hw : 2 * w = (2 * (w / 10 ^ 30) + 1) * 10 ^ 30 := by omega
  refine ⟨w / 10 ^ 30, x.eq_of_near_tie hp (Nat.succ_pos _) ?_⟩
  have hw' : (2 * w : ℤ) = (2 * (w / 10 ^ 30 : ℕ) + 1 : ℕ) * 10 ^ 30 := by exact_mod_cast hw
  generalize 2 * (w / 10 ^ 30) + 1 = n at hw'
  have hscale : (2 * (x.units * 10 ^ places * 10 ^ 30 : ℕ) - 2 * w * unitsOfOne : ℤ) =
      (2 * (x.units * 10 ^ places) - n * unitsOfOne) * 10 ^ 30 := by
    rw [hw']
    push_cast
    ring
  rwa [hscale, abs_mul, abs_of_pos (show (0 : ℤ) < 10 ^ 30 by positivity)] at hclose

theorem inPlaces_of_tie {k : ℕ} (h : 2 * (x.units * 10 ^ places) = (2 * k + 1) * unitsOfOne) :
    x.inPlaces places = k + 1 := by
  have hU := zero_lt_unitsOfOne
  rw [inPlaces, h, show (2 * k + 1) * unitsOfOne + unitsOfOne = (k + 1) * (2 * unitsOfOne) by ring]
  exact Nat.mul_div_cancel _ (by omega)

/-- The digits are those of the nearest count of units of the last place. -/
theorem fixedDigits_eq (x : Finite) (hp : places ≤ 100) :
    x.fixedDigits places = placed places (x.inPlaces places) := by
  unfold fixedDigits
  rw [rounded]
  generalize hw : roundHalfEven (x.units * 10 ^ (places + guardPlaces)) unitsOfOne = w
  obtain ⟨hhead, hhalf⟩ := cut_placed places w
  dsimp only
  rw [hhead]
  by_cases h : w % 10 ^ guardPlaces = 5 * 10 ^ 29
  · rw [if_pos (hhalf.mpr h)]
    obtain ⟨k, hk⟩ := x.tie_of_wide hp (hw ▸ h)
    rw [wide_of_tie hk] at hw
    rw [increment_placed, inPlaces_of_tie hk, ← hw, show guardPlaces = 30 from rfl]
    congr 1
    omega
  · rw [if_neg (mt hhalf.mp h), rounded, inPlaces, roundHalfEven_of_not_tie zero_lt_unitsOfOne fun k hk => h ?_]
    rw [← hw, wide_of_tie hk, show guardPlaces = 30 from rfl]
    omega

/-! ## The nearest numeral -/

theorem isBelowFixedLimit_iff : x.isBelowFixedLimit = true ↔ |x.toRat| < 10 ^ 21 := by
  rw [isBelowFixedLimit, decide_eq_true_eq, abs_toRat, div_lt_iff₀ unitsOfOne_pos]
  generalize unitsOfOne = u
  exact_mod_cast Iff.rfl

theorem toRat_eq_zero_iff : x.toRat = 0 ↔ x.isZero = true := by
  rw [← signedUnits_eq_zero_iff, toRat, div_eq_zero_iff, or_iff_left unitsOfOne_pos.ne', Int.cast_eq_zero]

theorem toRat_neg_iff : x.toRat < 0 ↔ (x.negative && !x.isZero) = true := by
  have hzero := signedUnits_eq_zero_iff (x := x)
  rw [toRat, div_lt_iff₀ unitsOfOne_pos, zero_mul, Int.cast_lt_zero, Bool.and_eq_true, Bool.not_eq_true',
    ← Bool.not_eq_true, ← hzero, signedUnits]
  cases x.negative with
  | false => simp
  | true =>
    simp only [if_true, true_and]
    omega

/-- The count of units of the last place is the distance from zero with a half added and its fraction left out. -/
theorem inPlaces_bounds (x : Finite) (places : ℕ) :
    x.inPlaces places ≤ |x.toRat| * 10 ^ places + 1 / 2 ∧
      |x.toRat| * 10 ^ places + 1 / 2 < x.inPlaces places + 1 := by
  have hU := unitsOfOne_pos
  rw [abs_toRat, inPlaces]
  generalize unitsOfOne = u at hU
  have hU' : 0 < 2 * u := by exact_mod_cast mul_pos two_pos hU
  have hlow := Nat.div_mul_le_self (2 * (x.units * 10 ^ places) + u) (2 * u)
  have hhigh := Nat.lt_mul_of_div_lt (Nat.lt_succ_self ((2 * (x.units * 10 ^ places) + u) / (2 * u))) hU'
  have hscale : (x.units / u * 10 ^ places + 1 / 2 : ℚ) = (2 * (x.units * 10 ^ places) + u) / (2 * u) := by
    field_simp
  rw [hscale, le_div_iff₀ (by positivity), div_lt_iff₀ (by positivity)]
  exact ⟨by exact_mod_cast hlow, by exact_mod_cast hhigh⟩

end Finite

/-- A count of units of the last place is nearest to a value: no other count is nearer, and it is the greatest of
those that are equally near. -/
def IsNearestPlaced (places : ℕ) (q : ℚ) (n : ℕ) : Prop :=
  ∀ k : ℤ, |n / 10 ^ places - q| ≤ |k / 10 ^ places - q| ∧
    (|k / 10 ^ places - q| = |n / 10 ^ places - q| → k ≤ n)

theorem isNearestPlaced_of_bounds {q : ℚ} (hlow : n ≤ q * 10 ^ places + 1 / 2)
    (hhigh : q * 10 ^ places + 1 / 2 < n + 1) : IsNearestPlaced places q n := by
  have hpos : (0 : ℚ) < 10 ^ places := by positivity
  have hscale (r : ℚ) : |r / 10 ^ places - q| = |q * 10 ^ places - r| / 10 ^ places := by
    rw [abs_sub_comm, eq_div_iff hpos.ne', ← abs_of_pos hpos, ← abs_mul, abs_of_pos hpos, sub_mul,
      div_mul_cancel₀ _ hpos.ne']
  have hclose : |q * 10 ^ places - (n : ℤ)| ≤ 1 / 2 := by
    rw [Int.cast_natCast, abs_le]
    constructor <;> linarith
  intro k
  rw [hscale, hscale]
  constructor
  · refine div_le_div_of_nonneg_right ?_ hpos.le
    by_cases hk : k = n
    · rw [hk, Int.cast_natCast]
    · exact hclose.trans (half_le_abs_sub hclose hk)
  · intro heq
    rw [div_left_inj' hpos.ne'] at heq
    by_contra! hk
    have hk' : (n : ℚ) + 1 ≤ k := by exact_mod_cast hk
    rw [abs_sub_comm, abs_of_pos (by linarith)] at heq
    linarith [heq.trans_le hclose]

/-- The text of a number below `10 ^ 21` is its sign and its count of units of the last place as a numeral. -/
theorem exists_numeral_fixed (hx : |x.toRat| < 10 ^ 21) (hp : places ≤ 100) :
    ∃ m : Numeral, m.IsPlaced places (x.inPlaces places) ∧ m.negative = decide (x.toRat < 0) ∧
      fixed places (.finite x) = m.chars := by
  obtain ⟨m, hm, hnegative, htext⟩ := isPlaced_placed (decide (x.toRat < 0)) places (x.inPlaces places)
  have hsign : decide (x.toRat < 0) = (x.negative && !x.isZero) := by
    rw [Bool.eq_iff_iff, decide_eq_true_eq, Finite.toRat_neg_iff]
  refine ⟨m, hm, hnegative, ?_⟩
  rw [fixed, if_pos (Finite.isBelowFixedLimit_iff.mpr hx), x.fixedDigits_eq hp, htext, chars_eq, hnegative, hsign]

/-- The text of a number below `10 ^ 21` with up to a hundred places is the numeral of its nearest count of units
of the last place, the greatest one of those that are equally near, with exactly that many places and no zero
that could be left out at the start. It has a minus sign if and only if the number is negative. -/
theorem fixed_exact {x : Finite} {places : ℕ} (hx : |x.toRat| < 10 ^ 21) (hp : places ≤ 100) :
    ∃ (n : ℕ) (m : Numeral), IsNearestPlaced places |x.toRat| n ∧ m.IsPlaced places n ∧
      (m.negative = true ↔ x.toRat < 0) ∧ fixed places (.finite x) = m.chars := by
  obtain ⟨m, hm, hsign, htext⟩ := exists_numeral_fixed hx hp
  have hbounds := x.inPlaces_bounds places
  refine ⟨x.inPlaces places, m, isNearestPlaced_of_bounds hbounds.1 hbounds.2, hm, ?_, htext⟩
  rw [hsign, decide_eq_true_eq]

/-- The number `-0.125` is a tie with two places, and is rounded away from zero. -/
theorem fixed_minus_eighth :
    ∃ x, ofDecimal ⟨true, 125, -3⟩ = .finite x ∧ |x.toRat| < 10 ^ 21 ∧ fixed 2 (.finite x) = "-0.13".toList ∧
      ∃ (n : ℕ) (m : Numeral), IsNearestPlaced 2 |x.toRat| n ∧ m.IsPlaced 2 n ∧
        (m.negative = true ↔ x.toRat < 0) ∧ fixed 2 (.finite x) = m.chars := by
  have hx : |(⟨true, 2 ^ 52, 1019, by decide, by decide, .inr le_rfl⟩ : Finite).toRat| < 10 ^ 21 :=
    Finite.isBelowFixedLimit_iff.mp (by decide +kernel)
  exact ⟨_, by decide +kernel, hx, by decide +kernel, fixed_exact hx (by decide)⟩

end FormLang.Binary64
