import FormLang.Decimal.Increment
import FormLang.Proofs.Decimal.Placed
import FormLang.Proofs.Text.Case

/-!
# The next numeral

Adding one to the last digit carries through the nines before it: digits keep their count, and a carry that
leaves them stands for one more place (`carry_digits`). So the next numeral has as many places, and its value
is larger by one unit of the last place (`increment_unsignedChars`).
-/

namespace FormLang.Decimal

open Numeral

variable {ds es : List Char}

/-! ## Carrying -/

/-- The carry of the last characters runs into the first ones. -/
theorem carry_append (ds es : List Char) :
    carry (ds ++ es) =
      if (carry es).2 then ((carry ds).1 ++ (carry es).1, (carry ds).2) else (ds ++ (carry es).1, false) := by
  induction ds with
  | nil =>
    rcases h : carry es with ⟨es', _ | _⟩
    · simp [h]
    · simp [carry, h]
  | cons c ds ih =>
    rw [List.cons_append, carry, ih, carry]
    cases (carry es).2 with
    | false => rfl
    | true =>
      rcases carry ds with ⟨ds', _ | _⟩
      · rfl
      · dsimp only
        simp only [if_true]
        split
        · rfl
        · split <;> rfl

theorem carry_point (cs : List Char) : carry ('.' :: cs) = ('.' :: (carry cs).1, (carry cs).2) := by
  rw [carry]
  rcases carry cs with ⟨cs', _ | _⟩ <;> rfl

/-- The digits after carrying are as many, and one more than before; a carry that leaves them stands for one more
place. -/
theorem carry_digits (hd : ∀ c ∈ ds, c.isDigit = true) :
    (carry ds).1.length = ds.length ∧ (∀ c ∈ (carry ds).1, c.isDigit = true) ∧
      digitsValue (carry ds).1 + (if (carry ds).2 then 10 ^ ds.length else 0) = digitsValue ds + 1 := by
  induction ds with
  | nil => exact ⟨rfl, nofun, rfl⟩
  | cons c ds ih =>
    obtain ⟨hlen, hdigits, hvalue⟩ := ih fun d h => hd d (List.mem_cons_of_mem c h)
    have hc : c.isDigit = true := hd c List.mem_cons_self
    have hbounds := toNat_of_isDigit hc
    have hdigit (d : Char) (h : d.isDigit = true) : ∀ b ∈ d :: (carry ds).1, b.isDigit = true :=
      List.forall_mem_cons.mpr ⟨h, hdigits⟩
    rw [carry]
    rcases hcarry : carry ds with ⟨ds', _ | _⟩
    · rw [hcarry] at hlen hdigit hvalue
      refine ⟨congrArg (· + 1) hlen, hdigit c hc, ?_⟩
      simp only [Bool.false_eq_true, if_false, Nat.add_zero] at hvalue ⊢
      rw [digitsValue_cons, digitsValue_cons, hvalue, hlen, Nat.add_assoc]
    · rw [hcarry] at hlen hdigit hvalue
      simp only [if_true] at hvalue
      dsimp only
      split
      · rename_i hpoint
        rw [hpoint] at hc
        cases hc
      · split
        · rename_i hnine
          refine ⟨congrArg (· + 1) hlen, hdigit '0' rfl, ?_⟩
          rw [hnine, digitsValue_cons, digitsValue_cons, hlen, List.length_cons, Nat.pow_succ]
          simp
          omega
        · rename_i hnine
          have hlt : c.toNat < 0x39 := by
            refine Nat.lt_of_le_of_ne hbounds.2 fun heq => hnine ?_
            exact Char.toNat_inj.mp heq
          have hnext : (Char.ofNat (c.toNat + 1)).toNat = c.toNat + 1 :=
            Text.toNat_ofNat (by unfold Nat.isValidChar; omega)
          refine ⟨congrArg (· + 1) hlen, hdigit _ (isDigit_of_toNat (by omega) (by omega)), ?_⟩
          have hstep : c.toNat + 1 - 0x30 = c.toNat - 0x30 + 1 := by omega
          simp only [Bool.false_eq_true, if_false, Nat.add_zero]
          rw [digitsValue_cons, digitsValue_cons, hnext, hlen, hstep, Nat.mul_add]
          omega

/-- A carry leaves a text if and only if the text holds nothing but nines and points. -/
theorem carry_leaves_iff (cs : List Char) : (carry cs).2 = true ↔ ∀ c ∈ cs, c = '.' ∨ c = '9' := by
  induction cs with
  | nil => exact ⟨fun _ => nofun, fun _ => rfl⟩
  | cons c cs ih =>
    rw [List.forall_mem_cons, ← ih, carry]
    rcases carry cs with ⟨cs', _ | _⟩
    · simp
    · dsimp only
      split
      · simp [*]
      · split <;> simp [*]

/-- What carrying makes of a fraction is as long, and one unit of its last place more; without places, the unit
is carried on. -/
theorem carry_fractionText {fraction : Option (List Char)}
    (hf : ∀ c ∈ fraction.getD [], c.isDigit = true) :
    ∃ fraction', (carry (fractionText fraction)).1 = fractionText fraction' ∧
      (∀ c ∈ fraction'.getD [], c.isDigit = true) ∧ fraction'.map List.length = fraction.map List.length ∧
      digitsValue (fraction'.getD []) +
          (if (carry (fractionText fraction)).2 then 10 ^ (fraction.getD []).length else 0) =
        digitsValue (fraction.getD []) + 1 := by
  cases fraction with
  | none => exact ⟨none, rfl, nofun, rfl, rfl⟩
  | some digits =>
    obtain ⟨hlen, hdigits, hvalue⟩ := carry_digits hf
    rw [fractionText, carry_point]
    exact ⟨some (carry digits).1, rfl, hdigits, congrArg some hlen, hvalue⟩

/-! ## The next numeral -/

theorem increment_append (ds es : List Char) :
    increment (ds ++ es) = (if (carry es).2 then increment ds else ds) ++ (carry es).1 := by
  rw [increment, carry_append, increment]
  rcases carry es with ⟨es', _ | _⟩
  · rfl
  · rcases carry ds with ⟨ds', _ | _⟩ <;> rfl

/-- The digits of the next number: one more only if a carry leaves them. -/
theorem increment_digits (hd : ∀ c ∈ ds, c.isDigit = true) :
    (∀ c ∈ increment ds, c.isDigit = true) ∧ digitsValue (increment ds) = digitsValue ds + 1 ∧
      (increment ds).length = ds.length + if (carry ds).2 then 1 else 0 := by
  obtain ⟨hlen, hdigits, hvalue⟩ := carry_digits hd
  rw [increment]
  rcases hc : carry ds with ⟨ds', _ | _⟩
  · rw [hc] at hlen hdigits hvalue
    exact ⟨hdigits, hvalue, hlen⟩
  · rw [hc] at hlen hdigits hvalue
    have hone : digitsValue ('1' :: ds') = 10 ^ ds.length + digitsValue ds' := by
      rw [digitsValue_cons, hlen]
      exact congrArg (· + digitsValue ds') (Nat.mul_one _)
    refine ⟨List.forall_mem_cons.mpr ⟨rfl, hdigits⟩, ?_, congrArg (· + 1) hlen⟩
    rw [hone, ← hvalue, if_pos rfl, Nat.add_comm]

/-- The digits of the next number do not become more, or the number has as many. -/
theorem length_increment_or (hd : ∀ c ∈ ds, c.isDigit = true) :
    (increment ds).length = ds.length ∨ 10 ^ ((increment ds).length - 1) ≤ digitsValue (increment ds) := by
  obtain ⟨-, hnext, hlen⟩ := increment_digits hd
  obtain ⟨-, -, hvalue⟩ := carry_digits hd
  cases hc : (carry ds).2 with
  | false => exact .inl (by simpa [hc] using hlen)
  | true =>
    rw [hc, if_pos rfl] at hlen hvalue
    rw [hlen, hnext, ← hvalue, Nat.add_sub_cancel]
    exact .inr (Nat.le_add_left _ _)

/-- A fraction with as many places as a fraction of digits has digits as well. -/
theorem isDigits_of_length_eq {fraction fraction' : Option (List Char)}
    (hf : ∀ digits ∈ fraction, IsDigits digits) (hd : ∀ c ∈ fraction'.getD [], c.isDigit = true)
    (hlen : fraction'.map List.length = fraction.map List.length) : ∀ digits ∈ fraction', IsDigits digits := by
  rintro digits' rfl
  obtain ⟨digits, rfl, heq⟩ := Option.map_eq_some_iff.mp hlen.symm
  refine ⟨List.ne_nil_of_length_pos ?_, hd⟩
  rw [← heq]
  exact List.length_pos_iff.mpr (hf digits rfl).ne_nil

/-- The next numeral has as many places, and its value is larger by one unit of the last place. -/
theorem increment_unsignedChars {places n : Nat} {m : Numeral} (h : m.IsPlaced places n) :
    ∃ m' : Numeral, m'.IsPlaced places (n + 1) ∧ increment m.unsignedChars = m'.unsignedChars := by
  obtain ⟨hdigits, hvaluew, hlenw⟩ := increment_digits h.whole.isDigit
  obtain ⟨fraction', htext, hdigitsf, hmap, hvaluef⟩ :=
    carry_fractionText (isDigit_of_mem_fraction h.toIsWellFormed)
  have hfraction := isDigits_of_length_eq h.fraction hdigitsf hmap
  have hlenf : (fraction'.getD []).length = places := by
    rw [← h.length_fraction, ← Option.getD_map List.length [] fraction', hmap, Option.getD_map]
  have hchars : m.unsignedChars = m.whole ++ fractionText m.fraction := by
    rw [unsignedChars, h.power, powerText, List.append_nil]
  rw [h.length_fraction] at hvaluef
  have hv := h.value
  rw [digitsValue_append, h.length_fraction] at hv
  rw [hchars, increment_append, htext]
  cases hcarry : (carry (fractionText m.fraction)).2 with
  | false =>
    rw [hcarry] at hvaluef
    refine ⟨⟨m.negative, m.whole, fraction', none⟩, ⟨⟨h.whole, hfraction⟩, h.leading, hlenf, rfl, ?_⟩, ?_⟩
    · rw [digitsValue_append, hlenf, ← hv, Nat.add_assoc, ← hvaluef]
      rfl
    · rw [unsignedChars, powerText, List.append_nil]
      rfl
  | true =>
    rw [hcarry] at hvaluef
    have hnext : IsDigits (increment m.whole) := by
      refine ⟨List.ne_nil_of_length_pos ?_, hdigits⟩
      have := List.length_pos_iff.mpr h.whole.ne_nil
      omega
    refine ⟨⟨m.negative, increment m.whole, fraction', none⟩, ⟨⟨hnext, hfraction⟩, ?_, hlenf, rfl, ?_⟩, ?_⟩
    · have hlead := (hasLeadingZero_eq_false_iff h.whole).mp h.leading
      refine (hasLeadingZero_eq_false_iff hnext).mpr
        ((length_increment_or h.whole.isDigit).elim (fun hlen => ?_) .inr)
      dsimp only
      rw [hlen, hvaluew]
      exact hlead.imp_right fun hle => Nat.le_succ_of_le hle
    · rw [digitsValue_append, hlenf, hvaluew, ← hv, Nat.add_assoc, ← hvaluef, if_pos rfl]
      grind
    · rw [unsignedChars, powerText, List.append_nil]
      rfl

end FormLang.Decimal
