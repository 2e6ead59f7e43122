import FormLang.Proofs.Decimal.Numeral

/-!
# Numerals with a number of places

A number of units of the last place is written in one way with a given number of places (`IsPlaced`,
`IsPlaced.unsignedChars_eq`): the digits before the point denote the whole part, and those after it the rest
(`IsPlaced.values`).
-/

namespace FormLang.Numeral

/-- A numeral of `n / 10 ^ places` with exactly that many places and no zero at the start that could be left
out. -/
structure IsPlaced (places n : Nat) (m : Numeral) : Prop extends m.IsWellFormed where
  leading : m.hasLeadingZero = false
  length_fraction : (m.fraction.getD []).length = places
  power : m.power = none
  value : digitsValue (m.whole ++ m.fraction.getD []) = n

variable {places n : Nat} {m m' : Numeral}

theorem isDigit_of_mem_fraction (h : m.IsWellFormed) : ∀ c ∈ m.fraction.getD [], c.isDigit = true := by
  cases hf : m.fraction with
  | none => nofun
  | some digits => exact (h.fraction digits hf).isDigit

/-- The digits of a natural number are its numeral without places. -/
theorem isPlaced_toDigits (negative : Bool) (n : Nat) :
    (⟨negative, Nat.toDigits 10 n, none, none⟩ : Numeral).IsPlaced 0 n where
  whole := isDigits_toDigits n
  fraction := nofun
  leading := by
    rw [hasLeadingZero_eq_false_iff (isDigits_toDigits n)]
    rcases Nat.eq_zero_or_pos n with rfl | hn
    · exact .inl rfl
    · right
      dsimp only
      rw [digitsValue_toDigits]
      exact (pow_length_toDigits (Nat.ne_of_gt hn)).1
  length_fraction := rfl
  power := rfl
  value := (congrArg digitsValue (List.append_nil _)).trans (digitsValue_toDigits n)

/-- The digits before the point denote the whole part, and those after it the rest. -/
theorem IsPlaced.values (h : m.IsPlaced places n) :
    digitsValue m.whole = n / 10 ^ places ∧ digitsValue (m.fraction.getD []) = n % 10 ^ places := by
  have hlt := digitsValue_lt (isDigit_of_mem_fraction h.toIsWellFormed)
  have hv := h.value
  have hpos : 0 < 10 ^ places := Nat.pow_pos (by decide)
  rw [digitsValue_append] at hv
  rw [h.length_fraction] at hv hlt
  rw [← hv, Nat.mul_add_div hpos, Nat.div_eq_of_lt hlt, Nat.add_zero, Nat.mul_add_mod, Nat.mod_eq_of_lt hlt]
  exact ⟨rfl, rfl⟩

/-- The text of a numeral with places has a point before them. -/
theorem IsPlaced.unsignedChars_of_pos (h : m.IsPlaced places n) (hp : 0 < places) :
    ∃ digits, m.unsignedChars = m.whole ++ '.' :: digits ∧ (∀ c ∈ digits, c.isDigit = true) ∧
      digits.length = places ∧ digitsValue (m.whole ++ digits) = n := by
  have hlen := h.length_fraction
  have hd := isDigit_of_mem_fraction h.toIsWellFormed
  have hv := h.value
  rw [unsignedChars, h.power, powerText, List.append_nil]
  cases hf : m.fraction with
  | none =>
    rw [hf] at hlen
    exact absurd hlen (Nat.ne_of_lt hp)
  | some digits =>
    rw [hf] at hlen hd hv
    exact ⟨digits, rfl, hd, hlen, hv⟩

/-- Only the numeral of zero consists of zeros and a point. -/
theorem IsPlaced.allZeros_iff (h : m.IsPlaced places n) :
    (∀ c ∈ m.unsignedChars, c = '0' ∨ c = '.') ↔ n = 0 := by
  have hd : ∀ c ∈ m.whole ++ m.fraction.getD [], c.isDigit = true :=
    (h.whole.append (isDigit_of_mem_fraction h.toIsWellFormed)).isDigit
  rw [← h.value, digitsValue_eq_zero_iff hd, unsignedChars, h.power, powerText, List.append_nil]
  constructor
  · intro hzeros c hc
    refine (hzeros c ?_).resolve_right ?_
    · cases hf : m.fraction with
      | none =>
        rw [hf] at hc
        exact hc
      | some digits =>
        rw [hf] at hc
        exact List.mem_append.mpr ((List.mem_append.mp hc).imp_right (List.mem_cons_of_mem '.'))
    · rintro rfl
      exact absurd (hd '.' hc) (by decide)
  · intro hzeros c hc
    cases hf : m.fraction with
    | none =>
      rw [hf] at hzeros hc
      exact .inl (hzeros c hc)
    | some digits =>
      rw [hf] at hzeros hc
      simp only [fractionText, List.mem_append, List.mem_cons, Option.getD_some] at hzeros hc
      rcases hc with hc | rfl | hc
      · exact .inl (hzeros c (.inl hc))
      · exact .inr rfl
      · exact .inl (hzeros c (.inr hc))

/-- Without zeros at the start that could be left out, a value is written with one count of digits. -/
theorem length_le_of_leading (hd : IsDigits m.whole) (hd' : IsDigits m'.whole)
    (hm' : m'.hasLeadingZero = false) (h : digitsValue m.whole = digitsValue m'.whole) :
    m'.whole.length ≤ m.whole.length := by
  have hpos := List.length_pos_iff.mpr hd.ne_nil
  refine Nat.le_of_not_lt fun hlt => ?_
  rcases (hasLeadingZero_eq_false_iff hd').mp hm' with hone | hle
  · omega
  · have hlow := digitsValue_lt hd.isDigit
    have := Nat.pow_le_pow_right (show 0 < 10 by decide) (Nat.le_sub_one_of_lt hlt)
    omega

/-- A number is written in one way with a number of places. -/
theorem IsPlaced.unsignedChars_eq (h : m.IsPlaced places n) (h' : m'.IsPlaced places n) :
    m.unsignedChars = m'.unsignedChars := by
  have hwhole : m.whole = m'.whole := by
    have hvalue := h.values.1.trans h'.values.1.symm
    refine eq_of_digitsValue h.whole.isDigit h'.whole.isDigit (Nat.le_antisymm ?_ ?_) hvalue
    · exact length_le_of_leading h'.whole h.whole h.leading hvalue.symm
    · exact length_le_of_leading h.whole h'.whole h'.leading hvalue
  have hplaces : m.fraction.getD [] = m'.fraction.getD [] :=
    eq_of_digitsValue (isDigit_of_mem_fraction h.toIsWellFormed) (isDigit_of_mem_fraction h'.toIsWellFormed)
      (h.length_fraction.trans h'.length_fraction.symm) (h.values.2.trans h'.values.2.symm)
  have hfraction : m.fraction = m'.fraction := by
    cases hf : m.fraction with
    | none =>
      cases hf' : m'.fraction with
      | none => rfl
      | some digits =>
        rw [hf, hf'] at hplaces
        exact absurd hplaces.symm (h'.fraction digits hf').ne_nil
    | some digits =>
      cases hf' : m'.fraction with
      | none =>
        rw [hf, hf'] at hplaces
        exact absurd hplaces (h.fraction digits hf).ne_nil
      | some digits' =>
        rw [hf, hf'] at hplaces
        exact congrArg some hplaces
  rw [unsignedChars, unsignedChars, hwhole, hfraction, h.power, h'.power]

end FormLang.Numeral
