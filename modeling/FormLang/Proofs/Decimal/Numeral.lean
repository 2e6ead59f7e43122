import Mathlib.Algebra.Group.Nat.Defs
import FormLang.Decimal.Numeral

/-!
# Writing and reading numerals

A numeral is written from its parts (`Numeral.chars`), and read back from the text:

* `ofText?_chars`: a text written from a well-formed numeral reads as that numeral and no other;
* `digitsValue_append`: the number that joined lists of digits denote;
* `isDigits_toDigits`, `head?_toDigits`, `pow_length_toDigits`: the digits of a natural number, of which
  the first is not zero and the count tells between which powers of ten it lies;
* `eq_of_digitsValue`: as many digits with the same value are the same.
-/

namespace FormLang.Numeral

/-! ## Digits -/

theorem toNat_of_isDigit {c : Char} (h : c.isDigit = true) : 0x30 ≤ c.toNat ∧ c.toNat ≤ 0x39 := by
  rw [Char.isDigit, Bool.and_eq_true, decide_eq_true_eq, decide_eq_true_eq] at h
  exact ⟨UInt32.le_iff_toNat_le.mp h.1, UInt32.le_iff_toNat_le.mp h.2⟩

/-- A list of one or more digits. -/
structure IsDigits (ds : List Char) : Prop where
  ne_nil : ds ≠ []
  isDigit : ∀ c ∈ ds, c.isDigit = true

variable {ds es rest : List Char}

theorem isDigits_zero : IsDigits ['0'] where
  ne_nil := List.cons_ne_nil _ _
  isDigit _ hc := List.mem_singleton.mp hc ▸ rfl

theorem IsDigits.append (hd : IsDigits ds) (he : ∀ c ∈ es, c.isDigit = true) : IsDigits (ds ++ es) where
  ne_nil := List.append_ne_nil_of_left_ne_nil hd.ne_nil es
  isDigit c hc := (List.mem_append.mp hc).elim (hd.isDigit c) (he c)

theorem IsDigits.of_subset (hd : IsDigits ds) (he : es ≠ []) (hsub : es ⊆ ds) : IsDigits es where
  ne_nil := he
  isDigit c hc := hd.isDigit c (hsub hc)

theorem digitsValue_append (ds es : List Char) :
    digitsValue (ds ++ es) = 10 ^ es.length * digitsValue ds + digitsValue es := by
  rw [digitsValue, Nat.ofDigitChars_append, Nat.ofDigitChars_eq_ofDigitChars_zero]
  rfl

theorem isDigit_of_mem_replicate {n : Nat} : ∀ c ∈ List.replicate n '0', c.isDigit = true := by
  intro c hc
  rw [List.eq_of_mem_replicate hc]
  rfl

theorem digitsValue_replicate (n : Nat) : digitsValue (List.replicate n '0') = 0 := by
  rw [digitsValue, Nat.ofDigitChars_replicate_zero, Nat.mul_zero]

theorem digitsValue_lt (hd : ∀ c ∈ ds, c.isDigit = true) : digitsValue ds < 10 ^ ds.length := by
  induction ds with
  | nil => decide
  | cons c ds ih =>
    have hc : digitsValue [c] ≤ 9 := by
      have h := toNat_of_isDigit (hd c List.mem_cons_self)
      rw [digitsValue, Nat.ofDigitChars_cons, Nat.ofDigitChars_nil]
      change 10 * 0 + (c.toNat - 0x30) ≤ 9
      omega
    have := ih fun d h => hd d (List.mem_cons_of_mem _ h)
    have hmul := Nat.mul_le_mul_left (10 ^ ds.length) hc
    rw [← List.singleton_append, digitsValue_append, List.length_append, List.length_singleton, Nat.pow_add]
    omega

/-- The first digits denote what is left when the places of the others are cut off. -/
theorem digitsValue_take (hd : ∀ c ∈ ds, c.isDigit = true) (n : Nat) :
    digitsValue (ds.take n) = digitsValue ds / 10 ^ (ds.length - n) := by
  have hrest : digitsValue (ds.drop n) < 10 ^ (ds.drop n).length :=
    digitsValue_lt fun c hc => hd c (List.mem_of_mem_drop hc)
  have hsplit := digitsValue_append (ds.take n) (ds.drop n)
  rw [List.take_append_drop] at hsplit
  rw [hsplit, ← List.length_drop, Nat.mul_add_div (Nat.pow_pos (by decide)), Nat.div_eq_of_lt hrest,
    Nat.add_zero]

/-- The last digits denote what the others leave. -/
theorem digitsValue_drop (hd : ∀ c ∈ ds, c.isDigit = true) (n : Nat) :
    digitsValue (ds.drop n) = digitsValue ds % 10 ^ (ds.length - n) := by
  have hrest : digitsValue (ds.drop n) < 10 ^ (ds.drop n).length :=
    digitsValue_lt fun c hc => hd c (List.mem_of_mem_drop hc)
  have hsplit := digitsValue_append (ds.take n) (ds.drop n)
  rw [List.take_append_drop] at hsplit
  rw [hsplit, ← List.length_drop, Nat.mul_add_mod, Nat.mod_eq_of_lt hrest]

theorem digitsValue_singleton (c : Char) : digitsValue [c] = c.toNat - 0x30 := by
  rw [digitsValue, Nat.ofDigitChars_cons, Nat.ofDigitChars_nil]
  exact Nat.zero_add _

theorem digitsValue_cons (c : Char) (ds : List Char) :
    digitsValue (c :: ds) = 10 ^ ds.length * (c.toNat - 0x30) + digitsValue ds := by
  rw [← List.singleton_append, digitsValue_append, digitsValue_singleton]

theorem isDigit_of_toNat {c : Char} (hlow : 0x30 ≤ c.toNat) (hhigh : c.toNat ≤ 0x39) : c.isDigit = true := by
  rw [Char.isDigit, Bool.and_eq_true, decide_eq_true_eq, decide_eq_true_eq]
  exact ⟨UInt32.le_iff_toNat_le.mpr hlow, UInt32.le_iff_toNat_le.mpr hhigh⟩

/-- As many digits with the same value are the same. -/
theorem eq_of_digitsValue (hd : ∀ c ∈ ds, c.isDigit = true) (he : ∀ c ∈ es, c.isDigit = true)
    (hlen : ds.length = es.length) (h : digitsValue ds = digitsValue es) : ds = es := by
  induction ds generalizing es with
  | nil => exact (List.length_eq_zero_iff.mp hlen.symm).symm
  | cons c ds ih =>
    cases es with
    | nil => cases hlen
    | cons e es =>
      have hlen' : ds.length = es.length := Nat.succ.inj hlen
      have hd' := fun b hb => hd b (List.mem_cons_of_mem c hb)
      have he' := fun b hb => he b (List.mem_cons_of_mem e hb)
      have hlt := digitsValue_lt hd'
      have hlt' := digitsValue_lt he'
      rw [digitsValue_cons, digitsValue_cons, ← hlen'] at h
      rw [← hlen'] at hlt'
      have hpos : 0 < 10 ^ ds.length := Nat.pow_pos (by decide)
      have hhead : c.toNat - 0x30 = e.toNat - 0x30 := by
        have hdiv := congrArg (· / 10 ^ ds.length) h
        simpa only [Nat.mul_add_div hpos, Nat.div_eq_of_lt hlt, Nat.div_eq_of_lt hlt', Nat.add_zero] using hdiv
      have hc := toNat_of_isDigit (hd c List.mem_cons_self)
      have he := toNat_of_isDigit (he e List.mem_cons_self)
      have hce : c = e := Char.toNat_inj.mp (by omega)
      rw [hhead] at h
      rw [hce, ih hd' he' hlen' (by omega)]

/-- Digits have the value zero if and only if all of them are zeros. -/
theorem digitsValue_eq_zero_iff (hd : ∀ c ∈ ds, c.isDigit = true) : digitsValue ds = 0 ↔ ∀ c ∈ ds, c = '0' := by
  constructor
  · intro h
    rw [eq_of_digitsValue hd isDigit_of_mem_replicate List.length_replicate.symm
      (h.trans (digitsValue_replicate _).symm)]
    exact fun c hc => List.eq_of_mem_replicate hc
  · intro h
    rw [List.eq_replicate_of_mem h, digitsValue_replicate]

/-- Digits start with a zero if and only if their value is less than what their count of places allows. -/
theorem head?_eq_zero_iff (hd : IsDigits ds) :
    ds.head? = some '0' ↔ digitsValue ds < 10 ^ (ds.length - 1) := by
  obtain ⟨c, cs, rfl⟩ := List.exists_cons_of_ne_nil hd.ne_nil
  have hlt : digitsValue cs < 10 ^ cs.length :=
    digitsValue_lt fun b hb => hd.isDigit b (List.mem_cons_of_mem c hb)
  have hc := toNat_of_isDigit (hd.isDigit c List.mem_cons_self)
  rw [digitsValue_cons, List.head?_cons, List.length_cons, Nat.add_sub_cancel, Option.some_inj]
  constructor
  · rintro rfl
    rw [show '0'.toNat - 0x30 = 0 from rfl, Nat.mul_zero]
    omega
  · intro h
    refine Decidable.byContradiction fun hne => ?_
    have hpos : 0x30 < c.toNat := by
      refine Nat.lt_of_le_of_ne hc.1 fun heq => hne ?_
      exact Char.toNat_inj.mp heq.symm
    have := Nat.le_mul_of_pos_right (10 ^ cs.length) (Nat.sub_pos_of_lt hpos)
    omega

/-- Digits end with a zero if and only if their value is a multiple of ten. -/
theorem getLast?_eq_zero_iff (hd : IsDigits ds) : ds.getLast? = some '0' ↔ digitsValue ds % 10 = 0 := by
  obtain ⟨es, c, rfl⟩ : ∃ es c, ds = es ++ [c] := ⟨_, _, (List.dropLast_concat_getLast hd.ne_nil).symm⟩
  have hc := toNat_of_isDigit (hd.isDigit c (List.mem_append_right es List.mem_cons_self))
  rw [List.getLast?_concat, Option.some_inj, ← Char.toNat_inj, digitsValue_append, digitsValue_singleton,
    List.length_singleton, Nat.pow_one]
  change c.toNat = 0x30 ↔ _
  omega

theorem digitsValue_toDigits (n : Nat) : digitsValue (Nat.toDigits 10 n) = n :=
  Nat.ofDigitChars_ten_toDigits

theorem isDigits_toDigits (n : Nat) : IsDigits (Nat.toDigits 10 n) where
  ne_nil := List.ne_nil_of_length_pos Nat.length_toDigits_pos
  isDigit _ hc := Nat.isDigit_of_mem_toDigits (by decide) (by decide) hc

/-- The digits of a natural number other than zero do not start with a zero. -/
theorem head?_toDigits {n : Nat} (hn : n ≠ 0) : (Nat.toDigits 10 n).head? ≠ some '0' := by
  induction n using Nat.strongRecOn with
  | _ n ih =>
    rw [Nat.toDigits_eq_if (by decide)]
    split
    · rw [List.head?_singleton, ne_eq, Option.some_inj, Nat.digitChar_eq_zero]
      exact hn
    · rw [List.head?_append, List.head?_eq_some_head (isDigits_toDigits _).ne_nil, Option.some_or,
        ← List.head?_eq_some_head]
      exact ih (n / 10) (by omega) (by omega)

/-- The count of its digits tells between which powers of ten a natural number lies. -/
theorem pow_length_toDigits {n : Nat} (hn : n ≠ 0) :
    10 ^ ((Nat.toDigits 10 n).length - 1) ≤ n ∧ n < 10 ^ (Nat.toDigits 10 n).length := by
  have hpos : 0 < (Nat.toDigits 10 n).length := Nat.length_toDigits_pos
  refine ⟨?_, (Nat.length_toDigits_le_iff (by decide) hpos).mp (Nat.le_refl _)⟩
  rcases Nat.eq_zero_or_pos ((Nat.toDigits 10 n).length - 1) with h | h
  · rw [h, Nat.pow_zero]
    omega
  · refine Nat.le_of_not_lt fun hlt => ?_
    have := (Nat.length_toDigits_le_iff (by decide) h).mpr hlt
    omega

/-! ## Written numerals -/

/-- The text of a fraction. -/
def fractionText : Option (List Char) → List Char
  | none => []
  | some digits => '.' :: digits

/-- The text of a power of ten, always with its sign. -/
def powerText : Option Int → List Char
  | none => []
  | some power => 'e' :: (if power < 0 then '-' else '+') :: Nat.toDigits 10 power.natAbs

/-- A numeral without its sign, written from its parts. -/
def unsignedChars (n : Numeral) : List Char :=
  n.whole ++ (fractionText n.fraction ++ powerText n.power)

/-- A numeral written from its parts. -/
def chars (n : Numeral) : List Char :=
  if n.negative then '-' :: n.unsignedChars else n.unsignedChars

/-- The parts of a numeral that can be written: digits where there are any. -/
structure IsWellFormed (n : Numeral) : Prop where
  whole : IsDigits n.whole
  fraction : ∀ digits ∈ n.fraction, IsDigits digits

/-- A numeral of the form `-?(0|[1-9][0-9]*)(.[0-9]*[1-9])?`. -/
structure IsPositional (n : Numeral) : Prop extends n.IsWellFormed where
  leading : n.hasLeadingZero = false
  ending : ∀ digits ∈ n.fraction, digits.getLast? ≠ some '0'
  power : n.power = none

/-- A numeral of the form `-?[1-9](.[0-9]*[1-9])?e[+-][1-9][0-9]*`. -/
structure IsScientific (n : Numeral) : Prop extends n.IsWellFormed where
  single : n.whole.length = 1
  first : n.whole ≠ ['0']
  ending : ∀ digits ∈ n.fraction, digits.getLast? ≠ some '0'
  power : ∃ p : Int, p ≠ 0 ∧ n.power = some p

theorem hasLeadingZero_eq_false {n : Numeral} (h : n.whole.head? ≠ some '0') :
    n.hasLeadingZero = false := by
  rw [hasLeadingZero, beq_eq_false_iff_ne.mpr h, Bool.false_and]

/-- No zero at the start can be left out if there is one digit, or if the value has as many. -/
theorem hasLeadingZero_eq_false_iff {n : Numeral} (hd : IsDigits n.whole) :
    n.hasLeadingZero = false ↔ n.whole.length = 1 ∨ 10 ^ (n.whole.length - 1) ≤ digitsValue n.whole := by
  have hzero : n.whole = ['0'] ↔ n.whole.length = 1 ∧ n.whole.head? = some '0' := by
    obtain ⟨c, cs, hc⟩ := List.exists_cons_of_ne_nil hd.ne_nil
    rw [hc]
    simp [and_comm]
  rw [← Nat.not_lt, ← head?_eq_zero_iff hd, hasLeadingZero, Bool.and_eq_false_iff, beq_eq_false_iff_ne,
    bne_eq_false_iff_eq, hzero]
  grind

theorem IsPositional.not_isScientific {n : Numeral} (h : n.IsPositional) : ¬ n.IsScientific := by
  rintro ⟨-, -, -, -, p, -, hp⟩
  rw [h.power] at hp
  cases hp

/-- Without its sign, a numeral starts with a digit. -/
theorem exists_unsignedChars {n : Numeral} (h : n.IsWellFormed) :
    ∃ c cs, n.unsignedChars = c :: cs ∧ c.isDigit = true := by
  obtain ⟨c, cs, hc⟩ := List.exists_cons_of_ne_nil h.whole.ne_nil
  rw [unsignedChars, hc]
  exact ⟨c, _, rfl, h.whole.isDigit c (hc ▸ List.mem_cons_self)⟩

/-- A numeral starts with a minus sign or a digit. -/
theorem exists_chars {n : Numeral} (h : n.IsWellFormed) :
    ∃ c cs, n.chars = c :: cs ∧ (c = '-' ∨ c.isDigit = true) := by
  rw [chars]
  split
  · exact ⟨'-', _, rfl, .inl rfl⟩
  · obtain ⟨c, cs, hc, hdigit⟩ := exists_unsignedChars h
    exact ⟨c, cs, hc, .inr hdigit⟩

/-! ## Reading back -/

theorem readDigits?_append (hd : IsDigits ds) (hr : ∀ c ∈ rest.head?, c.isDigit = false) :
    readDigits? (ds ++ rest) = some (ds, rest) := by
  have htake : rest.takeWhile Char.isDigit = [] := by
    cases rest with
    | nil => rfl
    | cons c cs => rw [List.takeWhile_cons_of_neg (by simp [hr c rfl])]
  have hdrop : rest.dropWhile Char.isDigit = rest := by
    cases rest with
    | nil => rfl
    | cons c cs => rw [List.dropWhile_cons_of_neg (by simp [hr c rfl])]
  unfold readDigits?
  rw [List.takeWhile_append_of_pos hd.isDigit, List.dropWhile_append_of_pos hd.isDigit, htake, hdrop,
    List.append_nil]
  cases ds with
  | nil => exact absurd rfl hd.ne_nil
  | cons c cs => rfl

theorem allDigits?_toDigits (n : Nat) : allDigits? (Nat.toDigits 10 n) = some n := by
  have h := isDigits_toDigits n
  rw [allDigits?, if_pos ⟨h.ne_nil, List.all_eq_true.mpr h.isDigit⟩, digitsValue_toDigits]

theorem power?_powerText (power : Option Int) : power? (powerText power) = some power := by
  cases power with
  | none => rfl
  | some p =>
    simp only [powerText, power?, true_or, if_true]
    split
    · rw [signed?, allDigits?_toDigits]
      exact congrArg (fun i => some (some i)) (show -(p.natAbs : Int) = p by omega)
    · rw [signed?, allDigits?_toDigits]
      exact congrArg (fun i => some (some i)) (show (p.natAbs : Int) = p by omega)

theorem head?_powerText {power : Option Int} {c : Char} (hc : c ∈ (powerText power).head?) :
    c = 'e' := by
  cases power with
  | none => cases hc
  | some p =>
    cases hc
    rfl

theorem fractionAndPower?_append {fraction : Option (List Char)} (power : Option Int)
    (hf : ∀ digits ∈ fraction, IsDigits digits) :
    fractionAndPower? (fractionText fraction ++ powerText power) = some (fraction, power) := by
  cases fraction with
  | none =>
    rw [fractionText, List.nil_append]
    have h := power?_powerText power
    unfold fractionAndPower?
    split
    · rename_i cs heq
      have := head?_powerText (heq ▸ rfl : '.' ∈ (powerText power).head?)
      exact absurd this (by decide)
    · rw [h]
      rfl
  | some digits =>
    rw [fractionText, List.cons_append]
    simp only [fractionAndPower?]
    rw [readDigits?_append (hf digits rfl) fun c hc => by rw [head?_powerText hc]; decide]
    simp only [Option.bind_eq_bind, Option.bind_some, power?_powerText]

theorem unsigned?_unsignedChars {n : Numeral} (h : n.IsWellFormed) :
    unsigned? n.negative n.unsignedChars = some n := by
  have hr : ∀ c ∈ (fractionText n.fraction ++ powerText n.power).head?, c.isDigit = false := by
    intro c hc
    cases hf : n.fraction with
    | none =>
      rw [hf] at hc
      rw [head?_powerText hc]
      decide
    | some digits =>
      rw [hf] at hc
      cases hc
      decide
  unfold unsigned? unsignedChars
  rw [readDigits?_append h.whole hr]
  simp only [Option.bind_eq_bind, Option.bind_some, fractionAndPower?_append n.power h.fraction]

/-- A text written from a well-formed numeral reads as that numeral. -/
theorem ofText?_chars {n : Numeral} (h : n.IsWellFormed) : ofText? n.chars = some n := by
  have hu := unsigned?_unsignedChars h
  unfold chars
  split
  · rename_i hn
    rw [hn] at hu
    exact hu
  · rename_i hn
    rw [Bool.not_eq_true] at hn
    rw [hn] at hu
    unfold ofText?
    split
    · rename_i cs heq
      obtain ⟨c, cs', hc, hdigit⟩ := exists_unsignedChars h
      obtain rfl := (List.cons.inj (hc.symm.trans heq)).1
      exact absurd hdigit (by decide)
    · exact hu

end FormLang.Numeral
