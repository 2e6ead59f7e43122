import FormLang.Expr.Error
import FormLang.Proofs.Binary64.Whole
import FormLang.Proofs.Value.Idempotent

/-!
# Texts and numbers as dates

A date keeps the text from which it was read, so a text that is cast to a date comes back from it. The text of a
number is a date only if it is a year: of all shapes, a number can be displayed as a year alone
(`year_chars_of_display`), and as a year without zeros in front, which is a whole number of four digits
(`toRat_of_display`, `display_of_year`). `cast_date_exact` puts both together.
-/

namespace FormLang

open Numeral (IsDigits digitsValue)

/-- A number is this natural number. -/
def Binary64.IsNatural (x : Binary64) (k : ℕ) : Prop := ∃ y : Finite, x = .finite y ∧ y.toRat = k

theorem Binary64.IsNatural.unique {x : Binary64} {k k' : ℕ} (h : x.IsNatural k) (h' : x.IsNatural k') :
    k = k' := by
  obtain ⟨y, rfl, hy⟩ := h
  obtain ⟨y', hsame, hy'⟩ := h'
  cases hsame
  exact Nat.cast_injective (hy.symm.trans hy')

namespace Date

/-- The midnight with which a year starts, in no zone and written with the digits of the year alone. -/
structure IsNewYear (d : Date) (k : ℕ) : Prop where
  year : d.day.year = k
  month : d.day.month = 1
  day : d.day.day = 1
  hour : d.clock.hour = 0
  minute : d.clock.minute = 0
  second : d.clock.second = 0
  millisecond : d.clock.millisecond = 0
  zone : d.zone = .unspecified
  raw : d.raw = String.ofList (Nat.toDigits 10 k)

variable {d d' : Date} {s : Shape} {x : Binary64.Finite} {k : ℕ}

/-- A year starts once. -/
theorem IsNewYear.unique (h : d.IsNewYear k) (h' : d'.IsNewYear k) : d = d' := by
  obtain ⟨⟨year, month, day, _⟩, ⟨hour, minute, second, millisecond, _⟩, zone, raw⟩ := d
  obtain ⟨⟨year', month', day', _⟩, ⟨hour', minute', second', millisecond', _⟩, zone', raw'⟩ := d'
  obtain ⟨hyear, rfl, rfl, rfl, rfl, rfl, rfl, rfl, hraw⟩ := h
  obtain ⟨hyear', rfl, rfl, rfl, rfl, rfl, rfl, rfl, hraw'⟩ := h'
  obtain rfl : year = year' := hyear.trans hyear'.symm
  obtain rfl : raw = raw' := hraw.trans hraw'.symm
  rfl

/-! ## Numbers that are displayed as dates -/

theorem Digits.isDigits_year (year : Digits 4) : IsDigits year.chars where
  ne_nil := List.ne_nil_of_length_pos (by rw [year.length_eq]; decide)
  isDigit := year.isDigit

/-- No numeral has a minus sign right after its first digits. -/
theorem ofText?_digits_minus {ds rest : List Char} (hd : IsDigits ds) :
    Numeral.ofText? (ds ++ '-' :: rest) = none := by
  have hminus : ∀ c ∈ ('-' :: rest).head?, c.isDigit = false := by
    rintro _ ⟨⟩
    decide
  have hunsigned : Numeral.unsigned? false (ds ++ '-' :: rest) = none := by
    rw [Numeral.unsigned?, Numeral.readDigits?_append hd hminus]
    rfl
  unfold Numeral.ofText?
  split
  case h_1 cs hcs =>
    obtain ⟨c, es, rfl⟩ := List.exists_cons_of_ne_nil hd.ne_nil
    obtain ⟨rfl, -⟩ := List.cons.inj hcs
    exact absurd (hd.isDigit '-' List.mem_cons_self) (by decide)
  case h_2 => exact hunsigned

/-- A number that is displayed as a date is displayed as a year alone. -/
theorem year_chars_of_display (h : s.chars = x.display) : s.year.chars = x.display := by
  have hyear := s.year.isDigits_year
  obtain ⟨year, day⟩ := s
  cases day with
  | none => rwa [Shape.chars, dayChars, List.append_nil] at h
  | some day =>
    have hread := x.ofText?_display
    rw [← h, Shape.chars, dayChars, ofText?_digits_minus hyear] at hread
    cases hread

theorem numeral_of_display {year : Digits 4} (h : year.chars = x.display) :
    x.numeral = ⟨false, year.chars, none, none⟩ := by
  have hread := Numeral.ofText?_chars (n := ⟨false, year.chars, none, none⟩) ⟨year.isDigits_year, nofun⟩
  have hchars : Numeral.chars ⟨false, year.chars, none, none⟩ = x.display := by
    rw [← h]
    simp [Numeral.chars, Numeral.unsignedChars, Numeral.fractionText, Numeral.powerText]
  rw [hchars, x.ofText?_display] at hread
  exact Option.some.inj hread

/-- Four digits that are displayed for a number are those of a year from 1000 on, and the number is that year. -/
theorem toRat_of_display {year : Digits 4} (h : year.chars = x.display) :
    1000 ≤ year.value ∧ year.value ≤ 9999 ∧ x.toRat = year.value := by
  have hnumeral := numeral_of_display h
  have hshown : x.showsAllPlaces := by
    by_contra hnot
    obtain ⟨p, -, hp⟩ := (Binary64.Finite.isScientific_numeral hnot).power
    rw [hnumeral] at hp
    cases hp
  have hpositional := Binary64.Finite.isPositional_numeral hshown
  have hread := x.ofDecimal_numeral
  rw [hnumeral] at hpositional hread
  have hplaced : (⟨false, year.chars, none, none⟩ : Numeral).IsPlaced 0 year.value :=
    ⟨hpositional.toIsWellFormed, hpositional.leading, rfl, rfl, congrArg digitsValue (List.append_nil _)⟩
  -- Without a zero in front, four digits are at least a thousand.
  have hlead := (Numeral.hasLeadingZero_eq_false_iff hpositional.whole).mp hpositional.leading
  have hhigh := Numeral.digitsValue_lt year.isDigit
  dsimp only at hlead
  rw [year.length_eq] at hlead hhigh
  have hvalue := Binary64.magnitude_of_isPlaced hplaced
  rw [pow_zero, div_one] at hvalue
  refine ⟨hlead.resolve_left (by decide), Nat.le_of_lt_succ hhigh, ?_⟩
  rw [← x.toRat_withoutZeroSign]
  exact Binary64.Finite.toRat_of_ofDecimal hread rfl hvalue (hhigh.trans (by decide))

/-- A number that is a year from 1000 on is displayed with the digits of the year. -/
theorem display_of_year (hx : x.toRat = k) (hk : 1000 ≤ k) (hk' : k ≤ 9999) : x.display = Nat.toDigits 10 k := by
  have hpos : (0 : ℚ) ≤ x.toRat := by
    rw [hx]
    exact Nat.cast_nonneg k
  have hsign : x.negative = false := by
    rw [← Bool.not_eq_true]
    intro hneg
    have hne : x.toRat ≠ 0 := by
      rw [hx]
      exact Nat.cast_ne_zero.mpr (by omega)
    exact absurd (x.toRat_neg_iff_negative.mpr ⟨hneg, hne⟩) (not_lt.mpr hpos)
  have habs : |x.toRat| = k := (abs_of_nonneg hpos).trans hx
  rw [Binary64.Finite.display_of_whole habs (by omega) (by omega), hsign]
  rfl

theorem length_toDigits_year (hk : 1000 ≤ k) (hk' : k ≤ 9999) : (Nat.toDigits 10 k).length = 4 := by
  have hle := (Nat.length_toDigits_le_iff (b := 10) (n := k) (k := 4) (by decide) (by decide)).mpr (by omega)
  have hlt := (Nat.length_toDigits_le_iff (b := 10) (n := k) (k := 3) (by decide) (by decide)).not.mpr (by omega)
  omega

/-- The shape of a year that is written with its digits. -/
def yearShape (hk : 1000 ≤ k) (hk' : k ≤ 9999) : Shape where
  year := ⟨Nat.toDigits 10 k, length_toDigits_year hk hk', (Numeral.isDigits_toDigits k).isDigit⟩
  day := none

theorem chars_yearShape (hk : 1000 ≤ k) (hk' : k ≤ 9999) : (yearShape hk hk').chars = Nat.toDigits 10 k :=
  List.append_nil _

/-- The digits of a year are read as its start. -/
theorem exists_read_year (hk : 1000 ≤ k) (hk' : k ≤ 9999) :
    ∃ d, read (String.ofList (Nat.toDigits 10 k)) = .ok (some d) ∧ d.IsNewYear k := by
  have hs : (yearShape hk hk').chars = (String.ofList (Nat.toDigits 10 k)).toList := by
    rw [chars_yearShape, String.toList_ofList]
  have hdate : (yearShape hk hk').written.IsDate :=
    ⟨show 1 ≤ 1 ∧ 1 ≤ 12 by decide, show 1 ≤ 1 ∧ 1 ≤ 31 by decide, Nat.zero_le 23, Nat.zero_le 59,
      Nat.zero_le 59⟩
  obtain ⟨d, hd⟩ := exists_read_eq_date_iff.mpr ⟨_, hs, show 0 < 24 by decide, show 0 < 60 by decide, hdate⟩
  obtain ⟨hn, hz⟩ := denotes_of_read hs hd
  exact ⟨d, hd, hn.year.trans (Numeral.digitsValue_toDigits k), hn.month, hn.day, hn.hour, hn.minute, hn.second,
    hn.millisecond, hz, raw_of_read hd⟩

/-- The text of a number is read as a year if the number is one from 1000 to 9999, and has no date's shape
otherwise. -/
theorem read_display_cases (x : Binary64) :
    (∃ d k, (1000 ≤ k ∧ k ≤ 9999) ∧ x.IsNatural k ∧ d.IsNewYear k ∧
        read (String.ofList x.display) = .ok (some d)) ∨
      (¬∃ k, (1000 ≤ k ∧ k ≤ 9999) ∧ x.IsNatural k) ∧
        read (String.ofList x.display) = .error (.unknownFormat (String.ofList x.display)) := by
  by_cases hs : ∃ s : Shape, s.chars = x.display
  · obtain ⟨s, hs⟩ := hs
    obtain ⟨c, cs, hc, hd⟩ := s.exists_digit
    cases x with
    | finite x =>
      have hyear := year_chars_of_display hs
      obtain ⟨hlow, hhigh, hx⟩ := toRat_of_display hyear
      obtain ⟨d, hd, hnew⟩ := exists_read_year hlow hhigh
      rw [Binary64.display, display_of_year hx hlow hhigh]
      exact .inl ⟨d, _, ⟨hlow, hhigh⟩, ⟨x, rfl, hx⟩, hnew, hd⟩
    | infinite negative =>
      have hfirst : (Binary64.infinite negative).display.head?.all (!·.isDigit) = true := by
        cases negative <;> decide
      simp [← hs, hc, hd] at hfirst
    | nan =>
      have hfirst : Binary64.nan.display.head?.all (!·.isDigit) = true := by decide
      simp [← hs, hc, hd] at hfirst
  · refine .inr ⟨?_, ?_⟩
    · rintro ⟨k, ⟨hlow, hhigh⟩, y, rfl, hy⟩
      exact hs ⟨yearShape hlow hhigh, (chars_yearShape hlow hhigh).trans (display_of_year hy hlow hhigh).symm⟩
    · have hnot (s : Shape) : s.chars ≠ (String.ofList x.display).toList := by
        rw [String.toList_ofList]
        exact fun h => hs ⟨s, h⟩
      rw [read_of_no_shape hnot, String.toList_ofList, Value.allBlank_display]
      rfl

end Date

namespace Value

variable {x : Binary64} {s : String} {d : Date} {role : CastRole}

/-- A text that is cast to a date is read as this date. -/
theorem read_of_castTo (h : (string s).castTo .date role = .ok (date d)) : Date.read s = .ok (some d) := by
  rcases eq_null_or_of_castTo h with hnull | h
  · cases hnull
  · rcases dateOfText_cases h with hnull | ⟨d', hd, hdate⟩
    · cases hnull
    · cases hdate
      exact hd

theorem castTo_date_number : (number x).castTo .date role = dateOfText (String.ofList x.display) := by
  rw [castTo_eq_convert rfl (by simp [type, sourcesOf])]
  rfl

/-- A text that is cast to a date comes back from it, and is cast to it again. A number is cast to a date if and
only if it is a whole number from 1000 to 9999, and then to the start of this year; for any other number the cast
fails as an evaluation does. -/
theorem cast_date_exact :
    (∀ (s : String) (d : Date) (role role' : CastRole), (string s).cast (some .date) role = .ok (date d) →
      (date d).cast (some .string) role' = .ok (string s) ∧
      (string s).cast (some .date) role' = .ok (date d)) ∧
    ∀ (x : Binary64) (role : CastRole),
      (∀ w, (number x).cast (some .date) role = .ok w ↔
        ∃ d k, (1000 ≤ k ∧ k ≤ 9999) ∧ x.IsNatural k ∧ d.IsNewYear k ∧ w = date d) ∧
      ((¬∃ k, (1000 ≤ k ∧ k ≤ 9999) ∧ x.IsNatural k) ↔
        ∃ e, (number x).cast (some .date) role = .error e ∧ (Cause.cast e).kind = .runtime) := by
  refine ⟨fun s d role role' h => ⟨?_, castTo_role role' h⟩, fun x role => ?_⟩
  · rw [← Date.raw_of_read (read_of_castTo h)]
    rfl
  · rw [cast, castTo_date_number, dateOfText]
    rcases Date.read_display_cases x with ⟨d, k, hk, hx, hnew, hread⟩ | ⟨hnot, hread⟩
    · rw [hread]
      refine ⟨fun w => ⟨?_, ?_⟩, iff_of_false (fun h => h ⟨k, hk, hx⟩) nofun⟩
      · rintro ⟨⟩
        exact ⟨d, k, hk, hx, hnew, rfl⟩
      · rintro ⟨d', k', hk', hx', hnew', rfl⟩
        obtain rfl := hx.unique hx'
        rw [hnew.unique hnew']
    · rw [hread]
      refine ⟨fun w => iff_of_false nofun ?_, iff_of_true hnot ⟨_, rfl, rfl⟩⟩
      rintro ⟨d, k, hk, hx, -⟩
      exact hnot ⟨k, hk, hx⟩

/-- A time of day without seconds and a small `t` are kept as they are written. -/
theorem cast_date_exact_cases :
    ∃ d, (string "2021-06-01t10:00z").cast (some .date) .argument = .ok (date d) ∧
      (date d).cast (some .string) .result = .ok (string "2021-06-01t10:00z") ∧
      (string "2021-06-01t10:00z").cast (some .date) .result = .ok (date d) := by
  obtain ⟨d, hd⟩ : ∃ d, (string "2021-06-01t10:00z").cast (some .date) .argument = .ok (date d) := ⟨_, rfl⟩
  exact ⟨d, hd, cast_date_exact.1 _ _ _ _ hd⟩

end Value

end FormLang
