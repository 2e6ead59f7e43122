import FormLang.Proofs.Date.Reading

/-!
# The standard form is read back

The standard form of a date is the text of a shape, with a point and three digits after the seconds and a colon in
the offset (`standardShape`), if the offset is less than a day (`Zone.IsWithinDay`). The offset of a date that was
read is (`isWithinDay_of_read`), so its standard form is read as the same day, time and offset (`read_isoText`).
`read_standard` adds the instant, which is the time on the clock without the offset.
-/

namespace FormLang

open Numeral

/-! ## Padded numbers -/

section

variable {width n : Nat}

theorem length_pad (hw : 0 < width) (h : n < 10 ^ width) : (pad width n).length = width := by
  have hle := (Nat.length_toDigits_le_iff (by decide) hw).mpr h
  rw [pad, List.length_append, List.length_replicate]
  omega

theorem isDigit_pad : ∀ c ∈ pad width n, c.isDigit = true := by
  intro c hc
  rcases List.mem_append.mp hc with hc | hc
  · exact isDigit_of_mem_replicate c hc
  · exact (isDigits_toDigits n).isDigit c hc

theorem isDigits_pad : IsDigits (pad width n) where
  ne_nil := List.append_ne_nil_of_right_ne_nil _ (isDigits_toDigits n).ne_nil
  isDigit := isDigit_pad

theorem digitsValue_pad (width n : Nat) : digitsValue (pad width n) = n := by
  rw [pad, digitsValue_append, digitsValue_replicate, Nat.mul_zero, Nat.zero_add, digitsValue_toDigits]

end

theorem daysInMonth_le (year month : Nat) : daysInMonth year month ≤ 31 := by
  unfold daysInMonth
  repeat' split
  all_goals omega

namespace Date

/-- A number as so many digits. -/
def Digits.ofNat {width n : Nat} (hw : 0 < width) (h : n < 10 ^ width) : Digits width :=
  ⟨pad width n, length_pad hw h, isDigit_pad⟩

@[simp] theorem Digits.value_ofNat {width n : Nat} (hw : 0 < width) (h : n < 10 ^ width) :
    (Digits.ofNat hw h).value = n :=
  digitsValue_pad width n

/-! ## Zones -/

/-- Zones are alike, but for the text of an offset. -/
inductive Zone.Agrees : Zone → Zone → Prop where
  | utc : Agrees .utc .utc
  | offset (written written' : String) (minutes : Int) :
    Agrees (.offset written minutes) (.offset written' minutes)
  | unspecified : Agrees .unspecified .unspecified

/-- The seconds by which the clock of a zone is ahead of universal time, if this is known. -/
def Zone.offsetSeconds? : Zone → Option Int
  | .utc => some 0
  | .offset _ minutes => some (60 * minutes)
  | .unspecified => none

/-- An offset is less than a day. -/
def Zone.IsWithinDay : Zone → Prop
  | .offset _ minutes => minutes.natAbs < 24 * 60
  | _ => True

/-- The hours of an offset that is less than a day have two digits. -/
theorem hours_lt {minutes : Int} (h : minutes.natAbs < 24 * 60) : minutes.natAbs / 60 < 10 ^ 2 := by
  omega

theorem minutes_lt (minutes : Int) : minutes.natAbs % 60 < 10 ^ 2 := by
  omega

/-- The shape of a zone in a date's standard form. -/
def Zone.shape : (zone : Zone) → zone.IsWithinDay → ZoneShape
  | .utc, _ => .utc false
  | .offset _ minutes, h =>
    .offset (minutes < 0) (.ofNat (by decide) (hours_lt h)) (.apart (.ofNat (by decide) (minutes_lt minutes)))
  | .unspecified, _ => .absent

variable {zone zone' : Zone}

theorem Zone.chars_shape (h : zone.IsWithinDay) : (zone.shape h).chars = zone.chars := by
  cases zone with
  | utc | unspecified => rfl
  | offset written minutes =>
    simp only [shape, ZoneShape.chars, OffsetMinutes.chars, Digits.ofNat, chars, offsetChars, decide_eq_true_eq,
      List.cons_append]

theorem Zone.agrees_of_denotes (h : zone.IsWithinDay) (hd : (zone.shape h).written.Denotes zone') :
    zone'.Agrees zone := by
  cases zone with
  | utc =>
    obtain rfl : zone' = .utc := hd
    exact .utc
  | unspecified =>
    obtain rfl : zone' = .unspecified := hd
    exact .unspecified
  | offset written minutes =>
    obtain ⟨distance, rfl, hdistance⟩ := hd
    simp only [OffsetMinutes.value, Digits.value_ofNat, decide_eq_true_eq] at hdistance
    obtain rfl : distance = minutes := by
      split at hdistance <;> omega
    exact .offset _ _ _

/-- Zones that are alike have the same offset. -/
theorem Zone.Agrees.offsetSeconds?_eq (h : zone'.Agrees zone) : zone'.offsetSeconds? = zone.offsetSeconds? := by
  cases h <;> rfl

/-- Zones that are alike have the same standard form. -/
theorem Zone.Agrees.chars_eq (h : zone'.Agrees zone) : zone'.chars = zone.chars := by
  cases h <;> rfl

/-! ## Dates -/

variable {d d' : Date} {raw : String}

/-- The instant of a date is the time on its clock without the offset. -/
theorem utcMilliseconds?_eq (d : Date) :
    d.utcMilliseconds? = d.zone.offsetSeconds?.map fun seconds => d.wallMilliseconds - 1000 * seconds := by
  rw [utcMilliseconds?]
  cases d.zone with
  | utc => rw [Zone.offsetSeconds?, Option.map_some, Int.mul_zero, Int.sub_zero]
  | offset written minutes =>
    refine congrArg some (?_ : d.wallMilliseconds - minutes * 60000 = d.wallMilliseconds - 1000 * (60 * minutes))
    omega
  | unspecified => rfl

/-- The offset of a date that was read is less than a day. -/
theorem isWithinDay_of_read (h : read raw = .ok (some d)) : d.zone.IsWithinDay := by
  obtain ⟨s, hs, hhours, hminutes, -⟩ := exists_read_eq_date_iff.mp ⟨d, h⟩
  obtain ⟨-, hz⟩ := denotes_of_read hs h
  unfold Written.offsetHours at hhours
  unfold Written.offsetMinutes at hminutes
  cases hw : s.written.zone with
  | absent | utc =>
    rw [hw] at hz
    obtain hz : d.zone = _ := hz
    rw [hz]
    trivial
  | offset text negative hours minutes =>
    rw [hw] at hz hhours hminutes
    obtain ⟨distance, hz, hdistance⟩ := hz
    rw [hz]
    change distance.natAbs < 24 * 60
    dsimp only at hhours hminutes
    split at hdistance <;> omega

/-- The shape of a date's standard form. -/
def standardShape (d : Date) (h : d.zone.IsWithinDay) : Shape where
  year := .ofNat (n := d.day.year) (by decide) (by have := d.day.year_le; omega)
  day := some {
    month := .ofNat (n := d.day.month) (by decide) (by have := d.day.month_le; omega)
    day := .ofNat (n := d.day.day) (by decide) (by
      have := d.day.day_le.trans (daysInMonth_le _ _)
      omega)
    time := some {
      separator := .capital
      hour := .ofNat (n := d.clock.hour) (by decide) (by have := d.clock.hour_le; omega)
      minute := .ofNat (n := d.clock.minute) (by decide) (by have := d.clock.minute_le; omega)
      second := some {
        second := .ofNat (n := d.clock.second) (by decide) (by have := d.clock.second_le; omega)
        fraction := some ⟨pad 3 d.clock.millisecond, isDigits_pad⟩ }
      zone := d.zone.shape h } }

theorem chars_standardShape (h : d.zone.IsWithinDay) : (d.standardShape h).chars = d.isoText.toList := by
  simp only [standardShape, Shape.chars, dayChars, timeChars, secondChars, fractionChars, Separator.char,
    Digits.ofNat, Zone.chars_shape, isoText, wallChars, String.toList_ofList, List.append_assoc, List.cons_append]

theorem hasNumbers_standardShape (h : d.zone.IsWithinDay) : (d.standardShape h).written.HasNumbers d where
  year := (digitsValue_pad _ _).symm
  month := (digitsValue_pad _ _).symm
  day := (digitsValue_pad _ _).symm
  hour := (digitsValue_pad _ _).symm
  minute := (digitsValue_pad _ _).symm
  second := (digitsValue_pad _ _).symm
  millisecond := by
    have hlen : (pad 3 d.clock.millisecond).length = 3 :=
      length_pad (by decide) (by have := d.clock.millisecond_le; omega)
    change _ = digitsValue (pad 3 d.clock.millisecond) * 1000 / 10 ^ (pad 3 d.clock.millisecond).length
    rw [digitsValue_pad, hlen]
    exact (Nat.mul_div_cancel _ (by decide)).symm

theorem offset_standardShape (h : d.zone.IsWithinDay) :
    (d.standardShape h).written.offsetHours < 24 ∧ (d.standardShape h).written.offsetMinutes < 60 := by
  obtain ⟨day, clock, zone, raw⟩ := d
  cases zone with
  | utc | unspecified => exact ⟨show 0 < 24 by decide, show 0 < 60 by decide⟩
  | offset written minutes =>
    change minutes.natAbs < 24 * 60 at h
    change digitsValue (pad 2 (minutes.natAbs / 60)) < 24 ∧ digitsValue (pad 2 (minutes.natAbs % 60)) < 60
    rw [digitsValue_pad, digitsValue_pad]
    omega

/-- The standard form of a date is read as the same day and time, with the same offset. -/
theorem read_isoText (h : d.zone.IsWithinDay) :
    ∃ d', read d.isoText = .ok (some d') ∧ d'.day = d.day ∧ d'.clock = d.clock ∧ d'.zone.Agrees d.zone := by
  have hs := chars_standardShape h
  have hn := hasNumbers_standardShape h
  obtain ⟨hhours, hminutes⟩ := offset_standardShape h
  obtain ⟨d', hd'⟩ := exists_read_eq_date_iff.mpr ⟨_, hs, hhours, hminutes, hn.isDate⟩
  obtain ⟨hn', hz⟩ := denotes_of_read hs hd'
  exact ⟨d', hd', (hn.unique hn').1, (hn.unique hn').2, Zone.agrees_of_denotes h hz⟩

theorem isoText_congr (hday : d'.day = d.day) (hclock : d'.clock = d.clock) (hzone : d'.zone.Agrees d.zone) :
    d'.isoText = d.isoText := by
  rw [isoText, isoText, wallChars, wallChars, hday, hclock, hzone.chars_eq]

theorem utcMilliseconds?_congr (hday : d'.day = d.day) (hclock : d'.clock = d.clock)
    (hzone : d'.zone.Agrees d.zone) : d'.utcMilliseconds? = d.utcMilliseconds? := by
  have hwall : d'.wallMilliseconds = d.wallMilliseconds := by rw [wallMilliseconds, wallMilliseconds, hday, hclock]
  rw [utcMilliseconds?_eq, utcMilliseconds?_eq, hzone.offsetSeconds?_eq, hwall]

theorem offsetSeconds?_eq_none_iff : zone.offsetSeconds? = none ↔ zone = .unspecified := by
  cases zone <;> simp [Zone.offsetSeconds?]

/-- The standard form of a date that was read is read as the same day and time with the same offset, and so as the
same instant; it is the standard form of that date as well. A date without a zone has no instant, and any other
one is at the time on its clock without the offset. -/
theorem read_standard (h : read raw = .ok (some d)) :
    (∃ d', read d.isoText = .ok (some d') ∧ d'.day = d.day ∧ d'.clock = d.clock ∧ d'.zone.Agrees d.zone ∧
      d'.zone.offsetSeconds? = d.zone.offsetSeconds? ∧ d'.utcMilliseconds? = d.utcMilliseconds? ∧
      d'.isoText = d.isoText) ∧
    (d.utcMilliseconds? = none ↔ d.zone = .unspecified) ∧
    ∀ t, d.utcMilliseconds? = some t ↔
      ∃ seconds, d.zone.offsetSeconds? = some seconds ∧ t = d.wallMilliseconds - 1000 * seconds := by
  refine ⟨?_, ?_, fun t => ?_⟩
  · obtain ⟨d', hd', hday, hclock, hzone⟩ := read_isoText (isWithinDay_of_read h)
    exact ⟨d', hd', hday, hclock, hzone, hzone.offsetSeconds?_eq, utcMilliseconds?_congr hday hclock hzone,
      isoText_congr hday hclock hzone⟩
  · rw [utcMilliseconds?_eq, Option.map_eq_none_iff, offsetSeconds?_eq_none_iff]
  · rw [utcMilliseconds?_eq, Option.map_eq_some_iff]
    exact exists_congr fun seconds => and_congr_right fun _ => eq_comm

/-- A date whose instant comes before the year 0, with an offset that is written without a colon and a fraction of
which not all digits are kept. -/
theorem read_standard_before_year_zero :
    ∃ d, read "0000-01-01t00:00:00.9999+2359" = .ok (some d) ∧
      d.isoText = "0000-01-01T00:00:00.999+23:59" ∧ d.utcMilliseconds? = some (-62167305539001) ∧
      ∃ d', read d.isoText = .ok (some d') ∧ d'.day = d.day ∧ d'.clock = d.clock ∧ d'.zone.Agrees d.zone ∧
        d'.zone.offsetSeconds? = d.zone.offsetSeconds? ∧ d'.utcMilliseconds? = d.utcMilliseconds? ∧
        d'.isoText = d.isoText := by
  have hd : read "0000-01-01t00:00:00.9999+2359" = .ok (some {
      day := ⟨0, 1, 1, by decide, by decide, by decide, by decide, by decide⟩
      clock := ⟨0, 0, 0, 999, by decide, by decide, by decide, by decide⟩
      zone := .offset "+2359" 1439
      raw := "0000-01-01t00:00:00.9999+2359" }) := by decide +kernel
  exact ⟨_, hd, by decide +kernel, by decide +kernel, (read_standard hd).1⟩

end Date

end FormLang
