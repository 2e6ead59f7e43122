import FormLang.Proofs.Date.Shape
import FormLang.Proofs.Text.Blank

/-!
# What is read of a text

The date of a text, or why it has none, is decided by its shape (`read_of_chars`, `read_of_no_shape`), by
the hours of the offset, by its minutes, and by whether the numbers are a date (`Written.IsDate`), in this
order. `read_exact` says of every result when it is given.
-/

namespace FormLang.Date

open Text Numeral

/-! ## The numbers of a date -/

namespace Written

/-- The hours of the offset; none without an offset. -/
def offsetHours (w : Written) : Nat :=
  match w.zone with
  | .offset _ _ hours _ => hours
  | _ => 0

/-- The minutes of the offset beyond its hours; none without an offset. -/
def offsetMinutes (w : Written) : Nat :=
  match w.zone with
  | .offset _ _ _ minutes => minutes
  | _ => 0

/-- The calendar has the day, and the day has the time. -/
structure IsDate (w : Written) : Prop where
  month : 1 ≤ w.month ∧ w.month ≤ 12
  day : 1 ≤ w.day ∧ w.day ≤ daysInMonth w.year w.month
  hour : w.hour ≤ 23
  minute : w.minute ≤ 59
  second : w.second ≤ 59

/-- Years have four digits, and a fraction of a second is less than a second. -/
structure IsBounded (w : Written) : Prop where
  year : w.year ≤ 9999
  millisecond : w.millisecond ≤ 999

end Written

/-- A date has the day and the time that are written. -/
structure Written.HasNumbers (w : Written) (d : Date) : Prop where
  year : d.day.year = w.year
  month : d.day.month = w.month
  day : d.day.day = w.day
  hour : d.clock.hour = w.hour
  minute : d.clock.minute = w.minute
  second : d.clock.second = w.second
  millisecond : d.clock.millisecond = w.millisecond

/-- A zone is the one that is written; an offset is the sum of its hours and minutes. -/
def WrittenZone.Denotes : WrittenZone → Zone → Prop
  | .absent, zone => zone = .unspecified
  | .utc, zone => zone = .utc
  | .offset text negative hours minutes, zone =>
    ∃ distance : Int, zone = .offset text distance ∧
      60 * distance = (if negative then -1 else 1) * (3600 * hours + 60 * minutes)

theorem Fraction.milliseconds_le (f : Fraction) : f.milliseconds ≤ 999 := by
  have hlt := digitsValue_lt f.isDigits.isDigit
  have : f.milliseconds < 1000 := by
    rw [milliseconds, Nat.div_lt_iff_lt_mul (Nat.pow_pos (by decide)), Nat.mul_comm]
    exact Nat.mul_lt_mul_of_pos_left hlt (by decide)
  omega

theorem Shape.isBounded_written (s : Shape) : s.written.IsBounded where
  year := by
    have hlt := digitsValue_lt s.year.isDigit
    rw [s.year.length_eq] at hlt
    exact Nat.le_of_lt_succ hlt
  millisecond := by
    change s.fraction?.elim 0 Fraction.milliseconds ≤ 999
    cases s.fraction? with
    | none => decide
    | some f => exact f.milliseconds_le

namespace Written

variable {w : Written} {raw : String} {d : Date} {e : ReadError} {zone : Zone}

/-- The numbers of a date are those of a date. -/
theorem HasNumbers.isDate (h : w.HasNumbers d) : w.IsDate where
  month := h.month ▸ ⟨d.day.month_pos, d.day.month_le⟩
  day := h.year ▸ h.month ▸ h.day ▸ ⟨d.day.day_pos, d.day.day_le⟩
  hour := h.hour ▸ d.clock.hour_le
  minute := h.minute ▸ d.clock.minute_le
  second := h.second ▸ d.clock.second_le

/-- Dates with the same numbers have the same day and time. -/
theorem HasNumbers.unique {d' : Date} (h : w.HasNumbers d) (h' : w.HasNumbers d') :
    d'.day = d.day ∧ d'.clock = d.clock := by
  obtain ⟨⟨year, month, day, _⟩, ⟨hour, minute, second, millisecond, _⟩, _, _⟩ := d
  obtain ⟨⟨year', month', day', _⟩, ⟨hour', minute', second', millisecond', _⟩, _, _⟩ := d'
  obtain ⟨rfl, rfl, rfl, rfl, rfl, rfl, rfl⟩ := h
  obtain ⟨rfl, rfl, rfl, rfl, rfl, rfl, rfl⟩ := h'
  exact ⟨rfl, rfl⟩

/-- Numbers that are those of a date make one date in every zone. -/
theorem dated_of_isDate (hb : w.IsBounded) (h : w.IsDate) (raw : String) (zone : Zone) :
    ∃ d, toDate.dated w raw zone = .ok d ∧ w.HasNumbers d ∧ d.zone = zone ∧ d.raw = raw := by
  have hday : w.year ≤ 9999 ∧ 1 ≤ w.month ∧ w.month ≤ 12 ∧ 1 ≤ w.day ∧
      w.day ≤ daysInMonth w.year w.month := ⟨hb.year, h.month.1, h.month.2, h.day.1, h.day.2⟩
  have hclock : w.hour ≤ 23 ∧ w.minute ≤ 59 ∧ w.second ≤ 59 ∧ w.millisecond ≤ 999 :=
    ⟨h.hour, h.minute, h.second, hb.millisecond⟩
  rw [toDate.dated, Day.ofParts?, dif_pos hday, Clock.ofParts?, dif_pos hclock]
  exact ⟨_, rfl, ⟨rfl, rfl, rfl, rfl, rfl, rfl, rfl⟩, rfl, rfl⟩

theorem dated_of_not_isDate (h : ¬ w.IsDate) (raw : String) (zone : Zone) :
    toDate.dated w raw zone = .error (.invalidDate raw) := by
  unfold toDate.dated
  split
  case h_2 => rfl
  case h_1 day clock hday hclock =>
    unfold Day.ofParts? at hday
    unfold Clock.ofParts? at hclock
    split at hday <;> cases hday
    split at hclock <;> cases hclock
    rename_i hd hc
    exact absurd ⟨⟨hd.2.1, hd.2.2.1⟩, hd.2.2.2, hc.1, hc.2.1, hc.2.2.1⟩ h

/-! ## From numbers to dates -/

theorem toDate_of_le_offsetHours (h : 24 ≤ w.offsetHours) :
    w.toDate raw = .error (.invalidOffset raw) := by
  unfold offsetHours at h
  split at h
  case h_1 text negative hours minutes hz =>
    rw [toDate, hz]
    dsimp only
    rw [if_pos h]
  case h_2 => omega

theorem toDate_of_le_offsetMinutes (hh : w.offsetHours < 24) (h : 60 ≤ w.offsetMinutes) :
    w.toDate raw = .error (.invalidDate raw) := by
  unfold offsetMinutes at h
  split at h
  case h_1 text negative hours minutes hz =>
    rw [offsetHours, hz] at hh
    rw [toDate, hz]
    dsimp only at hh ⊢
    rw [if_neg (by omega), if_pos h]
  case h_2 => omega

/-- If the offset has not too many hours or minutes, the numbers decide, in the zone that is written. -/
theorem toDate_eq_dated (hh : w.offsetHours < 24) (hm : w.offsetMinutes < 60) (raw : String) :
    ∃ zone, w.zone.Denotes zone ∧ w.toDate raw = toDate.dated w raw zone := by
  unfold offsetHours at hh
  unfold offsetMinutes at hm
  unfold toDate
  cases hz : w.zone with
  | absent => exact ⟨_, rfl, rfl⟩
  | utc => exact ⟨_, rfl, rfl⟩
  | offset text negative hours minutes =>
    rw [hz] at hh hm
    dsimp only at hh hm ⊢
    rw [if_neg (by omega), if_neg (by omega)]
    refine ⟨_, ⟨_, rfl, ?_⟩, rfl⟩
    cases negative
    · simp only [Bool.false_eq_true, if_false]
      omega
    · simp only [if_true]
      omega

end Written

/-! ## From texts to numbers -/

variable {raw : String}

/-- A text with a shape is read by the numbers of the shape. -/
theorem read_of_chars {s : Shape} (h : s.chars = raw.toList) :
    read raw = (s.written.toDate raw).map some := by
  rw [read, Written.ofText?_upper_iff.mpr ⟨s, h, rfl⟩]

/-- A text without a shape is nothing or an error. -/
theorem read_of_no_shape (h : ∀ s : Shape, s.chars ≠ raw.toList) :
    read raw = if allBlank raw.toList then .ok none else .error (.unknownFormat raw) := by
  have hnone : Written.ofText? (upper raw.toList) = none := by
    rw [Option.eq_none_iff_forall_ne_some]
    intro w hw
    obtain ⟨s, hs, -⟩ := Written.ofText?_upper_iff.mp hw
    exact h s hs
  rw [read, hnone]

/-- A shape starts with a digit. -/
theorem Shape.exists_digit (s : Shape) : ∃ c cs, s.chars = c :: cs ∧ c.isDigit = true := by
  obtain ⟨⟨chars, hlen, hd⟩, day⟩ := s
  match chars, hlen with
  | c :: cs, _ => exact ⟨c, cs ++ dayChars day, rfl, hd c List.mem_cons_self⟩

/-- A text with a shape is not blank. -/
theorem Shape.not_allBlank {s : Shape} (h : s.chars = raw.toList) : allBlank raw.toList = false := by
  obtain ⟨c, cs, hc, hd⟩ := s.exists_digit
  rw [← h, hc, allBlank, List.all_cons, isBlank_of_isDigit hd, Bool.false_and]

/-- What a text with a shape is read as. -/
inductive ReadAs (raw : String) (w : Written) : Except ReadError (Option Date) → Prop where
  | invalidOffset (hh : 24 ≤ w.offsetHours) : ReadAs raw w (.error (.invalidOffset raw))
  | invalidDate (hh : w.offsetHours < 24) (h : 60 ≤ w.offsetMinutes ∨ ¬ w.IsDate) :
    ReadAs raw w (.error (.invalidDate raw))
  | date {d : Date} (hh : w.offsetHours < 24) (hm : w.offsetMinutes < 60) (hn : w.HasNumbers d)
    (hz : w.zone.Denotes d.zone) (hr : d.raw = raw) : ReadAs raw w (.ok (some d))

theorem Shape.readAs {s : Shape} (h : s.chars = raw.toList) : ReadAs raw s.written (read raw) := by
  rw [read_of_chars h]
  rcases Nat.lt_or_ge s.written.offsetHours 24 with hh | hh
  · rcases Nat.lt_or_ge s.written.offsetMinutes 60 with hm | hm
    · obtain ⟨zone, hz, ht⟩ := Written.toDate_eq_dated hh hm raw
      rw [ht]
      by_cases hd : s.written.IsDate
      · obtain ⟨d, he, hn, rfl, hr⟩ := Written.dated_of_isDate s.isBounded_written hd raw zone
        rw [he]
        exact .date hh hm hn hz hr
      · rw [Written.dated_of_not_isDate hd]
        exact .invalidDate hh (.inr hd)
    · rw [Written.toDate_of_le_offsetMinutes hh hm]
      exact .invalidDate hh (.inl hm)
  · rw [Written.toDate_of_le_offsetHours hh]
    exact .invalidOffset hh

/-! ## Which result is given when -/

/-- A text is read by its shape, or has none. -/
theorem read_cases (raw : String) :
    (∃ s : Shape, s.chars = raw.toList ∧ ReadAs raw s.written (read raw)) ∨
      (∀ s : Shape, s.chars ≠ raw.toList) ∧
        read raw = if allBlank raw.toList then .ok none else .error (.unknownFormat raw) := by
  by_cases h : ∃ s : Shape, s.chars = raw.toList
  · obtain ⟨s, hs⟩ := h
    exact .inl ⟨s, hs, s.readAs hs⟩
  · have hno (s : Shape) : s.chars ≠ raw.toList := fun hs => h ⟨s, hs⟩
    exact .inr ⟨hno, read_of_no_shape hno⟩

theorem read_eq_none_iff : read raw = .ok none ↔ allBlank raw.toList = true := by
  rcases read_cases raw with ⟨s, hs, hr⟩ | ⟨-, hr⟩
  · rw [s.not_allBlank hs]
    generalize read raw = r at hr
    cases hr <;> simp
  · rw [hr]
    split <;> simp_all

theorem read_eq_unknownFormat_iff {text : String} :
    read raw = .error (.unknownFormat text) ↔
      text = raw ∧ allBlank raw.toList = false ∧ ∀ s : Shape, s.chars ≠ raw.toList := by
  rcases read_cases raw with ⟨s, hs, hr⟩ | ⟨hno, hr⟩
  · have hnot : ¬ ∀ s : Shape, s.chars ≠ raw.toList := fun h => h s hs
    generalize read raw = r at hr
    cases hr <;> simp [hnot]
  · rw [hr]
    split
    case isTrue hb => simp [hb]
    case isFalse hb =>
      rw [Bool.not_eq_true] at hb
      simp only [Except.error.injEq, ReadError.unknownFormat.injEq]
      exact ⟨fun h => ⟨h.symm, hb, hno⟩, fun h => h.1.symm⟩

theorem read_eq_invalidOffset_iff {text : String} :
    read raw = .error (.invalidOffset text) ↔
      text = raw ∧ ∃ s : Shape, s.chars = raw.toList ∧ 24 ≤ s.written.offsetHours := by
  constructor
  · intro h
    rcases read_cases raw with ⟨s, hs, hr⟩ | ⟨-, hr⟩
    · rw [h] at hr
      cases hr with
      | invalidOffset hh => exact ⟨rfl, s, hs, hh⟩
    · rw [h] at hr
      split at hr <;> cases hr
  · rintro ⟨rfl, s, hs, hh⟩
    rw [read_of_chars hs, Written.toDate_of_le_offsetHours hh]
    rfl

theorem read_eq_invalidDate_iff {text : String} :
    read raw = .error (.invalidDate text) ↔
      text = raw ∧ ∃ s : Shape, s.chars = raw.toList ∧ s.written.offsetHours < 24 ∧
        (60 ≤ s.written.offsetMinutes ∨ ¬ s.written.IsDate) := by
  constructor
  · intro h
    rcases read_cases raw with ⟨s, hs, hr⟩ | ⟨-, hr⟩
    · rw [h] at hr
      cases hr with
      | invalidDate hh hd => exact ⟨rfl, s, hs, hh, hd⟩
    · rw [h] at hr
      split at hr <;> cases hr
  · rintro ⟨rfl, s, hs, hh, hd⟩
    have hr := s.readAs hs
    generalize read text = r at hr
    cases hr with
    | invalidOffset hh' => omega
    | invalidDate => rfl
    | date _ hm hn => exact absurd hn.isDate (hd.resolve_left (by omega))

theorem exists_read_eq_date_iff :
    (∃ d, read raw = .ok (some d)) ↔
      ∃ s : Shape, s.chars = raw.toList ∧ s.written.offsetHours < 24 ∧ s.written.offsetMinutes < 60 ∧
        s.written.IsDate := by
  constructor
  · rintro ⟨d, h⟩
    rcases read_cases raw with ⟨s, hs, hr⟩ | ⟨-, hr⟩
    · rw [h] at hr
      cases hr with
      | date hh hm hn => exact ⟨s, hs, hh, hm, hn.isDate⟩
    · rw [h] at hr
      split at hr <;> cases hr
  · rintro ⟨s, hs, hh, hm, hd⟩
    have hr := s.readAs hs
    generalize read raw = r at hr
    cases hr with
    | invalidOffset hh' => omega
    | invalidDate _ hd' => exact absurd hd (hd'.resolve_left (by omega))
    | date => exact ⟨_, rfl⟩

/-- A date that is read has the numbers and the zone of the shape, and keeps the text. -/
theorem denotes_of_read {s : Shape} {d : Date} (hs : s.chars = raw.toList) (h : read raw = .ok (some d)) :
    s.written.HasNumbers d ∧ s.written.zone.Denotes d.zone := by
  have hr := s.readAs hs
  rw [h] at hr
  cases hr with
  | date _ _ hn hz => exact ⟨hn, hz⟩

theorem raw_of_read {d : Date} (h : read raw = .ok (some d)) : d.raw = raw := by
  obtain ⟨s, hs, -⟩ := exists_read_eq_date_iff.mp ⟨d, h⟩
  have hr := s.readAs hs
  rw [h] at hr
  cases hr with
  | date _ _ _ _ hr => exact hr

/-- Each result is given for exactly these texts: nothing for blank texts; a date if a shape matches, the
offset has fewer than 24 hours and 60 minutes, and the numbers are a date; an invalid offset if a shape
matches with 24 hours or more; an invalid date if a shape matches and another number is out of its range;
and an unknown format for all other texts. A date has the numbers and the zone of its shape, and keeps the
text. -/
theorem read_exact (raw : String) :
    (read raw = .ok none ↔ allBlank raw.toList = true) ∧
    (∀ text, read raw = .error (.unknownFormat text) ↔
      text = raw ∧ allBlank raw.toList = false ∧ ∀ s : Shape, s.chars ≠ raw.toList) ∧
    (∀ text, read raw = .error (.invalidOffset text) ↔
      text = raw ∧ ∃ s : Shape, s.chars = raw.toList ∧ 24 ≤ s.written.offsetHours) ∧
    (∀ text, read raw = .error (.invalidDate text) ↔
      text = raw ∧ ∃ s : Shape, s.chars = raw.toList ∧ s.written.offsetHours < 24 ∧
        (60 ≤ s.written.offsetMinutes ∨ ¬ s.written.IsDate)) ∧
    ((∃ d, read raw = .ok (some d)) ↔
      ∃ s : Shape, s.chars = raw.toList ∧ s.written.offsetHours < 24 ∧ s.written.offsetMinutes < 60 ∧
        s.written.IsDate) ∧
    ∀ d, read raw = .ok (some d) → d.raw = raw ∧
      ∀ s : Shape, s.chars = raw.toList → s.written.HasNumbers d ∧ s.written.zone.Denotes d.zone :=
  ⟨read_eq_none_iff, fun _ => read_eq_unknownFormat_iff, fun _ => read_eq_invalidOffset_iff,
    fun _ => read_eq_invalidDate_iff, exists_read_eq_date_iff,
    fun _ h => ⟨raw_of_read h, fun _ hs => denotes_of_read hs h⟩⟩

/-- The offset is looked at before the month. -/
example : read "2021-13-01T10:00+24:00" = .error (.invalidOffset "2021-13-01T10:00+24:00") := by
  rfl

end FormLang.Date
