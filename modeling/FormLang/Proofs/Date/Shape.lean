import Mathlib.Data.List.TakeWhile
import FormLang.Date.Reader
import FormLang.Proofs.Decimal.Numeral
import FormLang.Proofs.Text.Case

/-!
# The shapes of written dates

A written date is a year; a year, a month and a day; or these with a time of day and perhaps a zone
(`Shape`). Every shape has one text (`Shape.chars`) and numbers (`Shape.written`). The reader recognises a
text, after it has been put into upper case, exactly if it is the text of a shape, and finds the shape's
numbers (`ofText?_upper_iff`). No special upper case of any other character makes a text a date.
-/

namespace FormLang.Date

open Text Numeral

/-! ## Shapes -/

/-- A fixed number of digits. -/
structure Digits (n : Nat) where
  chars : List Char
  length_eq : chars.length = n
  isDigit : ∀ c ∈ chars, c.isDigit = true

/-- The number that digits denote. -/
def Digits.value {n : Nat} (ds : Digits n) : Nat := digitsValue ds.chars

/-- The digits of a fraction of a second. -/
structure Fraction where
  digits : List Char
  isDigits : IsDigits digits

/-- The fraction in milliseconds, rounded down. -/
def Fraction.milliseconds (f : Fraction) : Nat := digitsValue f.digits * 1000 / 10 ^ f.digits.length

/-- What stands between a day and a time. -/
inductive Separator where
  | capital
  | small
  | blank

/-- The character that stands between a day and a time. -/
def Separator.char : Separator → Char
  | .capital => 'T'
  | .small => 't'
  | .blank => ' '

/-- The minutes of an offset: none, or two digits perhaps after a colon. -/
inductive OffsetMinutes where
  | none
  | joined (minutes : Digits 2)
  | apart (minutes : Digits 2)

/-- The text of the minutes of an offset. -/
def OffsetMinutes.chars : OffsetMinutes → List Char
  | .none => []
  | .joined minutes => minutes.chars
  | .apart minutes => ':' :: minutes.chars

/-- The number of the minutes of an offset. -/
def OffsetMinutes.value : OffsetMinutes → Nat
  | .none => 0
  | .joined minutes | .apart minutes => minutes.value

/-- A zone at the end of a time. -/
inductive ZoneShape where
  | absent
  | utc (small : Bool)
  | offset (negative : Bool) (hours : Digits 2) (minutes : OffsetMinutes)

/-- The text of a zone. -/
def ZoneShape.chars : ZoneShape → List Char
  | .absent => []
  | .utc small => [if small then 'z' else 'Z']
  | .offset negative hours minutes =>
    (if negative then '-' else '+') :: (hours.chars ++ minutes.chars)

/-- A zone as it is written, an offset in upper case. -/
def ZoneShape.written : ZoneShape → WrittenZone
  | .absent => .absent
  | .utc _ => .utc
  | .offset negative hours minutes =>
    .offset (String.ofList (upper (ZoneShape.offset negative hours minutes).chars)) negative hours.value
      minutes.value

/-- The seconds of a time, perhaps with a fraction. -/
structure SecondShape where
  second : Digits 2
  fraction : Option Fraction

/-- The text of a fraction after its point. -/
def fractionChars : Option Fraction → List Char
  | none => []
  | some f => '.' :: f.digits

/-- The text of the seconds after their colon. -/
def secondChars : Option SecondShape → List Char
  | none => []
  | some s => ':' :: (s.second.chars ++ fractionChars s.fraction)

/-- A time of day with what stands before it. -/
structure TimeShape where
  separator : Separator
  hour : Digits 2
  minute : Digits 2
  second : Option SecondShape
  zone : ZoneShape

/-- The text of a time of day. -/
def timeChars : Option TimeShape → List Char
  | none => []
  | some t =>
    t.separator.char :: (t.hour.chars ++ ':' :: (t.minute.chars ++ (secondChars t.second ++ t.zone.chars)))

/-- A month and a day, perhaps with a time. -/
structure DayShape where
  month : Digits 2
  day : Digits 2
  time : Option TimeShape

/-- The text of a month and a day. -/
def dayChars : Option DayShape → List Char
  | none => []
  | some d => '-' :: (d.month.chars ++ '-' :: (d.day.chars ++ timeChars d.time))

/-- A written date. -/
structure Shape where
  year : Digits 4
  day : Option DayShape

namespace Shape

/-- The text of a date. -/
def chars (s : Shape) : List Char := s.year.chars ++ dayChars s.day

/-- The time of day, if it is written. -/
def time? (s : Shape) : Option TimeShape := s.day.bind (·.time)

/-- The seconds, if they are written. -/
def second? (s : Shape) : Option SecondShape := s.time?.bind (·.second)

/-- The fraction of a second, if it is written. -/
def fraction? (s : Shape) : Option Fraction := s.second?.bind (·.fraction)

/-- The numbers of a date. A month or a day that is left out is the first one, and all else is zero. -/
def written (s : Shape) : Written where
  year := s.year.value
  month := s.day.elim 1 (·.month.value)
  day := s.day.elim 1 (·.day.value)
  hour := s.time?.elim 0 (·.hour.value)
  minute := s.time?.elim 0 (·.minute.value)
  second := s.second?.elim 0 (·.second.value)
  millisecond := s.fraction?.elim 0 Fraction.milliseconds
  zone := s.time?.elim .absent (·.zone.written)

end Shape

/-! ## Digits -/

variable {cs ds : List Char} {n : Nat}

/-- Digits stand unchanged in upper case, and nothing else becomes a digit. -/
theorem upper_eq_digits_iff (hd : ∀ c ∈ ds, c.isDigit = true) {es : List Char} :
    upper cs = ds ++ es ↔ ∃ rest, cs = ds ++ rest ∧ upper rest = es :=
  upper_eq_append_iff fun c hc => toNat_lt_of_isDigit (hd c hc)

theorem Digits.upper_append (t : Digits n) (rest : List Char) :
    upper (t.chars ++ rest) = t.chars ++ upper rest :=
  (upper_eq_digits_iff t.isDigit).mpr ⟨rest, rfl, rfl⟩

theorem two?_append (t : Digits 2) (rest : List Char) : two? (t.chars ++ rest) = some (t.value, rest) := by
  obtain ⟨chars, hlen, hd⟩ := t
  match chars, hlen with
  | [a, b], _ =>
    simp only [List.mem_cons, List.not_mem_nil, or_false, forall_eq_or_imp, forall_eq] at hd
    simp only [List.cons_append, two?]
    rw [if_pos hd]
    rfl

theorem four?_append (t : Digits 4) (rest : List Char) :
    four? (t.chars ++ rest) = some (t.value, rest) := by
  obtain ⟨chars, hlen, hd⟩ := t
  match chars, hlen with
  | [a, b, c, d], _ =>
    simp only [List.mem_cons, List.not_mem_nil, or_false, forall_eq_or_imp, forall_eq] at hd
    simp only [List.cons_append, four?]
    rw [if_pos hd]
    rfl

/-- Two digits of a text in upper case are two digits of the text. -/
theorem exists_of_two? (h : two? (upper cs) = some (n, ds)) :
    ∃ (t : Digits 2) (rest : List Char), cs = t.chars ++ rest ∧ upper rest = ds := by
  unfold two? at h
  split at h
  case h_2 => cases h
  case h_1 a b _ hu =>
    split at h <;> cases h
    have hd : ∀ c ∈ [a, b], c.isDigit = true := by simpa
    obtain ⟨rest, rfl, hr⟩ := (upper_eq_digits_iff hd).mp hu
    exact ⟨⟨[a, b], rfl, hd⟩, rest, rfl, hr⟩

/-- Four digits of a text in upper case are four digits of the text. -/
theorem exists_of_four? (h : four? (upper cs) = some (n, ds)) :
    ∃ (t : Digits 4) (rest : List Char), cs = t.chars ++ rest ∧ upper rest = ds := by
  unfold four? at h
  split at h
  case h_2 => cases h
  case h_1 a b c d _ hu =>
    split at h <;> cases h
    have hd : ∀ e ∈ [a, b, c, d], e.isDigit = true := by simpa
    obtain ⟨rest, rfl, hr⟩ := (upper_eq_digits_iff hd).mp hu
    exact ⟨⟨[a, b, c, d], rfl, hd⟩, rest, rfl, hr⟩

/-- The digits at the start of a text in upper case are digits of the text. -/
theorem exists_of_readDigits? {es : List Char} (h : readDigits? (upper cs) = some (es, ds)) :
    ∃ (f : Fraction) (rest : List Char), cs = f.digits ++ rest ∧ upper rest = ds := by
  have hd : ∀ c ∈ (upper cs).takeWhile Char.isDigit, c.isDigit = true := fun _ => List.mem_takeWhile_imp
  unfold readDigits? at h
  split at h
  case h_1 => cases h
  case h_2 hne =>
    cases h
    obtain ⟨rest, hc, hr⟩ := (upper_eq_digits_iff hd).mp List.takeWhile_append_dropWhile.symm
    exact ⟨⟨_, hne, hd⟩, rest, hc, hr⟩

theorem exists_digit_of_two? {r : Nat × List Char} (h : two? ds = some r) :
    ∃ d es, ds = d :: es ∧ d.isDigit = true := by
  unfold two? at h
  split at h
  case h_1 =>
    split at h
    · rename_i hd
      exact ⟨_, _, rfl, hd.1⟩
    · cases h
  case h_2 => cases h

/-! ## Every recognised text has a shape -/

/-- What `offsetMinutes?` asks of the digits of the minutes. -/
theorem exists_of_lastTwo
    (h : ((two? (upper cs)).bind fun (m, rest) => if rest = [] then some m else none) = some n) :
    ∃ t : Digits 2, t.chars = cs := by
  obtain ⟨⟨m, es⟩, ht, hn⟩ := Option.bind_eq_some_iff.mp h
  dsimp only at hn
  split at hn
  · rename_i he
    obtain ⟨t, rest, rfl, hr⟩ := exists_of_two? ht
    rw [he, upper_eq_nil_iff] at hr
    exact ⟨t, by rw [hr, List.append_nil]⟩
  · cases hn

theorem exists_of_offsetMinutes? (h : offsetMinutes? (upper cs) = some n) :
    ∃ m : OffsetMinutes, m.chars = cs := by
  unfold offsetMinutes? at h
  split at h
  case h_1 hu => exact ⟨.none, (upper_eq_nil_iff.mp hu).symm⟩
  case h_2 ds hu =>
    obtain ⟨rest, rfl, rfl⟩ := (upper_eq_cons_iff (by decide)).mp hu
    obtain ⟨t, rfl⟩ := exists_of_lastTwo h
    exact ⟨.apart t, rfl⟩
  case h_3 =>
    obtain ⟨t, rfl⟩ := exists_of_lastTwo h
    exact ⟨.joined t, rfl⟩

theorem exists_of_zone {z : WrittenZone} (h : WrittenZone.ofText? (upper cs) = some z) :
    ∃ zone : ZoneShape, zone.chars = cs := by
  unfold WrittenZone.ofText? at h
  split at h
  case h_1 hu => exact ⟨.absent, (upper_eq_nil_iff.mp hu).symm⟩
  case h_2 hu =>
    obtain ⟨c, rest, hc, rfl, hr⟩ := upper_eq_cons_Z hu
    obtain rfl := upper_eq_nil_iff.mp hr
    rcases hc with rfl | rfl
    · exact ⟨.utc false, rfl⟩
    · exact ⟨.utc true, rfl⟩
  case h_3 sign ds _ hu =>
    split at h
    case isFalse => cases h
    case isTrue hs =>
      simp only [Option.bind_eq_bind, Option.bind_eq_some_iff] at h
      obtain ⟨⟨hours, es⟩, hh, minutes, hm, -⟩ := h
      have hlt : sign.toNat < 0x41 := by rcases hs with rfl | rfl <;> decide
      obtain ⟨rest, rfl, rfl⟩ := (upper_eq_cons_iff hlt).mp hu
      obtain ⟨t, rest, rfl, rfl⟩ := exists_of_two? hh
      obtain ⟨m, rfl⟩ := exists_of_offsetMinutes? hm
      rcases hs with rfl | rfl
      · exact ⟨.offset false t m, rfl⟩
      · exact ⟨.offset true t m, rfl⟩

namespace Written

variable {w w' : Written}

theorem exists_of_afterSecond? (h : afterSecond? w (upper cs) = some w') :
    ∃ (f : Option Fraction) (zone : ZoneShape), fractionChars f ++ zone.chars = cs := by
  unfold afterSecond? at h
  split at h
  case h_1 ds hu =>
    simp only [Option.bind_eq_bind, Option.bind_eq_some_iff] at h
    obtain ⟨⟨digits, es⟩, hd, z, hz, -⟩ := h
    obtain ⟨rest, rfl, rfl⟩ := (upper_eq_cons_iff (by decide)).mp hu
    obtain ⟨f, rest, rfl, rfl⟩ := exists_of_readDigits? hd
    obtain ⟨zone, rfl⟩ := exists_of_zone hz
    exact ⟨some f, zone, rfl⟩
  case h_2 =>
    obtain ⟨z, hz, -⟩ := Option.map_eq_some_iff.mp h
    obtain ⟨zone, rfl⟩ := exists_of_zone hz
    exact ⟨none, zone, rfl⟩

theorem exists_of_afterMinute? (h : afterMinute? w (upper cs) = some w') :
    ∃ (s : Option SecondShape) (zone : ZoneShape), secondChars s ++ zone.chars = cs := by
  unfold afterMinute? at h
  split at h
  case h_1 ds hu =>
    simp only [Option.bind_eq_bind, Option.bind_eq_some_iff] at h
    obtain ⟨⟨second, es⟩, hs, h⟩ := h
    obtain ⟨rest, rfl, rfl⟩ := (upper_eq_cons_iff (by decide)).mp hu
    obtain ⟨t, rest, rfl, rfl⟩ := exists_of_two? hs
    obtain ⟨f, zone, rfl⟩ := exists_of_afterSecond? h
    exact ⟨some ⟨t, f⟩, zone, by simp [secondChars]⟩
  case h_2 =>
    obtain ⟨z, hz, -⟩ := Option.map_eq_some_iff.mp h
    obtain ⟨zone, rfl⟩ := exists_of_zone hz
    exact ⟨none, zone, rfl⟩

theorem exists_of_time? (h : time? w (upper cs) = some w') :
    ∃ (hour minute : Digits 2) (s : Option SecondShape) (zone : ZoneShape),
      hour.chars ++ ':' :: (minute.chars ++ (secondChars s ++ zone.chars)) = cs := by
  simp only [time?, Option.bind_eq_bind, Option.bind_eq_some_iff] at h
  obtain ⟨⟨hour, es⟩, hh, h⟩ := h
  obtain ⟨t, rest, rfl, rfl⟩ := exists_of_two? hh
  dsimp only at h
  split at h
  case h_2 => cases h
  case h_1 ds hu =>
    obtain ⟨⟨minute, es⟩, hm, h⟩ := Option.bind_eq_some_iff.mp h
    obtain ⟨rest, rfl, rfl⟩ := (upper_eq_cons_iff (by decide)).mp hu
    obtain ⟨m, rest, rfl, rfl⟩ := exists_of_two? hm
    obtain ⟨s, zone, rfl⟩ := exists_of_afterMinute? h
    exact ⟨t, m, s, zone, rfl⟩

theorem exists_of_afterDay? (h : afterDay? w (upper cs) = some w') :
    ∃ t : Option TimeShape, timeChars t = cs := by
  unfold afterDay? at h
  split at h
  case h_1 hu => exact ⟨none, (upper_eq_nil_iff.mp hu).symm⟩
  case h_2 c ds hu =>
    split at h
    case isFalse => cases h
    case isTrue hc =>
      have hsep : ∃ (s : Separator) (rest : List Char), cs = s.char :: rest ∧ upper rest = ds := by
        rcases hc with rfl | rfl
        · -- The time starts with a digit, so the letter is no part of a ligature.
          obtain ⟨⟨hour, es⟩, hh, -⟩ := Option.bind_eq_some_iff.mp h
          obtain ⟨d, es, rfl, hd⟩ := exists_digit_of_two? hh
          obtain ⟨c, rest, hc, rfl, hr⟩ := upper_eq_cons_T hd hu
          rcases hc with rfl | rfl
          · exact ⟨.capital, rest, rfl, hr⟩
          · exact ⟨.small, rest, rfl, hr⟩
        · obtain ⟨rest, rfl, hr⟩ := (upper_eq_cons_iff (by decide)).mp hu
          exact ⟨.blank, rest, rfl, hr⟩
      obtain ⟨s, rest, rfl, rfl⟩ := hsep
      obtain ⟨hour, minute, second, zone, rfl⟩ := exists_of_time? h
      exact ⟨some ⟨s, hour, minute, second, zone⟩, rfl⟩

theorem exists_of_afterYear? {year : Nat} (h : afterYear? year (upper cs) = some w) :
    ∃ d : Option DayShape, dayChars d = cs := by
  unfold afterYear? at h
  split at h
  case h_1 hu => exact ⟨none, (upper_eq_nil_iff.mp hu).symm⟩
  case h_3 => cases h
  case h_2 ds hu =>
    simp only [Option.bind_eq_bind, Option.bind_eq_some_iff] at h
    obtain ⟨⟨month, es⟩, hm, h⟩ := h
    obtain ⟨rest, rfl, rfl⟩ := (upper_eq_cons_iff (by decide)).mp hu
    obtain ⟨m, rest, rfl, rfl⟩ := exists_of_two? hm
    dsimp only at h
    split at h
    case h_2 => cases h
    case h_1 ds hu =>
      obtain ⟨⟨day, es⟩, hd, h⟩ := Option.bind_eq_some_iff.mp h
      obtain ⟨rest, rfl, rfl⟩ := (upper_eq_cons_iff (by decide)).mp hu
      obtain ⟨d, rest, rfl, rfl⟩ := exists_of_two? hd
      obtain ⟨t, rfl⟩ := exists_of_afterDay? h
      exact ⟨some ⟨m, d, t⟩, rfl⟩

/-- A text that is recognised in upper case is the text of a shape. -/
theorem exists_of_ofText? (h : ofText? (upper cs) = some w) : ∃ s : Shape, s.chars = cs := by
  obtain ⟨⟨year, es⟩, hy, h⟩ := Option.bind_eq_some_iff.mp h
  obtain ⟨y, rest, rfl, rfl⟩ := exists_of_four? hy
  obtain ⟨d, rfl⟩ := exists_of_afterYear? h
  exact ⟨⟨y, d⟩, rfl⟩

end Written

/-! ## Every shape is recognised -/

/-- The first three digits of a fraction, filled up with zeros, are its milliseconds rounded down. -/
theorem fractionMilliseconds_eq (f : Fraction) : fractionMilliseconds f.digits = f.milliseconds := by
  obtain ⟨digits, hne, hd⟩ := f
  have hpos : 0 < digits.length := List.length_pos_iff.mpr hne
  have hzeros : ∀ c ∈ digits ++ ['0', '0'], c.isDigit = true := by
    intro c hc
    rcases List.mem_append.mp hc with hc | hc
    · exact hd c hc
    · simp only [List.mem_cons, List.not_mem_nil, or_false, or_self] at hc
      rw [hc]
      decide
  rw [fractionMilliseconds, digitsValue_take hzeros, digitsValue_append, Fraction.milliseconds]
  have hlen : (digits ++ ['0', '0']).length - 3 = digits.length - 1 := by
    rw [List.length_append]
    rfl
  have hpow : 10 ^ digits.length = 10 ^ (digits.length - 1) * 10 := by
    rw [← Nat.pow_succ]
    congr 1
    omega
  rw [hlen, hpow, ← Nat.mul_div_mul_right _ _ (show 0 < 10 by decide)]
  congr 1
  change (100 * digitsValue digits + 0) * 10 = digitsValue digits * 1000
  omega

theorem offsetMinutes?_upper (m : OffsetMinutes) : offsetMinutes? (upper m.chars) = some m.value := by
  have htwo (t : Digits 2) : two? (upper t.chars) = some (t.value, []) := by
    have := two?_append t []
    rwa [← upper_nil, ← t.upper_append, List.append_nil] at this
  cases m with
  | none => rfl
  | joined t =>
    obtain ⟨d, es, hu, hd⟩ := exists_digit_of_two? (htwo t)
    unfold offsetMinutes? OffsetMinutes.chars
    split
    case h_1 hnil => exact absurd (hu.symm.trans hnil) (List.cons_ne_nil _ _)
    case h_2 hcolon =>
      obtain ⟨rfl, -⟩ := List.cons.inj (hu.symm.trans hcolon)
      exact absurd hd (by decide)
    case h_3 =>
      rw [htwo]
      rfl
  | apart t =>
    rw [OffsetMinutes.chars, upper_cons, upperOf_of_lt (by decide), List.singleton_append]
    simp only [offsetMinutes?]
    rw [htwo]
    rfl

theorem ofText?_zone (zone : ZoneShape) : WrittenZone.ofText? (upper zone.chars) = some zone.written := by
  cases zone with
  | absent => rfl
  | utc small => cases small <;> rfl
  | offset negative hours minutes =>
    have hsign : (if negative then '-' else '+').toNat < 0x41 := by cases negative <;> decide
    have hu : upper (ZoneShape.offset negative hours minutes).chars =
        (if negative then '-' else '+') :: (hours.chars ++ upper minutes.chars) :=
      (upper_eq_cons_iff hsign).mpr ⟨_, rfl, hours.upper_append _⟩
    rw [ZoneShape.written, hu]
    cases negative <;> simp [WrittenZone.ofText?, two?_append, offsetMinutes?_upper]

/-- In upper case, the text of a zone cannot be mistaken for what may stand before it. -/
theorem head?_upper_zone (zone : ZoneShape) :
    ∀ c ∈ (upper zone.chars).head?, c ≠ '.' ∧ c ≠ ':' ∧ c.isDigit = false := by
  cases zone with
  | absent => nofun
  | utc small =>
    have hu : upper (ZoneShape.utc small).chars = ['Z'] := by cases small <;> rfl
    intro c hc
    rw [hu] at hc
    cases hc
    decide
  | offset negative hours minutes =>
    have hsign : (if negative then '-' else '+').toNat < 0x41 := by cases negative <;> decide
    intro c hc
    rw [ZoneShape.chars, upper_cons, upperOf_of_lt hsign] at hc
    cases hc
    cases negative <;> decide

namespace Written

theorem afterSecond?_upper (w : Written) (f : Option Fraction) (zone : ZoneShape) :
    afterSecond? w (upper (fractionChars f ++ zone.chars)) =
      some { w with millisecond := f.elim w.millisecond Fraction.milliseconds, zone := zone.written } := by
  cases f with
  | none =>
    rw [fractionChars, List.nil_append]
    unfold afterSecond?
    split
    case h_1 hu => exact absurd rfl (head?_upper_zone zone '.' (hu ▸ rfl)).1
    case h_2 =>
      rw [ofText?_zone]
      rfl
  | some f =>
    have hu : upper (fractionChars (some f) ++ zone.chars) = '.' :: (f.digits ++ upper zone.chars) :=
      (upper_eq_cons_iff (by decide)).mpr
        ⟨_, rfl, (upper_eq_digits_iff f.isDigits.isDigit).mpr ⟨_, rfl, rfl⟩⟩
    rw [hu]
    simp only [afterSecond?]
    rw [readDigits?_append f.isDigits fun c hc => (head?_upper_zone zone c hc).2.2]
    simp only [Option.bind_eq_bind, Option.bind_some, ofText?_zone, fractionMilliseconds_eq]
    rfl

theorem afterMinute?_upper (w : Written) (s : Option SecondShape) (zone : ZoneShape) :
    afterMinute? w (upper (secondChars s ++ zone.chars)) =
      some { w with
        second := s.elim w.second (·.second.value)
        millisecond := (s.bind (·.fraction)).elim w.millisecond Fraction.milliseconds
        zone := zone.written } := by
  cases s with
  | none =>
    rw [secondChars, List.nil_append]
    unfold afterMinute?
    split
    case h_1 hu => exact absurd rfl (head?_upper_zone zone ':' (hu ▸ rfl)).2.1
    case h_2 =>
      rw [ofText?_zone]
      rfl
  | some s =>
    have hu : upper (secondChars (some s) ++ zone.chars) =
        ':' :: (s.second.chars ++ upper (fractionChars s.fraction ++ zone.chars)) :=
      (upper_eq_cons_iff (by decide)).mpr
        ⟨_, by rw [secondChars, List.cons_append, List.append_assoc], s.second.upper_append _⟩
    rw [hu]
    simp only [afterMinute?, two?_append, Option.bind_eq_bind, Option.bind_some, afterSecond?_upper]
    rfl

theorem time?_upper (w : Written) (hour minute : Digits 2) (s : Option SecondShape) (zone : ZoneShape) :
    time? w (upper (hour.chars ++ ':' :: (minute.chars ++ (secondChars s ++ zone.chars)))) =
      some { w with
        hour := hour.value
        minute := minute.value
        second := s.elim w.second (·.second.value)
        millisecond := (s.bind (·.fraction)).elim w.millisecond Fraction.milliseconds
        zone := zone.written } := by
  have hu (ds : List Char) : upper (':' :: ds) = ':' :: upper ds :=
    (upper_eq_cons_iff (by decide)).mpr ⟨_, rfl, rfl⟩
  simp only [time?, hour.upper_append, two?_append, Option.bind_eq_bind, Option.bind_some, hu,
    minute.upper_append, afterMinute?_upper]

theorem afterDay?_upper (w : Written) (t : Option TimeShape) :
    afterDay? w (upper (timeChars t)) =
      some { w with
        hour := t.elim w.hour (·.hour.value)
        minute := t.elim w.minute (·.minute.value)
        second := (t.bind (·.second)).elim w.second (·.second.value)
        millisecond :=
          ((t.bind (·.second)).bind (·.fraction)).elim w.millisecond Fraction.milliseconds
        zone := t.elim w.zone (·.zone.written) } := by
  cases t with
  | none => rfl
  | some t =>
    obtain ⟨separator, hour, minute, second, zone⟩ := t
    have hu (ds : List Char) : ∃ c, (c = 'T' ∨ c = ' ') ∧ upper (separator.char :: ds) = c :: upper ds := by
      cases separator with
      | capital => exact ⟨'T', .inl rfl, rfl⟩
      | small => exact ⟨'T', .inl rfl, rfl⟩
      | blank => exact ⟨' ', .inr rfl, rfl⟩
    obtain ⟨c, hc, hu⟩ := hu (hour.chars ++ ':' :: (minute.chars ++ (secondChars second ++ zone.chars)))
    rw [timeChars, hu, afterDay?, if_pos hc, time?_upper]
    rfl

/-- The text of a shape is recognised in upper case, with the shape's numbers. -/
theorem ofText?_upper_chars (s : Shape) : ofText? (upper s.chars) = some s.written := by
  obtain ⟨year, day⟩ := s
  have hu (ds : List Char) : upper ('-' :: ds) = '-' :: upper ds :=
    (upper_eq_cons_iff (by decide)).mpr ⟨_, rfl, rfl⟩
  rw [Shape.chars, year.upper_append, ofText?, four?_append]
  cases day with
  | none => rfl
  | some day =>
    obtain ⟨month, day, time⟩ := day
    simp only [dayChars, hu, month.upper_append, day.upper_append, Option.bind_eq_bind, Option.bind_some,
      afterYear?, two?_append, afterDay?_upper]
    rfl

/-- The reader recognises the texts of shapes and no others, and finds the numbers of the shape. -/
theorem ofText?_upper_iff {w : Written} :
    ofText? (upper cs) = some w ↔ ∃ s : Shape, s.chars = cs ∧ s.written = w := by
  constructor
  · intro h
    obtain ⟨s, rfl⟩ := exists_of_ofText? h
    exact ⟨s, rfl, Option.some.inj ((ofText?_upper_chars s).symm.trans h)⟩
  · rintro ⟨s, rfl, rfl⟩
    exact ofText?_upper_chars s

end Written

end FormLang.Date
