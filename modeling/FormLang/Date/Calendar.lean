/-!
# Calendar days and times of day

- `Day`: a day of the proleptic Gregorian calendar in the years 0 to 9999;
- `Clock`: a time of day in milliseconds;
- `Day.number`: the days since the first day of 1970, and `Day.weekday`: the day of the week;
- `pad`: a number with zeros in front.
-/

namespace FormLang

-- Sums start from the built-in zero, whatever other instances are in scope.
attribute [local instance (high)] Zero.ofOfNat0

/-- A number with zeros in front, so that it has at least `width` digits. -/
def pad (width n : Nat) : List Char :=
  let digits := Nat.toDigits 10 n
  List.replicate (width - digits.length) '0' ++ digits

/-- Whether a year has a leap day. -/
def isLeapYear (year : Nat) : Bool := year % 4 == 0 && (year % 100 != 0 || year % 400 == 0)

/-- The number of days of a month. -/
def daysInMonth (year month : Nat) : Nat :=
  if month = 2 then (if isLeapYear year then 29 else 28)
  else if month = 4 ∨ month = 6 ∨ month = 9 ∨ month = 11 then 30
  else 31

/-- A day of the calendar. -/
structure Day where
  year : Nat
  month : Nat
  day : Nat
  year_le : year ≤ 9999
  month_pos : 1 ≤ month
  month_le : month ≤ 12
  day_pos : 1 ≤ day
  day_le : day ≤ daysInMonth year month
deriving DecidableEq

namespace Day

/-- The day with this year, month and day of the month, if there is one. -/
def ofParts? (year month day : Nat) : Option Day :=
  if h : year ≤ 9999 ∧ 1 ≤ month ∧ month ≤ 12 ∧ 1 ≤ day ∧ day ≤ daysInMonth year month then
    some ⟨year, month, day, h.1, h.2.1, h.2.2.1, h.2.2.2.1, h.2.2.2.2⟩
  else none

/-- The days from the first day of year 0 to the first day of a year. -/
def daysBeforeYear (year : Nat) : Nat :=
  365 * year + (year + 3) / 4 - (year + 99) / 100 + (year + 399) / 400

/-- The days of a year before a month. -/
def daysBeforeMonth (year month : Nat) : Nat :=
  ((List.range (month - 1)).map fun m => daysInMonth year (m + 1)).sum

/-- The days since the first day of year 0. -/
def ordinal (d : Day) : Nat := daysBeforeYear d.year + daysBeforeMonth d.year d.month + (d.day - 1)

/-- The days since the first day of 1970. -/
def number (d : Day) : Int := d.ordinal - daysBeforeYear 1970

/-- The day of the week, where Monday is 0. Year 0 starts on a Saturday. -/
def weekday (d : Day) : Nat := (d.ordinal + 5) % 7

end Day

/-- A time of day. -/
structure Clock where
  hour : Nat
  minute : Nat
  second : Nat
  millisecond : Nat
  hour_le : hour ≤ 23
  minute_le : minute ≤ 59
  second_le : second ≤ 59
  millisecond_le : millisecond ≤ 999
deriving DecidableEq

namespace Clock

/-- The time with these parts, if there is one. -/
def ofParts? (hour minute second millisecond : Nat) : Option Clock :=
  if h : hour ≤ 23 ∧ minute ≤ 59 ∧ second ≤ 59 ∧ millisecond ≤ 999 then
    some ⟨hour, minute, second, millisecond, h.1, h.2.1, h.2.2.1, h.2.2.2⟩
  else none

/-- The milliseconds since midnight. -/
def milliseconds (c : Clock) : Nat :=
  ((c.hour * 60 + c.minute) * 60 + c.second) * 1000 + c.millisecond

end Clock

end FormLang
