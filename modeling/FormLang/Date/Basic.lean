import FormLang.Date.Calendar

/-!
# Dates

A date is a day, a time of day, perhaps a zone, and the text from which it was read.

- `Date.utcMilliseconds?`: the instant, when the zone is known;
- `Date.isoText`: the date in one standard form with milliseconds.
-/

namespace FormLang

/-- Where the clock of a date stands. -/
inductive Date.Zone where
  /-- Universal time. -/
  | utc
  /-- An offset from universal time, as it is written and in minutes. -/
  | offset (written : String) (minutes : Int)
  /-- Unknown: the reader's own zone. -/
  | unspecified
deriving DecidableEq

/-- A date with its time of day. -/
structure Date where
  day : Day
  clock : Clock
  zone : Date.Zone
  raw : String
deriving DecidableEq

namespace Date

/-- The name of a zone; offsets are named as they are written. -/
def Zone.label : Zone → String
  | .utc => "utc"
  | .offset written _ => written
  | .unspecified => "local"

/-- The milliseconds from the start of 1970 to the date's own day and time. -/
def wallMilliseconds (d : Date) : Int := d.day.number * 86400000 + d.clock.milliseconds

/-- The instant in milliseconds since the start of 1970, when the zone is known. -/
def utcMilliseconds? (d : Date) : Option Int :=
  match d.zone with
  | .utc => some d.wallMilliseconds
  | .offset _ minutes => some (d.wallMilliseconds - minutes * 60000)
  | .unspecified => none

/-- An offset from universal time as a sign, hours and minutes. -/
def offsetChars (minutes : Int) : List Char :=
  (if minutes < 0 then '-' else '+') ::
    pad 2 (minutes.natAbs / 60) ++ ':' :: pad 2 (minutes.natAbs % 60)

/-- The zone at the end of a date's standard form. -/
def Zone.chars : Zone → List Char
  | .utc => ['Z']
  | .offset _ minutes => offsetChars minutes
  | .unspecified => []

/-- The day and time of a date's standard form. -/
def wallChars (d : Date) : List Char :=
  pad 4 d.day.year ++ '-' :: pad 2 d.day.month ++ '-' :: pad 2 d.day.day ++
    'T' :: pad 2 d.clock.hour ++ ':' :: pad 2 d.clock.minute ++ ':' :: pad 2 d.clock.second ++
    '.' :: pad 3 d.clock.millisecond

/-- A date in its standard form. -/
def isoText (d : Date) : String := String.ofList (d.wallChars ++ d.zone.chars)

end Date

end FormLang
