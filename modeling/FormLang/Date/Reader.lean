import FormLang.Date.Basic
import FormLang.Decimal.Numeral
import FormLang.Text.Case
import FormLang.Text.Blank

/-!
# Reading dates strictly

A date is written as a year; as year, month and day; or as these with hours and minutes, perhaps
seconds, perhaps a fraction of a second, and perhaps a zone. Letters may have either case. The shape
is read from left to right (`Written.ofText?`), and only then are the numbers checked
(`Written.toDate`): first the hours of the offset, then all else.

- `Date.read`: the date of a text, nothing for a blank text, or why it is none.
-/

namespace FormLang.Date

/-- Why a text is no date. -/
inductive ReadError where
  /-- The text has no known shape. -/
  | unknownFormat (raw : String)
  /-- A number is out of its range, or the month has no such day. -/
  | invalidDate (raw : String)
  /-- The offset has too many hours. -/
  | invalidOffset (raw : String)
deriving DecidableEq

/-- The text of an error. -/
def ReadError.message : ReadError → String
  | .unknownFormat raw => "Unable to parse date \"" ++ raw ++ "\": Unknown format"
  | .invalidDate raw =>
    "Unable to parse date \"" ++ raw ++ "\": Format was recognized, but the date/time is invalid"
  | .invalidOffset raw => "Unable to parse date \"" ++ raw ++ "\": Invalid timezone offset"

/-- A zone as it is written. -/
inductive WrittenZone where
  | absent
  | utc
  | offset (text : String) (negative : Bool) (hours minutes : Nat)
deriving DecidableEq

/-- The numbers of a written date, with those that are left out filled in. -/
structure Written where
  year : Nat
  month : Nat := 1
  day : Nat := 1
  hour : Nat := 0
  minute : Nat := 0
  second : Nat := 0
  millisecond : Nat := 0
  zone : WrittenZone := .absent
deriving DecidableEq

/-- Two digits at the start of a text. -/
def two? : List Char → Option (Nat × List Char)
  | a :: b :: rest =>
    if a.isDigit ∧ b.isDigit then some (Numeral.digitsValue [a, b], rest) else none
  | _ => none

/-- Four digits at the start of a text. -/
def four? : List Char → Option (Nat × List Char)
  | a :: b :: c :: d :: rest =>
    if a.isDigit ∧ b.isDigit ∧ c.isDigit ∧ d.isDigit then
      some (Numeral.digitsValue [a, b, c, d], rest)
    else none
  | _ => none

/-- The milliseconds of a fraction of a second: its first three digits, filled up with zeros. -/
def fractionMilliseconds (digits : List Char) : Nat :=
  Numeral.digitsValue ((digits ++ ['0', '0']).take 3)

/-- The minutes of an offset that make up a text: none, or two digits perhaps after a colon. -/
def offsetMinutes? : List Char → Option Nat
  | [] => some 0
  | ':' :: cs => (two? cs).bind fun (n, rest) => if rest = [] then some n else none
  | cs => (two? cs).bind fun (n, rest) => if rest = [] then some n else none

/-- The zone that makes up a text. -/
def WrittenZone.ofText? : List Char → Option WrittenZone
  | [] => some .absent
  | ['Z'] => some .utc
  | sign :: cs =>
    if sign = '+' ∨ sign = '-' then do
      let (hours, rest) ← two? cs
      let minutes ← offsetMinutes? rest
      some (.offset (String.ofList (sign :: cs)) (sign = '-') hours minutes)
    else none

namespace Written

/-- What follows the seconds: perhaps a fraction, then perhaps a zone. -/
def afterSecond? (w : Written) : List Char → Option Written
  | '.' :: cs => do
    let (digits, rest) ← Numeral.readDigits? cs
    let zone ← WrittenZone.ofText? rest
    some { w with millisecond := fractionMilliseconds digits, zone }
  | cs => (WrittenZone.ofText? cs).map fun zone => { w with zone }

/-- What follows the minutes: perhaps seconds, then perhaps a zone. -/
def afterMinute? (w : Written) : List Char → Option Written
  | ':' :: cs => do
    let (second, rest) ← two? cs
    afterSecond? { w with second } rest
  | cs => (WrittenZone.ofText? cs).map fun zone => { w with zone }

/-- The time of day. -/
def time? (w : Written) (cs : List Char) : Option Written := do
  let (hour, rest) ← two? cs
  match rest with
  | ':' :: rest => do
    let (minute, rest) ← two? rest
    afterMinute? { w with hour, minute } rest
  | _ => none

/-- What follows the day: nothing, or a time after the letter T or one space. -/
def afterDay? (w : Written) : List Char → Option Written
  | [] => some w
  | c :: cs => if c = 'T' ∨ c = ' ' then time? w cs else none

/-- What follows the year: nothing, or the month and the day. -/
def afterYear? (year : Nat) : List Char → Option Written
  | [] => some { year }
  | '-' :: cs => do
    let (month, rest) ← two? cs
    match rest with
    | '-' :: rest => do
      let (day, rest) ← two? rest
      afterDay? { year, month, day } rest
    | _ => none
  | _ => none

/-- The numbers of a date that makes up an upper-case text. -/
def ofText? (cs : List Char) : Option Written := do
  let (year, rest) ← four? cs
  afterYear? year rest

/-- The date with these numbers. -/
def toDate (w : Written) (raw : String) : Except ReadError Date :=
  match w.zone with
  | .absent => dated .unspecified
  | .utc => dated .utc
  | .offset text negative hours minutes =>
    if 24 ≤ hours then .error (.invalidOffset raw)
    else if 60 ≤ minutes then .error (.invalidDate raw)
    else
      let distance : Int := hours * 60 + minutes
      dated (.offset text (if negative then -distance else distance))
where
  /-- The date in a zone. -/
  dated (zone : Zone) : Except ReadError Date :=
    match Day.ofParts? w.year w.month w.day,
        Clock.ofParts? w.hour w.minute w.second w.millisecond with
    | some day, some clock => .ok { day, clock, zone, raw }
    | _, _ => .error (.invalidDate raw)

end Written

/-- The date of a text; nothing if the text is blank. -/
def read (raw : String) : Except ReadError (Option Date) :=
  match Written.ofText? (Text.upper raw.toList) with
  | some written => (written.toDate raw).map some
  | none => if Text.allBlank raw.toList then .ok none else .error (.unknownFormat raw)

end FormLang.Date
