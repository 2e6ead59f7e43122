import FormLang.Date.Basic
import FormLang.Date.Language
import FormLang.Text.Case

/-!
# Date patterns

A pattern such as `dd.MM.yyyy 'kl.' HH:mm` is cut into pieces (`Pattern.pieces`): a run of one letter
stands for a field of the date, text between single quotes for itself, two quotes for one quote, and
every other character for itself. Every pattern has pieces, but not every run of a letter stands for
a field (`Field.ofRun?`), and then the pattern cannot be used.

- `Date.format?`: a date written by a pattern in a language.
-/

namespace FormLang.Date

/-- A part of a pattern. -/
inductive Piece where
  /-- A character that stands for itself. -/
  | literal (c : Char)
  /-- A run of `count` times the same letter. -/
  | field (letter : Char) (count : Nat)
deriving DecidableEq

namespace Pattern

/-- The pieces with one more letter in front, which lengthens a run of that letter. -/
def consLetter (letter : Char) : List Piece → List Piece
  | .field other count :: pieces =>
    if other = letter then .field letter (count + 1) :: pieces
    else .field letter 1 :: .field other count :: pieces
  | pieces => .field letter 1 :: pieces

mutual

/-- The pieces of a pattern outside quotes. -/
def pieces : List Char → List Piece
  | [] => []
  | '\'' :: '\'' :: cs => .literal '\'' :: pieces cs
  | '\'' :: cs => quotedPieces cs
  | c :: cs => if c.isAlpha then consLetter c (pieces cs) else .literal c :: pieces cs

/-- The pieces of a pattern inside quotes. -/
def quotedPieces : List Char → List Piece
  | [] => []
  | '\'' :: '\'' :: cs => .literal '\'' :: quotedPieces cs
  | '\'' :: cs => pieces cs
  | c :: cs => .literal c :: quotedPieces cs

end

end Pattern

/-! ## Fields -/

/-- What a run of a letter shows of a date. Numbers have a least number of digits. -/
inductive Field where
  | year (width : Nat)
  | yearOfCentury
  | month (width : Nat)
  | shortMonth
  | fullMonth
  | monthInitial
  | day (width : Nat)
  | shortWeekday
  | fullWeekday
  | weekdayInitial
  | hour (width : Nat)
  | hourOfTwelve (width : Nat)
  | minute (width : Nat)
  | second (width : Nat)
  | fraction (digits : Nat)
  | halfOfDay
deriving DecidableEq

/-- The field that a run of a letter stands for, if there is one. -/
def Field.ofRun? (letter : Char) (count : Nat) : Option Field :=
  match letter, count with
  | 'y', 2 => some .yearOfCentury
  | 'y', n => if n ≤ 4 then some (.year n) else none
  | 'M', 3 => some .shortMonth
  | 'M', 4 => some .fullMonth
  | 'M', 5 => some .monthInitial
  | 'M', n => if n ≤ 2 then some (.month n) else none
  | 'd', n => if n ≤ 2 then some (.day n) else none
  | 'E', 4 => some .fullWeekday
  | 'E', 5 => some .weekdayInitial
  | 'E', n => if n ≤ 3 then some .shortWeekday else none
  | 'H', n => if n ≤ 2 then some (.hour n) else none
  | 'h', n => if n ≤ 2 then some (.hourOfTwelve n) else none
  | 'm', n => if n ≤ 2 then some (.minute n) else none
  | 's', n => if n ≤ 2 then some (.second n) else none
  | 'S', n => if n ≤ 3 then some (.fraction n) else none
  | 'a', n => if n = 1 then some .halfOfDay else none
  | _, _ => none

/-- The element of a list of names with a given number. -/
def nameAt (names : List String) (i : Nat) : List Char := (names[i]?.getD "").toList

/-- The initial of a name, in upper case. -/
def initial (name : List Char) : List Char := Text.upper (name.take 1)

/-- The hour on a clock with twelve hours. -/
def onTwelveHourDial (hour : Nat) : Nat := if hour % 12 = 0 then 12 else hour % 12

/-- The text of a field. -/
def Field.chars (names : Names) (d : Date) : Field → List Char
  | .year width => pad width d.day.year
  | .yearOfCentury => pad 2 (d.day.year % 100)
  | .month width => pad width d.day.month
  | .shortMonth => nameAt names.shortMonths (d.day.month - 1)
  | .fullMonth => nameAt names.months (d.day.month - 1)
  | .monthInitial => initial (nameAt names.months (d.day.month - 1))
  | .day width => pad width d.day.day
  | .shortWeekday => nameAt names.shortWeekdays d.day.weekday
  | .fullWeekday => nameAt names.weekdays d.day.weekday
  | .weekdayInitial => initial (nameAt names.weekdays d.day.weekday)
  | .hour width => pad width d.clock.hour
  | .hourOfTwelve width => pad width (onTwelveHourDial d.clock.hour)
  | .minute width => pad width d.clock.minute
  | .second width => pad width d.clock.second
  | .fraction digits => (pad 3 d.clock.millisecond).take digits
  | .halfOfDay => (if d.clock.hour < 12 then names.forenoon else names.afternoon).toList

/-- The text of a piece. -/
def pieceChars? (names : Names) (d : Date) : Piece → Option (List Char)
  | .literal c => some [c]
  | .field letter count => (Field.ofRun? letter count).map (Field.chars names d)

/-- A date written by a pattern in a language. -/
def format? (d : Date) (pattern language : String) : Option String :=
  ((Pattern.pieces pattern.toList).mapM (pieceChars? (.ofLanguage language) d)).map fun texts =>
    String.ofList texts.flatten

end FormLang.Date
