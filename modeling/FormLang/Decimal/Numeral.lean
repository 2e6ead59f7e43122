/-!
# Decimal numbers and their numerals

- `Decimal`: a sign, a coefficient and a power of ten; zero keeps its sign.
- `Numeral`: a written number cut into its parts: digits, perhaps a point with digits, perhaps a
  power of ten.
- `Numeral.ofText?`: the one way to cut a whole text into these parts.
- `Numeral.toDecimal`: the number that a numeral denotes.
- `natural?`: a natural number, perhaps after a plus sign, that fits into 64 bits.
-/

namespace FormLang

-- Powers are the built-in ones, whatever other instances are in scope.
attribute [local instance (high)] instPowNat

/-- The number `coefficient · 10 ^ exponent`, negated if `negative`. -/
structure Decimal where
  negative : Bool
  coefficient : Nat
  exponent : Int
deriving DecidableEq

/-- A written number: a minus sign, digits, digits after a point, and a power of ten. -/
structure Numeral where
  negative : Bool
  whole : List Char
  fraction : Option (List Char)
  power : Option Int
deriving DecidableEq

namespace Numeral

/-- The natural number that a list of digits denotes, the highest digit first. -/
def digitsValue (digits : List Char) : Nat := Nat.ofDigitChars 10 digits 0

/-- One or more digits at the start of a text, as many as there are, and the rest. -/
def readDigits? (cs : List Char) : Option (List Char × List Char) :=
  match cs.takeWhile Char.isDigit with
  | [] => none
  | digits => some (digits, cs.dropWhile Char.isDigit)

/-- One or more digits that make up the whole text, as a number. -/
def allDigits? (cs : List Char) : Option Nat :=
  if cs ≠ [] ∧ cs.all Char.isDigit then some (digitsValue cs) else none

/-- A whole number that makes up the whole text, with an optional sign. -/
def signed? : List Char → Option Int
  | '-' :: cs => (allDigits? cs).map fun n => -n
  | '+' :: cs => (allDigits? cs).map fun n => n
  | cs => (allDigits? cs).map fun n => n

/-- What follows the digits of a numeral: nothing, or `e` and a whole number. -/
def power? : List Char → Option (Option Int)
  | [] => some none
  | c :: cs => if c = 'e' ∨ c = 'E' then (signed? cs).map some else none

/-- What follows the digits before the point: perhaps a point with digits, then perhaps a power. -/
def fractionAndPower? : List Char → Option (Option (List Char) × Option Int)
  | '.' :: cs => do
    let (digits, rest) ← readDigits? cs
    let power ← power? rest
    some (some digits, power)
  | cs => do
    let power ← power? cs
    some (none, power)

/-- A numeral without a sign. -/
def unsigned? (negative : Bool) (cs : List Char) : Option Numeral := do
  let (whole, rest) ← readDigits? cs
  let (fraction, power) ← fractionAndPower? rest
  some ⟨negative, whole, fraction, power⟩

/-- The numeral that makes up the whole text. -/
def ofText? : List Char → Option Numeral
  | '-' :: cs => unsigned? true cs
  | cs => unsigned? false cs

/-- Whether the digits before the point start with a zero that could be left out. -/
def hasLeadingZero (n : Numeral) : Bool := n.whole.head? == some '0' && n.whole != ['0']

/-- The number that a numeral denotes. -/
def toDecimal (n : Numeral) : Decimal :=
  let places := n.fraction.getD []
  ⟨n.negative, digitsValue (n.whole ++ places), n.power.getD 0 - places.length⟩

end Numeral

/-- A natural number below `2 ^ 64`, perhaps after a plus sign. -/
def natural? (cs : List Char) : Option Nat :=
  let digits := match cs with
    | '+' :: rest => rest
    | _ => cs
  (Numeral.allDigits? digits).filter (· < 2 ^ (64 : Nat))

end FormLang
