import FormLang.Binary64.Shortest

/-!
# Laying out significant digits

A number other than zero is `0.d₁d₂… · 10 ^ point` for digits of which neither the first nor the
last is zero (`Significant`). They are written with a point and zeros where needed (`positional`) or
as one digit, a fraction and a power of ten (`scientific`).

- `Layout`: the decisions of one way to write numbers, and `Layout.chars`: a number written so.
- `display`: the text that users see. Positional from `10 ^ -6` up to `10 ^ 21`, and a power of ten
  with its sign beyond; zero has no sign.
- `plain`: always positional.
-/

namespace FormLang.Binary64

/-- The number `0.d₁d₂… · 10 ^ point`, without its sign. -/
structure Significant where
  digits : List Char
  point : Int
deriving DecidableEq

namespace Significant

/-- The digits of a decimal number without the zeros at their end. -/
def ofDecimal (d : Decimal) : Significant :=
  let digits := Nat.toDigits 10 d.coefficient
  ⟨(digits.reverse.dropWhile (· == '0')).reverse, digits.length + d.exponent⟩

/-- The number written with a point only if it has a fraction. -/
def positional (s : Significant) : List Char :=
  if s.point ≤ 0 then '0' :: '.' :: List.replicate (-s.point).toNat '0' ++ s.digits
  else if s.digits.length ≤ s.point then
    s.digits ++ List.replicate (s.point - s.digits.length).toNat '0'
  else s.digits.take s.point.toNat ++ '.' :: s.digits.drop s.point.toNat

/-- Whether the number has a fraction. -/
def hasFraction (s : Significant) : Bool := s.point < s.digits.length

/-- The first digit, and the others after a point if there are any. -/
def mantissa : List Char → List Char
  | [] => []
  | [d] => [d]
  | d :: ds => d :: '.' :: ds

/-- The number written as one digit, a fraction and a signed power of ten. -/
def scientific (s : Significant) : List Char :=
  let power := s.point - 1
  mantissa s.digits ++ 'e' :: (if power < 0 then '-' else '+') :: Nat.toDigits 10 power.natAbs

end Significant

/-- The sign of a negative number. -/
def signText (negative : Bool) : List Char := if negative then ['-'] else []

/-- The significant digits of a number other than zero. -/
def Finite.significant (tie : Tie) (x : Finite) : Significant := .ofDecimal (x.shortest tie)

/-- The decisions of one way to write finite numbers. -/
structure Layout where
  /-- Which of two equally near decimals is taken. -/
  tie : Tie
  /-- Numbers whose point is at most this are written with a power of ten. -/
  lowest : Int
  /-- Numbers whose point is more than this are written with a power of ten. -/
  highest : Int
  /-- What follows the digits of a whole number that is written positionally. -/
  wholeEnd : List Char
  /-- Whether the negative zero has a sign. -/
  signsZero : Bool

namespace Layout

/-- A finite number written in one way. -/
def chars (layout : Layout) (x : Finite) : List Char :=
  if x.isZero then signText (x.negative && layout.signsZero) ++ '0' :: layout.wholeEnd
  else
    let s := x.significant layout.tie
    signText x.negative ++
      if layout.lowest < s.point ∧ s.point ≤ layout.highest then
        s.positional ++ if s.hasFraction then [] else layout.wholeEnd
      else s.scientific

/-- Numbers as users see them. -/
def forUsers : Layout := ⟨.away, -6, 21, [], false⟩

end Layout

/-- The text of a finite number as users see it. -/
def Finite.display (x : Finite) : List Char := Layout.forUsers.chars x

/-- The text of a number as users see it. -/
def display : Binary64 → List Char
  | .finite x => x.display
  | .infinite negative => signText negative ++ "Infinity".toList
  | .nan => "NaN".toList

/-- The text of a number without any power of ten. -/
def plain : Binary64 → List Char
  | .finite x =>
    signText x.negative ++ if x.isZero then ['0'] else (x.significant .away).positional
  | .infinite negative => signText negative ++ "inf".toList
  | .nan => "NaN".toList

end FormLang.Binary64
