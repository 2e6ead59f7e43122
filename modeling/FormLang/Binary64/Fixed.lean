import FormLang.Binary64.Layout
import FormLang.Decimal.Increment

/-!
# Numbers with a fixed number of decimal places

A number below `10 ^ 21` is written as the nearest numeral of the wanted places, and of two that are equally
near as the one farther from zero. Rounding takes the even one of these (`Finite.rounded`), so ties are looked
for first: the number is rounded to thirty places more, and if these are a five and zeros, the numeral before
them is made larger by one unit of its last place.
-/

namespace FormLang.Binary64

-- Powers are the built-in ones, whatever other instances are in scope.
attribute [local instance (high)] instPowNat

/-- The numeral of `n / 10 ^ places` with exactly that many places. -/
def placed (places n : Nat) : List Char :=
  let digits := Nat.toDigits 10 n
  let padded := List.replicate (places + 1 - digits.length) '0' ++ digits
  let whole := padded.length - places
  if places = 0 then padded else padded.take whole ++ '.' :: padded.drop whole

/-- How many places more than the wanted ones show whether a number is a tie. -/
def guardPlaces : Nat := 30

/-- Whether digits are a five and zeros. -/
def isHalf : List Char → Bool
  | [] => false
  | d :: ds => d == '5' && ds.all (· == '0')

namespace Finite

/-- Whether the distance from zero is less than `10 ^ 21`. -/
def isBelowFixedLimit (x : Finite) : Bool := x.units < 10 ^ (21 : Nat) * unitsOfOne

/-- The distance from zero rounded to a number of places, a half to the even neighbour. -/
def rounded (places : Nat) (x : Finite) : List Char :=
  placed places (roundHalfEven (x.units * 10 ^ places) unitsOfOne)

/-- The numeral nearest to a number's distance from zero, with a fixed number of places. -/
def fixedDigits (places : Nat) (x : Finite) : List Char :=
  let wide := x.rounded (places + guardPlaces)
  let point := wide.idxOf '.'
  let cut := if places = 0 then point else point + 1 + places
  if isHalf ((wide.drop cut).dropWhile (· == '.')) then Decimal.increment (wide.take cut)
  else x.rounded places

end Finite

/-- A number with a fixed number of places. Numbers from `10 ^ 21` on are displayed as they are, and
the negative zero has no sign. -/
def fixed (places : Nat) : Binary64 → List Char
  | .finite x =>
    if x.isBelowFixedLimit then
      signText (x.negative && !x.isZero) ++ x.fixedDigits places
    else x.display
  | x => x.display

end FormLang.Binary64
