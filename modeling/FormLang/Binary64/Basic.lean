/-!
# Binary floating-point numbers of 64 bits

- `Binary64.Finite`: a sign, a significand below `2 ^ 53` and an exponent, in the one form that each
  number has. Its value is `± significand · 2 ^ exponent` units, a unit being the smallest positive
  number, `2 ^ -1074`.
- `Binary64`: the finite numbers, two infinities and the undefined result `nan`.
- `lt`, `le`, `eq`: comparison by value. The two zeros are equal, and `nan` compares with nothing.
-/

namespace FormLang

-- Powers are the built-in ones, whatever other instances are in scope.
attribute [local instance (high)] instPowNat

/-- The value of one, counted in units of `2 ^ -1074`. -/
def Binary64.unitsOfOne : Nat := 2 ^ (1074 : Nat)

/-- A finite number in its one form: the significand has 53 bits unless the exponent is zero. -/
structure Binary64.Finite where
  negative : Bool
  significand : Nat
  exponent : Nat
  significand_lt : significand < 2 ^ (53 : Nat)
  exponent_le : exponent ≤ 2045
  canonical : exponent = 0 ∨ 2 ^ (52 : Nat) ≤ significand
deriving DecidableEq

/-- A floating-point number of 64 bits. -/
inductive Binary64 where
  | finite (x : Binary64.Finite)
  | infinite (negative : Bool)
  | nan
deriving DecidableEq

namespace Binary64

namespace Finite

/-- Zero, with either sign. -/
def zero (negative : Bool) : Finite := ⟨negative, 0, 0, by decide, by decide, .inl rfl⟩

/-- The distance from zero, counted in units of `2 ^ -1074`. -/
def units (x : Finite) : Nat := x.significand * 2 ^ x.exponent

/-- The value, counted in units of `2 ^ -1074`. -/
def signedUnits (x : Finite) : Int := if x.negative then -x.units else x.units

/-- Whether the value is zero. -/
def isZero (x : Finite) : Bool := x.significand == 0

/-- Whether the value is a whole number. -/
def isWhole (x : Finite) : Bool := x.units % unitsOfOne == 0

/-- The whole part of the distance from zero. -/
def wholePart (x : Finite) : Nat := x.units / unitsOfOne

/-- The value without its fraction. -/
def truncate (x : Finite) : Int := if x.negative then -x.wholePart else x.wholePart

end Finite

/-- Zero. -/
def zero : Binary64 := .finite (.zero false)

/-- The place of a number in the order of values. All finite numbers lie strictly between the
infinities, and `nan` has no place. -/
def rank : Binary64 → Option Int
  | .finite x => some x.signedUnits
  | .infinite negative => some (if negative then -2 ^ (2098 : Nat) else 2 ^ (2098 : Nat))
  | .nan => none

/-- Whether a relation holds between two numbers' places. -/
def compareBy (rel : Int → Int → Bool) (a b : Binary64) : Bool :=
  match a.rank, b.rank with
  | some i, some j => rel i j
  | _, _ => false

/-- Whether one number is less than another. -/
def lt : Binary64 → Binary64 → Bool := compareBy (· < ·)

/-- Whether one number is at most another. -/
def le : Binary64 → Binary64 → Bool := compareBy (· ≤ ·)

/-- Whether two numbers have the same value. -/
def eq : Binary64 → Binary64 → Bool := compareBy (· == ·)

/-- Whether a number is neither infinite nor undefined. -/
def isFinite : Binary64 → Bool
  | .finite _ => true
  | _ => false

end Binary64

end FormLang
