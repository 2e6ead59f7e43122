import FormLang.Json.Basic

/-!
# Reading numbers by scaling

A reader of JSON can trade exactness for speed. It collects the digits of a number as long as they fit
into 64 bits, rounds them to a floating-point number, and multiplies or divides that by a power of
ten, which is rounded as well. The result can be a neighbour of the nearest number, and near the
largest number it can be infinite where the nearest number is finite. A number that becomes
infinite is refused.

- `Number.ofNumeral?`: the number of a numeral that is read in this way.
-/

namespace FormLang

-- Powers are the built-in ones, whatever other instances are in scope.
attribute [local instance (high)] instPowNat

namespace Binary64

/-- A number that is neither infinite nor undefined. -/
def finite? : Binary64 → Option Finite
  | .finite x => some x
  | _ => none

/-- The rounded product of two numbers. -/
def Finite.times (x y : Finite) : Binary64 :=
  ofUnits (x.negative != y.negative) (x.units * y.units) unitsOfOne

/-- The rounded quotient of two numbers, where the second is not zero. -/
def Finite.over (x y : Finite) : Binary64 :=
  ofUnits (x.negative != y.negative) (x.units * unitsOfOne) y.units

/-- A rounded power of ten; none from `10 ^ 309` on, which is larger than every number. -/
def powerOfTen? (exponent : Nat) : Option Finite := (ofDecimal ⟨false, 1, exponent⟩).finite?

/-- The largest exponent of a power of ten that is a number. -/
def maxPowerOfTen : Nat := 308

/-- A number times a power of ten, each step rounded; none if it becomes infinite. Where the power of
ten is too small, the number is first divided by the largest one, until it is zero. -/
def Finite.scale (x : Finite) (exponent : Int) : Option Finite :=
  match powerOfTen? exponent.natAbs with
  | some power => (if 0 ≤ exponent then x.times power else x.over power).finite?
  | none =>
    if x.isZero then some x
    else if 0 ≤ exponent then none
    else do
      let power ← powerOfTen? maxPowerOfTen
      let y ← (x.over power).finite?
      y.scale (exponent + maxPowerOfTen)
termination_by (-exponent).toNat
decreasing_by simp only [maxPowerOfTen]; omega

end Binary64

namespace Json.Number

/-- A natural number with digits appended to it, as many as it takes to stay below `2 ^ 64`, and how
many these are. -/
def appendDigits (n : Nat) : List Char → Nat × Nat
  | [] => (n, 0)
  | c :: cs =>
    let next := 10 * n + (c.toNat - 0x30)
    if next < 2 ^ (64 : Nat) then
      let (total, count) := appendDigits next cs
      (total, count + 1)
    else (n, 0)

/-- The floating-point number of a numeral, by scaling. Digits before the point that are left out
count as zeros; digits after it are ignored. -/
def scaled? (n : Numeral) : Option Binary64.Finite := do
  let (whole, count) := appendDigits 0 n.whole
  let (significand, places) := appendDigits whole (n.fraction.getD [])
  let exponent : Int := n.whole.length - count - places + n.power.getD 0
  let x ← (Binary64.ofInt significand).finite?
  let y ← x.scale exponent
  some { y with negative := n.negative }

/-- The number of a numeral: a whole number that fits into 64 bits, or else a floating-point number.
The negative zero is a floating-point number. -/
def ofNumeral? (n : Numeral) : Option Number :=
  let d := n.toDecimal
  let i : Int := if d.negative then -d.coefficient else d.coefficient
  if h : -2 ^ (63 : Nat) ≤ i ∧ i < 2 ^ (64 : Nat) ∧ n.fraction = none ∧ n.power = none ∧
      ¬(d.negative = true ∧ d.coefficient = 0) then
    some (.int ⟨i, h.1, h.2.1⟩)
  else (scaled? n).map .float

end Json.Number

end FormLang
