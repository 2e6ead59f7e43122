import FormLang.Binary64.Basic
import FormLang.Decimal.Numeral

/-!
# Rounding to the nearest floating-point number

- `roundHalfEven`: a quotient rounded to the nearest whole number, a half to the even neighbour.
- `ofUnits`: the floating-point number nearest to a quotient of units; ties go to the even
  significand, and what would need more than 53 bits at the largest exponent is infinite.
- `ofDecimal`: the floating-point number nearest to a decimal number.
-/

namespace FormLang.Binary64

-- Powers are the built-in ones, whatever other instances are in scope.
attribute [local instance (high)] instPowNat

/-- The whole number nearest to `num / den`; of two that are equally near, the even one. -/
def roundHalfEven (num den : Nat) : Nat :=
  let low := num / den
  let rest := num % den
  if 2 * rest < den then low
  else if 2 * rest = den then low + low % 2
  else low + 1

/-- The number `significand · 2 ^ exponent` units, where the significand may just have grown to 54
bits by rounding; infinite if it is too large. -/
def assemble (negative : Bool) (significand exponent : Nat) : Binary64 :=
  if h : significand < 2 ^ (53 : Nat) ∧ exponent ≤ 2045 ∧
      (exponent = 0 ∨ 2 ^ (52 : Nat) ≤ significand) then
    .finite ⟨negative, significand, exponent, h.1, h.2.1, h.2.2⟩
  else if h : significand = 2 ^ (53 : Nat) ∧ exponent < 2045 then
    .finite ⟨negative, 2 ^ (52 : Nat), exponent + 1, by decide, h.2, .inr (Nat.le_refl _)⟩
  else .infinite negative

/-- The exponent at which a number of units has at most 53 bits before the point. -/
def exponentFor (units : Nat) : Nat := units.log2 - 52

/-- The number nearest to `num / den` units, negated if `negative`. -/
def ofUnits (negative : Bool) (num den : Nat) : Binary64 :=
  let exponent := exponentFor (num / den)
  assemble negative (roundHalfEven num (den * 2 ^ exponent)) exponent

/-- The number of decimal digits of a natural number. -/
def digitCount (n : Nat) : Nat := (Nat.toDigits 10 n).length

/-- The number nearest to a decimal number. What is below `10 ^ -324` is less than half a unit, and
`10 ^ 309` is larger than every finite number, so that no power of ten beyond them is computed. -/
def ofDecimal (d : Decimal) : Binary64 :=
  if d.coefficient = 0 ∨ digitCount d.coefficient + d.exponent < -323 then
    .finite (.zero d.negative)
  else if 309 ≤ d.exponent then .infinite d.negative
  else if 0 ≤ d.exponent then
    ofUnits d.negative (d.coefficient * 10 ^ d.exponent.toNat * unitsOfOne) 1
  else ofUnits d.negative (d.coefficient * unitsOfOne) (10 ^ (-d.exponent).toNat)

/-- The number nearest to a whole number. -/
def ofInt (i : Int) : Binary64 := ofUnits (i < 0) (i.natAbs * unitsOfOne) 1

end FormLang.Binary64
