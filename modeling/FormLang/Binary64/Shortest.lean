import FormLang.Binary64.Rounding

/-!
# The shortest digits that read back

Every finite number is a whole multiple of `10 ^ -1074`, since one unit is `5 ^ 1074 · 10 ^ -1074`
(`expansion`). To write it with few digits, the two neighbours of the number among the decimals of
one, two, … seventeen digits are tried (`neighbours`), and the first that rounds back to the number
is taken (`shortest`). Of two neighbours that both round back the nearer is taken; how a tie between
them is settled is a parameter (`Tie`).
-/

namespace FormLang.Binary64

-- Powers are the built-in ones, whatever other instances are in scope.
attribute [local instance (high)] instPowNat

/-- Which of two equally near decimals is taken. -/
inductive Tie where
  /-- The one farther from zero. -/
  | away
  /-- The one with the even last digit. -/
  | even
deriving DecidableEq

namespace Finite

/-- The distance from zero, counted in units of `10 ^ -1074`. -/
def expansion (x : Finite) : Nat := x.units * 5 ^ (1074 : Nat)

/-- All digits of a number. -/
def exact (x : Finite) : Decimal := ⟨x.negative, x.expansion, -1074⟩

/-- The two neighbours of a number on the grid of the decimals that leave out the last `dropped` digits
of its expansion, the preferred one first. -/
def neighbours (tie : Tie) (x : Finite) (dropped : Nat) : List Decimal :=
  let grid := 10 ^ dropped
  let low := x.expansion / grid
  let rest := x.expansion % grid
  let decimal n : Decimal := ⟨x.negative, n, dropped - 1074⟩
  if 2 * rest < grid ∨ (2 * rest = grid ∧ tie = .even ∧ low % 2 = 0) then
    [decimal low, decimal (low + 1)]
  else [decimal (low + 1), decimal low]

/-- The decimal of the fewest digits that rounds to a number, and of these the nearest to it. -/
def shortest (tie : Tie) (x : Finite) : Decimal :=
  let count := digitCount x.expansion
  let found := (List.range 17).findSome? fun n =>
    (neighbours tie x (count - (n + 1))).find? fun d => ofDecimal d = .finite x
  found.getD x.exact

end Finite

end FormLang.Binary64
