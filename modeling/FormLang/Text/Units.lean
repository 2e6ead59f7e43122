/-!
# Length in sixteen-bit units

A character of the basic plane takes one sixteen-bit unit, and every other character takes two.
-/

namespace FormLang.Text

-- Sums start from the built-in zero, whatever other instances are in scope.
attribute [local instance (high)] Zero.ofOfNat0

/-- The number of sixteen-bit units of a character. -/
def unitsOf (c : Char) : Nat := if c.toNat < 0x10000 then 1 else 2

/-- The number of sixteen-bit units of a text. -/
def units (cs : List Char) : Nat := (cs.map unitsOf).sum

end FormLang.Text
