/-!
# Runs of characters that move together

A case table is a list of runs. Every character of a run (`Shift.covers`) moves by the same distance
in code points; a character in no run stays where it is (`Shift.apply`).
-/

namespace FormLang.Text

/-- Every `stride`-th code point from `first` to `last`, moved by `distance`. -/
structure Shift where
  first : Nat
  last : Nat
  stride : Nat
  distance : Int

namespace Shift

/-- Whether a code point belongs to the run. -/
def covers (run : Shift) (code : Nat) : Bool :=
  run.first ≤ code && code ≤ run.last && (code - run.first) % run.stride == 0

/-- The character moved by the first run of the table that holds it. -/
def apply (table : List Shift) (c : Char) : Char :=
  match table.find? (·.covers c.toNat) with
  | some run => Char.ofNat (c.toNat + run.distance).toNat
  | none => c

end Shift

end FormLang.Text
