import FormLang.Calls.Basic
import FormLang.Binary64.Fixed

/-!
# Rounding

A number is written with a fixed number of decimal places, from none to a hundred. A missing number
is zero, and missing places are none.
-/

namespace FormLang.Calls.Arithmetic

/-- The greatest number of decimal places. -/
def maxPlaces : Int := 100

/-- The number of decimal places that a number asks for, without its fraction. -/
def places (x : Binary64) : Except CallError Nat :=
  match x with
  | .nan => .ok 0
  | .infinite _ => .error (.placesOutOfRange x)
  | .finite y =>
    if 0 ≤ y.truncate ∧ y.truncate ≤ maxPlaces then .ok y.truncate.toNat
    else .error (.placesOutOfRange (.ofInt y.truncate))

/-- Calls an arithmetic function. -/
def call (f : Builtin) (args : Arguments) : Except CallError Value :=
  match f with
  | .round =>
    (places ((args.number? 1).getD .zero)).map fun places =>
      .string (String.ofList (((args.number? 0).getD .zero).fixed places))
  | _ => .error (.foreign .arithmetic f)

end FormLang.Calls.Arithmetic
