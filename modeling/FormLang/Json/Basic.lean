import FormLang.Binary64.Layout
import FormLang.Dictionary

/-!
# JSON values

- `Json.Number`: a whole number that fits into 64 bits, signed or unsigned, or else a finite
  floating-point number. The two stay apart: `2` and `2.0` are different numbers with the same
  value (`Number.toBinary64`).
- `Json`: the six kinds of values. The fields of an object are in ascending order of their names.
- `same`: equality, under which the two floating-point zeros are equal.
- `truthy`: whether a value counts as true.
- `display`: the text of a value as users see it.
-/

namespace FormLang

-- Powers are the built-in ones, whatever other instances are in scope.
attribute [local instance (high)] instPowNat

/-- A whole number that fits into 64 bits, signed or unsigned. -/
structure Json.Integer where
  value : Int
  lower : -2 ^ (63 : Nat) ≤ value
  upper : value < 2 ^ (64 : Nat)
deriving DecidableEq

/-- A number as JSON holds it. -/
inductive Json.Number where
  | int (n : Json.Integer)
  | float (x : Binary64.Finite)
deriving DecidableEq

/-- A JSON value. -/
inductive Json where
  | null
  | bool (b : Bool)
  | number (n : Json.Number)
  | string (s : String)
  | array (items : List Json)
  | object (fields : List (String × Json))

namespace Json

namespace Number

/-- The floating-point number nearest to a number. -/
def toBinary64 : Number → Binary64
  | .int n => .ofInt n.value
  | .float x => .finite x

/-- The number that a floating-point number is written as: whole numbers below `2 ^ 53` become
integers. -/
def ofFinite (x : Binary64.Finite) : Number :=
  if h : x.isWhole = true ∧ x.wholePart < 2 ^ (53 : Nat) then
    .int ⟨x.truncate, by unfold Binary64.Finite.truncate; split <;> omega,
      by unfold Binary64.Finite.truncate; split <;> omega⟩
  else .float x

/-- Equality of numbers: integers with integers, and floating-point numbers by value. -/
def same : Number → Number → Bool
  | .int m, .int n => m.value == n.value
  | .float x, .float y => x.signedUnits == y.signedUnits
  | _, _ => false

end Number

mutual

/-- Equality of values. -/
def same : Json → Json → Bool
  | .null, .null => true
  | .bool a, .bool b => a == b
  | .number m, .number n => m.same n
  | .string s, .string t => s == t
  | .array xs, .array ys => sameItems xs ys
  | .object xs, .object ys => sameFields xs ys
  | _, _ => false

/-- Equality of items one by one. -/
def sameItems : List Json → List Json → Bool
  | [], [] => true
  | x :: xs, y :: ys => same x y && sameItems xs ys
  | _, _ => false

/-- Equality of fields one by one. -/
def sameFields : List (String × Json) → List (String × Json) → Bool
  | [], [] => true
  | (k, x) :: xs, (l, y) :: ys => k == l && same x y && sameFields xs ys
  | _, _ => false

end

/-- Whether a value is an array or an object. -/
def isContainer : Json → Bool
  | .array _ | .object _ => true
  | _ => false

/-- Whether a value is null. -/
def isNull : Json → Bool
  | .null => true
  | _ => false

/-- Whether a value counts as true: all but null, false, zero and the empty text do. -/
def truthy : Json → Bool
  | .null => false
  | .bool b => b
  | .number n => !n.toBinary64.eq .zero
  | .string s => !s.isEmpty
  | .array _ | .object _ => true

mutual

/-- The text of a value as users see it: the items of an array between commas, where null is empty,
and one fixed text for every object. -/
def display : Json → List Char
  | .null => "null".toList
  | .bool b => (if b then "true" else "false").toList
  | .number n => n.toBinary64.display
  | .string s => s.toList
  | .array items => displayItems items
  | .object _ => "[object Object]".toList

/-- The texts of the items with commas between them. -/
def displayItems : List Json → List Char
  | [] => []
  | [item] => if item.isNull then [] else display item
  | item :: items => (if item.isNull then [] else display item) ++ ',' :: displayItems items

end

end Json

end FormLang
