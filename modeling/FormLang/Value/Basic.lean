import FormLang.Json.Printer
import FormLang.Date.Basic
import FormLang.Value.Type

/-!
# Values

What an expression evaluates to. Numbers are floating-point numbers, and arrays hold values; an
object keeps the JSON of its fields as it is.

- `Value.ofJson` and `Value.toJson`: JSON as values and values as JSON;
- `Value.same`: equality, under which numbers are compared by value;
- `Value.text`: the text of a value as users see it;
- `Value.type`: the declared type that a value belongs to by its own form.
-/

namespace FormLang

/-- A value. -/
inductive Value where
  | null
  | boolean (b : Bool)
  | number (x : Binary64)
  | string (s : String)
  | date (d : Date)
  | array (items : List Value)
  | object (fields : List (String × Json))

namespace Value

/-! ## JSON -/

mutual

/-- The value of a JSON value. -/
def ofJson : Json → Value
  | .null => .null
  | .bool b => .boolean b
  | .number n => .number n.toBinary64
  | .string s => .string s
  | .array items => .array (ofJsonItems items)
  | .object fields => .object fields

/-- The values of JSON items. -/
def ofJsonItems : List Json → List Value
  | [] => []
  | item :: items => ofJson item :: ofJsonItems items

end

/-- A number as JSON; numbers that are not finite have none. -/
def numberJson : Binary64 → Json
  | .finite x => .number (.ofFinite x)
  | _ => .null

mutual

/-- A value as JSON. A date is written in its standard form. -/
def toJson : Value → Json
  | .null => .null
  | .boolean b => .bool b
  | .number x => numberJson x
  | .string s => .string s
  | .date d => .string d.isoText
  | .array items => .array (itemsToJson items)
  | .object fields => .object fields

/-- Values as JSON items. -/
def itemsToJson : List Value → List Json
  | [] => []
  | item :: items => toJson item :: itemsToJson items

end

/-! ## Equality -/

mutual

/-- Equality of values. The two zeros are equal, and an undefined number equals nothing. -/
def same : Value → Value → Bool
  | .null, .null => true
  | .boolean a, .boolean b => a == b
  | .number x, .number y => x.eq y
  | .string s, .string t => s == t
  | .date d, .date e => d == e
  | .array xs, .array ys => sameItems xs ys
  | .object xs, .object ys => Json.sameFields xs ys
  | _, _ => false

/-- Equality of items one by one. -/
def sameItems : List Value → List Value → Bool
  | [], [] => true
  | x :: xs, y :: ys => same x y && sameItems xs ys
  | _, _ => false

end

/-! ## Views -/

/-- Whether a value is null. -/
def isNull : Value → Bool
  | .null => true
  | _ => false

/-- The text of a value as users see it; arrays and objects are shown as JSON. -/
def text : Value → String
  | .null => "null"
  | .boolean b => if b then "true" else "false"
  | .number x => String.ofList x.display
  | .string s => s
  | .date d => d.isoText
  | v => v.toJson.compact

/-- The type that a value has by its own form: only numbers, texts and booleans have one. -/
def type : Value → ValueType
  | .number _ => .number
  | .string _ => .string
  | .boolean _ => .boolean
  | _ => .any

/-- The name of a value's kind in messages about casts. -/
def kindName : Value → String
  | .number _ => "number"
  | .string _ => "string"
  | .boolean _ => "boolean"
  | _ => "object"

end Value

end FormLang
