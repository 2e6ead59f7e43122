import FormLang.Value.Basic
import FormLang.Binary64.Rounding
import FormLang.Date.Reader

/-!
# Casting values to types

`Value.cast` turns a value into one of a declared type or says why it cannot. Null, and the text
`null`, are cast to null by every type.

- `toBoolean?`: the words `true` and `false`, and the numbers one and zero, also as texts;
- `toText?`: numbers as users see them, dates as they were written; the words `null`, `true` and
  `false` are recognised in any case;
- `toNumber?`: numbers, and texts that are strict numerals;
- `toDate`: dates, and texts or numbers that are read as dates.
-/

namespace FormLang

/-- The number of a strict numeral: digits, perhaps after a minus sign, and perhaps with a fraction.
A numeral that is larger than every finite number denotes infinity. -/
def strictNumber? (s : String) : Option Binary64 := do
  let n ← Numeral.ofText? s.toList
  if n.power = none then some (.ofDecimal n.toDecimal) else none

/-- What a cast prepares: an argument of a call, or the result of a call or an expression. -/
inductive CastRole where
  | argument
  | result
deriving DecidableEq

/-- Why a value cannot be cast. -/
inductive CastError where
  /-- No type is declared. -/
  | noType
  /-- The type takes no values of this kind. -/
  | unsupported (role : CastRole) (value : Value) (target : ValueType)
  /-- The type takes some values of this kind, but not this one. -/
  | unexpected (value : Value) (target : ValueType)
  /-- The text is no date. -/
  | date (error : Date.ReadError)

namespace Value

/-- A value in an error message: texts in quotes, numbers as users see them, all else as JSON. -/
def describe : Value → String
  | .string s => String.ofList (Json.quote s)
  | .number x => String.ofList x.display
  | v => v.toJson.compact

/-- The types of the values that a type can be cast from, apart from null. -/
def sourcesOf : ValueType → List ValueType
  | .date => [.string, .number, .date, .any]
  | _ => [.boolean, .string, .number, .any]

/-- The boolean that a number stands for. -/
def booleanOfNumber? (x : Binary64) : Option Bool :=
  if x.eq (.ofInt 1) then some true
  else if x.eq .zero then some false
  else none

/-- The boolean that a value stands for. -/
def toBoolean? : Value → Option Bool
  | .boolean b => some b
  | .string s =>
    if s = "true" then some true
    else if s = "false" then some false
    else (strictNumber? s).bind booleanOfNumber?
  | .number x => booleanOfNumber? x
  | _ => none

/-- A text in which the words `null`, `true` and `false` are recognised in any case. -/
def ofWord (s : String) : Value :=
  let word := String.ofList (Text.lower s.toList)
  if word = "null" then .null
  else if word = "true" ∨ word = "false" then .string word
  else .string s

/-- The text that a value stands for, or null for the word `null`. -/
def toText? : Value → Option Value
  | .number x => some (.string (if x.isFinite then String.ofList x.display else "null"))
  | .boolean b => some (.string (if b then "true" else "false"))
  | .string s => some (ofWord s)
  | .date d => some (.string d.raw)
  | _ => none

/-- The number that a value stands for. -/
def toNumber? : Value → Option Binary64
  | .number x => some x
  | .string s => strictNumber? s
  | _ => none

/-- The date of a text, or null if the text is blank. -/
def dateOfText (s : String) : Except CastError Value :=
  match Date.read s with
  | .ok (some d) => .ok (.date d)
  | .ok none => .ok .null
  | .error e => .error (.date e)

/-- The date that a value stands for. -/
def toDate : Value → Except CastError Value
  | .date d => .ok (.date d)
  | .number x => dateOfText (String.ofList x.display)
  | .string s => dateOfText s
  | v => .error (.unexpected v .date)

/-- Whether every type casts a value to null. -/
def isNullLike : Value → Bool
  | .null => true
  | .string s => s == "null"
  | _ => false

/-- A value that is not like null as a value of a type that takes values of its kind. -/
def convert (target : ValueType) (v : Value) : Except CastError Value :=
  match target with
  | .any => .ok v
  | .boolean => (v.toBoolean?.map .boolean).elim (.error (.unexpected v target)) .ok
  | .string => v.toText?.elim (.error (.unexpected v target)) .ok
  | .number => (v.toNumber?.map .number).elim (.error (.unexpected v target)) .ok
  | .date => v.toDate

/-- A value as a value of a declared type. -/
def castTo (target : ValueType) (role : CastRole) (v : Value) : Except CastError Value :=
  if v.isNullLike then .ok .null
  else if v.type ∈ sourcesOf target then v.convert target
  else .error (.unsupported role v target)

/-- A value as a value of the type declared for its place, if there is one. -/
def cast (target : Option ValueType) (role : CastRole) (v : Value) : Except CastError Value :=
  match target with
  | none => .error .noType
  | some target => v.castTo target role

end Value

/-- The text of a cast error. -/
def CastError.message : CastError → String
  | .noType => "Cannot cast to unknown type 'undefined'"
  | .unsupported role v target =>
    let supported := ", ".intercalate ((Value.sourcesOf target).map ValueType.name ++ ["null"])
    match role with
    | .argument => "Expected argument to be " ++ supported ++ ", got " ++ v.kindName
    | .result => "Received unsupported type '" ++ v.kindName ++ "', expected " ++ supported
  | .unexpected v target => "Expected " ++ target.name ++ ", got value " ++ v.describe
  | .date e => e.message

end FormLang
