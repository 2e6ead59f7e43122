/-!
# Types of values

The types that a function can declare for its arguments and its result.
-/

namespace FormLang

/-- A declared type. -/
inductive ValueType where
  | boolean
  | string
  | number
  | date
  | any
deriving DecidableEq

namespace ValueType

/-- The name of a type. -/
def name : ValueType → String
  | .boolean => "boolean"
  | .string => "string"
  | .number => "number"
  | .date => "date"
  | .any => "any"

/-- All types. -/
def all : List ValueType := [.boolean, .string, .number, .date, .any]

/-- A name with its letters from A to Z in lower case. -/
def normalName (name : String) : String := String.ofList (name.toList.map Char.toLower)

/-- The type with a name, whatever the case of its letters. -/
def ofName? (name : String) : Option ValueType := all.find? (·.name == normalName name)

/-- What is said of a name that no type has. -/
def unknownMessage (name : String) : String := "Unknown value type '" ++ normalName name ++ "'"

end ValueType

end FormLang
