import FormLang.Builtin.Signature
import FormLang.Sources.Basic
import FormLang.Value.Basic

/-!
# Calls of functions

What the implementations of the functions share:

- `Environment`: all that a call can see apart from its arguments;
- `Arguments`: the arguments, of which those that are left out read as null;
- `CallError`: why a call fails, and its text.
-/

namespace FormLang

/-- Values that expressions look up by name. -/
structure NamedValues where
  values : Dictionary Value
  defaultKey : Option String

/-- All that a call can see apart from its arguments. -/
structure Environment where
  sources : Sources := .empty
  positional : Option (List Value) := none
  named : Option NamedValues := none

/-- The arguments of a call. -/
abbrev Arguments := List Value

namespace Arguments

/-- The argument at an index; null if it is left out. -/
def value (args : Arguments) (i : Nat) : Value := args[i]?.getD .null

/-- Whether an argument is given. -/
def isGiven (args : Arguments) (i : Nat) : Bool := i < args.length

/-- The argument at an index, if it is a text. -/
def text? (args : Arguments) (i : Nat) : Option String :=
  match args.value i with
  | .string s => some s
  | _ => none

/-- The argument at an index, if it is a number. -/
def number? (args : Arguments) (i : Nat) : Option Binary64 :=
  match args.value i with
  | .number x => some x
  | _ => none

/-- The argument at an index, if it is a boolean. -/
def boolean? (args : Arguments) (i : Nat) : Option Bool :=
  match args.value i with
  | .boolean b => some b
  | _ => none

/-- The argument at an index, if it is a date. -/
def date? (args : Arguments) (i : Nat) : Option Date :=
  match args.value i with
  | .date d => some d
  | _ => none

end Arguments

/-- Why a call fails. -/
inductive CallError where
  /-- The family does not implement the function. -/
  | foreign (family : Family) (function : Builtin)
  | noPositionalValues
  | indexOutOfRange (index : Option Binary64)
  | noNamedValues
  | noKey
  | unknownKey (key : String) (known : List String)
  | unknownInstanceField (key : String)
  | noSettingKey
  | unknownPermission (key : String)
  | noComponentId
  | noField
  | noExternalId
  | unknownComponent (id : String)
  | placesOutOfRange (places : Binary64)
  | unsupportedPattern (pattern : String)
  | source (error : SourceError)

/-- The text of a failed call. -/
def CallError.message : CallError → String
  | .foreign family function => "Unknown " ++ family.name ++ " function: " ++ function.name
  | .noPositionalValues => "No positional arguments available"
  | .indexOutOfRange index =>
    "Index " ++ (index.elim "null" fun x => String.ofList x.display) ++ " out of range"
  | .noNamedValues => "No value arguments available"
  | .noKey => "Invalid key (expected string, got null)"
  | .unknownKey key known =>
    "Unknown key " ++ key ++ ", Valid keys are: " ++ ", ".intercalate known
  | .unknownInstanceField key => "Unknown Instance context property " ++ key
  | .noSettingKey => "Value cannot be null. (Parameter 'key')"
  | .unknownPermission key => "Unknown auth context property " ++ key
  | .noComponentId => "Cannot lookup component null"
  | .noField => "Cannot lookup dataModel null"
  | .noExternalId => "Expected an external API id"
  | .unknownComponent id => "Unable to find component with identifier " ++ id
  | .placesOutOfRange places =>
    "Number of decimal points must be between 0 and 100, got " ++ String.ofList places.plain
  | .unsupportedPattern pattern => "Unsupported date format token in '" ++ pattern ++ "'"
  | .source error => error.message

end FormLang
