/-!
# The functions of the language

- `Builtin`: the functions, and `Builtin.name`: how they are written;
- `Builtin.ofName?`: the function with exactly this name;
- `Family`: the groups of functions that are implemented together.
-/

namespace FormLang

/-- A function of the language. -/
inductive Builtin where
  | argv
  | value
  | equals
  | notEquals
  | not
  | greaterThan
  | greaterThanEq
  | lessThan
  | lessThanEq
  | concat
  | and
  | or
  | ifElse
  | instanceContext
  | frontendSettings
  | authContext
  | component
  | dataModel
  | hasRole
  | externalApi
  | displayValue
  | formatDate
  | round
  | text
  | linkToComponent
  | linkToPage
  | language
  | contains
  | notContains
  | endsWith
  | startsWith
  | stringLength
  | commaContains
  | lowerCase
  | upperCase
  | selectAndMap
deriving DecidableEq

/-- A group of functions. -/
inductive Family where
  | logical
  | string
  | arithmetic
  | datetime
  | lookup
deriving DecidableEq

/-- The name of a family. -/
def Family.name : Family → String
  | .logical => "logical"
  | .string => "string"
  | .arithmetic => "arithmetic"
  | .datetime => "datetime"
  | .lookup => "lookup"

namespace Builtin

/-- All functions. -/
def all : List Builtin := [
  .argv, .value, .equals, .notEquals, .not, .greaterThan, .greaterThanEq, .lessThan, .lessThanEq,
  .concat, .and, .or, .ifElse, .instanceContext, .frontendSettings, .authContext, .component,
  .dataModel, .hasRole, .externalApi, .displayValue, .formatDate, .round, .text, .linkToComponent,
  .linkToPage, .language, .contains, .notContains, .endsWith, .startsWith, .stringLength,
  .commaContains, .lowerCase, .upperCase, .selectAndMap]

/-- The name of a function. -/
def name : Builtin → String
  | .argv => "argv"
  | .value => "value"
  | .equals => "equals"
  | .notEquals => "notEquals"
  | .not => "not"
  | .greaterThan => "greaterThan"
  | .greaterThanEq => "greaterThanEq"
  | .lessThan => "lessThan"
  | .lessThanEq => "lessThanEq"
  | .concat => "concat"
  | .and => "and"
  | .or => "or"
  | .ifElse => "if"
  | .instanceContext => "instanceContext"
  | .frontendSettings => "frontendSettings"
  | .authContext => "authContext"
  | .component => "component"
  | .dataModel => "dataModel"
  | .hasRole => "hasRole"
  | .externalApi => "externalApi"
  | .displayValue => "displayValue"
  | .formatDate => "formatDate"
  | .round => "round"
  | .text => "text"
  | .linkToComponent => "linkToComponent"
  | .linkToPage => "linkToPage"
  | .language => "language"
  | .contains => "contains"
  | .notContains => "notContains"
  | .endsWith => "endsWith"
  | .startsWith => "startsWith"
  | .stringLength => "stringLength"
  | .commaContains => "commaContains"
  | .lowerCase => "lowerCase"
  | .upperCase => "upperCase"
  | .selectAndMap => "_experimentalSelectAndMap"

/-- The function with exactly this name. -/
def ofName? (name : String) : Option Builtin := all.find? (·.name == name)

/-- The family that implements a function. -/
def family : Builtin → Family
  | .equals | .notEquals | .not | .greaterThan | .greaterThanEq | .lessThan | .lessThanEq | .and
  | .or | .ifElse => .logical
  | .concat | .contains | .notContains | .endsWith | .startsWith | .stringLength | .commaContains
  | .lowerCase | .upperCase => .string
  | .round => .arithmetic
  | .formatDate => .datetime
  | .argv | .value | .instanceContext | .frontendSettings | .authContext | .component | .dataModel
  | .hasRole | .externalApi | .displayValue | .text | .linkToComponent | .linkToPage | .language
  | .selectAndMap => .lookup

end Builtin

end FormLang
