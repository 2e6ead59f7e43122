import FormLang.Builtin.Basic
import FormLang.Value.Type

/-!
# Signatures

The types that a function declares for its arguments and its result. The number of arguments is not
checked: arguments that are left out read as null, and those beyond the declared ones have no type
(`Signature.typeAt?`), unless the last declared one repeats.
-/

namespace FormLang

/-- Whether an argument must be given, may be left out, or may be given any number of times. -/
inductive Occurrence where
  | required
  | optional
  | repeated
deriving DecidableEq

/-- A declared argument. -/
structure Parameter where
  type : ValueType
  occurrence : Occurrence
deriving DecidableEq

/-- The declared arguments and the declared type of the result. -/
structure Signature where
  parameters : List Parameter
  result : ValueType
deriving DecidableEq

namespace Signature

/-- The last declared argument, if it repeats. -/
def repeated? (s : Signature) : Option Parameter :=
  s.parameters.getLast?.filter (·.occurrence == .repeated)

/-- The type declared for the argument at an index, which counts from zero. -/
def typeAt? (s : Signature) (i : Nat) : Option ValueType :=
  (s.parameters[i]?.or s.repeated?).map Parameter.type

/-- The least number of arguments that are to be given. -/
def minArguments (s : Signature) : Nat :=
  (s.parameters.filter (·.occurrence == .required)).length

/-- The greatest number of arguments that have a type; none if the last one repeats. -/
def maxArguments? (s : Signature) : Option Nat :=
  if s.repeated?.isSome then none else some s.parameters.length

end Signature

namespace Builtin

/-- The signature of a function. -/
def signature : Builtin → Signature
  | .argv => ⟨[required .number], .any⟩
  | .value => ⟨[optional .string], .any⟩
  | .equals | .notEquals | .contains | .notContains | .endsWith | .startsWith | .commaContains =>
    ⟨[required .string, required .string], .boolean⟩
  | .not => ⟨[required .boolean], .boolean⟩
  | .greaterThan | .greaterThanEq | .lessThan | .lessThanEq =>
    ⟨[required .number, required .number], .boolean⟩
  | .concat => ⟨[⟨.string, .repeated⟩], .string⟩
  | .and | .or => ⟨[required .boolean, ⟨.boolean, .repeated⟩], .boolean⟩
  | .ifElse => ⟨[required .boolean, required .any, optional .string, optional .any], .any⟩
  | .instanceContext | .displayValue | .text | .lowerCase | .upperCase =>
    ⟨[required .string], .string⟩
  | .frontendSettings | .component => ⟨[required .string], .any⟩
  | .authContext | .hasRole => ⟨[required .string], .boolean⟩
  | .dataModel => ⟨[required .string, optional .string], .any⟩
  | .externalApi | .linkToComponent | .linkToPage =>
    ⟨[required .string, required .string], .string⟩
  | .formatDate => ⟨[required .date, optional .string], .string⟩
  | .round => ⟨[required .number, optional .number], .string⟩
  | .language => ⟨[], .string⟩
  | .stringLength => ⟨[required .string], .number⟩
  | .selectAndMap =>
    ⟨[required .string, required .string, optional .string, optional .string, optional .boolean],
      .string⟩
where
  /-- An argument that must be given. -/
  required (type : ValueType) : Parameter := ⟨type, .required⟩
  /-- An argument that may be left out. -/
  optional (type : ValueType) : Parameter := ⟨type, .optional⟩

end Builtin

end FormLang
