import FormLang.Calls.Arithmetic
import FormLang.Calls.Dates
import FormLang.Calls.Logical
import FormLang.Calls.Lookup
import FormLang.Calls.Texts

/-!
# Dispatch

A function is called by the family that implements it. Each family fails for the functions of the
others. Some calls warn of what they are given (`Builtin.warning?`).
-/

namespace FormLang

/-- Calls a function as one of a family. -/
def Family.call (family : Family) (f : Builtin) (env : Environment) (args : Arguments) :
    Except CallError Value :=
  match family with
  | .logical => Calls.Logical.call f args
  | .string => Calls.Texts.call f args
  | .arithmetic => Calls.Arithmetic.call f args
  | .datetime => Calls.Dates.call f env args
  | .lookup => Calls.Lookup.call f env args

/-- Calls a function. -/
def Builtin.call (f : Builtin) (env : Environment) (args : Arguments) : Except CallError Value :=
  f.family.call f env args

/-- What a call warns of. -/
def Builtin.warning? (f : Builtin) (args : Arguments) : Option String :=
  match f with
  | .linkToComponent => Calls.Lookup.linkWarning? "Component" f args
  | .linkToPage => Calls.Lookup.linkWarning? "Page" f args
  | _ => none

end FormLang
