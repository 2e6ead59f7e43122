import FormLang.Calls.Basic
import FormLang.Date.Pattern

/-!
# Formatting dates

A date is written by a pattern in the language of the user, by that language's own pattern if none is
given. A missing date stays missing.
-/

namespace FormLang.Calls.Dates

/-- Calls a function on dates. -/
def call (f : Builtin) (env : Environment) (args : Arguments) : Except CallError Value :=
  match f with
  | .formatDate =>
    match args.date? 0 with
    | none => .ok .null
    | some date =>
      let language := env.sources.language
      let pattern := (args.text? 1).getD (Date.Names.ofLanguage language).defaultPattern
      match date.format? pattern language with
      | some text => .ok (.string text)
      | none => .error (.unsupportedPattern pattern)
  | _ => .error (.foreign .datetime f)

end FormLang.Calls.Dates
