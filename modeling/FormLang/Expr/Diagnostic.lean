import FormLang.Expr.Evaluate

/-!
# Diagnostics

What an evaluation tells those who run it, besides its value or its error: that a function is called,
what a call warns of, and that a failure was recovered. Which diagnostics are written, and in which
form, is for the host to decide.

- `Diagnostic`: a text with a level and named details;
- `Evaluation.diagnostics`: those of an evaluation, in order.
-/

namespace FormLang

/-- How important a diagnostic is. -/
inductive Diagnostic.Level where
  | trace
  | warning
deriving DecidableEq

/-- A text with named details. -/
structure Diagnostic where
  level : Diagnostic.Level
  message : String
  details : List (String × String) := []
deriving DecidableEq

/-- What is told of a call: that it is made, as soon as its arguments are cast, and what it warns of. -/
def Event.diagnostics : Event → List Diagnostic
  | .before path f args =>
    ⟨.trace, "calling expression function", [("function", f.name), ("path", path.text)]⟩ ::
      ((f.warning? args).map fun text => ⟨.warning, text, []⟩).toList
  | .after .. => []

/-- What is told of a recovered failure: the report on it, and the default that replaces it. -/
def Recovery.diagnostic (r : Recovery) : Diagnostic where
  level := .warning
  message := r.report
  details := [("expression", r.error.root.compact), ("path", r.error.path.text), ("default_value", r.default.text)]

/-- What an evaluation tells besides its value or its error. A failure is recovered at the end. -/
def Evaluation.diagnostics (e : Evaluation) : List Diagnostic :=
  e.events.flatMap Event.diagnostics ++ e.recovered.map Recovery.diagnostic

end FormLang
