import FormLang.Expr.Eval

/-!
# Evaluating with options

`evaluate` gives the value of an expression or a literal as a value of the wanted type. With a
default, null and every failure are replaced by it, and a failure is kept in the answer as
recovered. `castValue` casts a value that comes from no expression.
-/

namespace FormLang

/-- How deep expressions may be nested by default. -/
def defaultLimit : Nat := 256

/-- How an expression is to be evaluated. -/
structure Options where
  /-- What replaces null and failures. -/
  default : Option Value := none
  /-- The type that the value is to have. -/
  returnType : ValueType := .any
  /-- The introduction of reports on recovered failures. -/
  intro : Option String := none
  /-- How deep expressions may be nested. -/
  limit : Nat := defaultLimit

/-- A failure that was replaced by the default. -/
structure Recovery where
  error : EvalError
  intro : Option String
  default : Value

/-- A recovered failure over several lines. -/
def Recovery.report (r : Recovery) : String := r.error.report r.intro

/-- What an evaluation leaves behind. -/
structure Evaluation where
  events : List Event
  recovered : List Recovery
  outcome : Except EvalError Value

/-- A run as the evaluation of a part of an expression. -/
def Run.inside (run : Run Value) (root : Json) : Evaluation :=
  ⟨run.events, [], run.outcome.mapError (·.inside root)⟩

namespace Expr

/-- Casts the value of the whole expression to the wanted type, unless it has that type already. -/
def castResult (returnType : ValueType) (v : Value) : Run Value :=
  if returnType = .any ∨ v.type = returnType then pure v
  else castAt [] .result (some returnType) v

/-- The value as it is wanted: the default for null, as it is, and else the cast value. -/
def finish (options : Options) (v : Value) : Run Value :=
  match options.default with
  | some default => if v.isNull then pure default else castResult options.returnType v
  | none => castResult options.returnType v

/-- Evaluates an expression or a literal, without recovering from failures. -/
def evaluateStrictly (env : Environment) (options : Options) (root : Json) : Run Value := do
  let v ← evalNode env options.limit [] root
  finish options v

end Expr

/-- Evaluates an expression or a literal. -/
def evaluate (env : Environment) (options : Options) (root : Json) : Evaluation :=
  let run := Expr.evaluateStrictly env options root
  match run.outcome, options.default with
  | .error failure, some default =>
    ⟨run.events, [⟨failure.inside root, options.intro, default⟩], .ok default⟩
  | _, _ => run.inside root

/-- A value on its own as a value of a declared type, by the rules for results. -/
def castValue (target : ValueType) (v : Value) : Except EvalError Value :=
  ((Expr.castAt [] .result (some target) v).inside .null).outcome

end FormLang
