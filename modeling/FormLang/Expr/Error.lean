import FormLang.Calls.Basic
import FormLang.Expr.Marked
import FormLang.Value.Cast

/-!
# Errors of an evaluation

- `Cause`: why an evaluation fails, with its text and its kind;
- `Failure`: a cause and the node at which it arises;
- `EvalError`: a failure together with the whole expression;
- `report`: an error over several lines, in which the failing node is underlined.
-/

namespace FormLang

/-- Why an evaluation fails. -/
inductive Cause where
  | cast (error : CastError)
  | call (error : CallError)
  | notAnExpression (node : Json)
  | unknownFunction (name : String)
  | tooDeep (limit : Nat)

/-- The kinds of causes that users can tell apart. -/
inductive ErrorKind where
  | unknownTargetType
  | unknownSourceType
  | unknownArgumentType
  | unexpectedType
  | runtime
  | tooDeep
deriving DecidableEq

namespace Cause

/-- The kind of a cause. -/
def kind : Cause → ErrorKind
  | .cast .noType => .unknownTargetType
  | .cast (.unsupported .result _ _) => .unknownSourceType
  | .cast (.unsupported .argument _ _) => .unknownArgumentType
  | .cast (.unexpected _ _) => .unexpectedType
  | .cast (.date _) => .runtime
  | .call _ => .runtime
  | .notAnExpression _ => .runtime
  | .unknownFunction _ => .runtime
  | .tooDeep _ => .tooDeep

/-- The text of a cause. -/
def message : Cause → String
  | .cast e => e.message
  | .call e => e.message
  | .notAnExpression node => "Expected an expression, got " ++ node.compact
  | .unknownFunction name => "Function \"" ++ name ++ "\" not implemented"
  | .tooDeep limit =>
    "Expression too deeply nested (limit is " ++ String.ofList (Nat.toDigits 10 limit) ++ " levels)"

end Cause

/-- A cause and the path of the node at which it arises. -/
structure Failure where
  cause : Cause
  path : Path

/-- A failure of the evaluation of an expression. -/
structure EvalError where
  cause : Cause
  root : Json
  path : Path

/-- A failure as an error of the whole expression. -/
def Failure.inside (failure : Failure) (root : Json) : EvalError :=
  ⟨failure.cause, root, failure.path⟩

/-! ## Reports -/

/-- An error over several lines: perhaps an introduction, the message, the path, the expression, and
a line that underlines the node at the path. -/
def report (intro : Option String) (root : Json) (path : Path) (message : String) : String :=
  let marked := Marked.ofPath path root
  (intro.elim "" (· ++ "\n")) ++
    "Expression failed to evaluate: " ++ message ++ "\n" ++
    "  at " ++ path.text ++ "\n\n" ++
    "  " ++ String.ofList marked.text ++ "\n" ++
    String.ofList marked.caretLine

/-- An error on one line. -/
def summary (root : Json) (path : Path) (message : String) : String :=
  "Evaluated expression " ++ root.compact ++ " failed at " ++ path.text ++ ": " ++ message

namespace EvalError

/-- The text of an error's cause. -/
def message (e : EvalError) : String := e.cause.message

/-- An error over several lines. -/
def report (e : EvalError) (intro : Option String) : String :=
  FormLang.report intro e.root e.path e.message

/-- An error on one line. -/
def summary (e : EvalError) : String := FormLang.summary e.root e.path e.message

end EvalError

end FormLang
