import FormLang.Calls.Dispatch
import FormLang.Expr.Run

/-!
# Evaluating expressions

An expression is a JSON array that starts with the name of a function (`isExpression`); its other
items are the arguments, and each of them is an expression or a literal. All arguments are evaluated
from left to right and cast to their declared types, the function is called, and its result is cast
to its declared type (`eval`).
-/

namespace FormLang

/-- Whether a node is an expression: an array that starts with the name of a function. -/
def isExpression : Json → Bool
  | .array (.string name :: _) => (Builtin.ofName? name).isSome
  | _ => false

namespace Expr

/-- Casts a value at a path. -/
def castAt (path : Path) (role : CastRole) (target : Option ValueType) (v : Value) : Run Value :=
  .ofExcept path .cast (v.cast target role)

/-- Calls a function at a path with cast arguments, and casts the result. -/
def callAt (env : Environment) (path : Path) (f : Builtin) (args : List Value) : Run Value := do
  Run.emit (.before path f args)
  let raw ← Run.ofExcept path .call (f.call env args)
  let result ← castAt path .result (some f.signature.result) raw
  Run.emit (.after path f args result)
  pure result

mutual

/-- Evaluates an expression at a path, of which no node may lie `limit` levels deep. -/
def eval (env : Environment) (limit : Nat) (path : Path) : Json → Run Value
  | .array (.string name :: args) =>
    if limit ≤ path.length then .fail path (.tooDeep limit)
    else match Builtin.ofName? name with
      | none => .fail path (.unknownFunction name)
      | some f => do
        let values ← evalArguments env limit path f 0 args
        callAt env path f values
  | node =>
    if limit ≤ path.length then .fail path (.tooDeep limit)
    else .fail path (.notAnExpression node)

/-- Evaluates the arguments of a function from an index on, and casts them. -/
def evalArguments (env : Environment) (limit : Nat) (path : Path) (f : Builtin) (i : Nat) :
    List Json → Run (List Value)
  | [] => pure []
  | node :: nodes => do
    let raw ←
      if isExpression node then eval env limit (path ++ [i + 1]) node
      else pure (Value.ofJson node)
    let value ← castAt (path ++ [i + 1]) .argument (f.signature.typeAt? i) raw
    let values ← evalArguments env limit path f (i + 1) nodes
    pure (value :: values)

end

/-- The value of a node at a path: that of an expression, or the literal itself. -/
def evalNode (env : Environment) (limit : Nat) (path : Path) (node : Json) : Run Value :=
  if isExpression node then eval env limit path node else pure (Value.ofJson node)

end Expr

end FormLang
