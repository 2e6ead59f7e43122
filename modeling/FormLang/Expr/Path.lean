/-!
# Positions inside an expression

A path leads from the root of an expression to one of its nodes: each number is the position in an
array, where the name of a function stands at 0 and its first argument at 1. `Path.text` is a path as
users see it.
-/

namespace FormLang

/-- The positions from the root to a node. -/
abbrev Path := List Nat

namespace Path

/-- A path as users see it. -/
def chars (path : Path) : List Char :=
  if path = [] then "(root)".toList
  else path.flatMap fun i => '[' :: Nat.toDigits 10 i ++ [']']

/-- A path as users see it. -/
def text (path : Path) : String := String.ofList path.chars

end Path

end FormLang
