import FormLang.Expr.Path
import FormLang.Json.Printer
import FormLang.Text.Bytes

/-!
# Writing an expression with one node marked

The compact text of an expression is written from left to right. On the way to the node that a path
leads to, arrays are written item by item, and where that node is written its span is noted.

- `Marked`: what has been written, and the span of the marked node, as places counted in bytes;
- `Marked.ofPath`: an expression in which the node at a path is marked;
- `Marked.caretLine`: the line that underlines the marked node.
-/

namespace FormLang

open Text (bytes takeBytes dropBytes)

/-- A text, and the places at which the marked part of it starts and ends. -/
structure Marked where
  text : List Char
  span : Option (Nat × Nat)

namespace Marked

/-- Goes on writing. -/
def write (m : Marked) (cs : List Char) : Marked := { m with text := m.text ++ cs }

/-- Goes on writing, and marks what it writes. -/
def writeMarked (m : Marked) (cs : List Char) : Marked :=
  ⟨m.text ++ cs, some (bytes m.text, bytes (m.text ++ cs))⟩

mutual

/-- Goes on with the compact text of a node, and marks in it the node that a path leads to, if there
is a path. -/
def writeNode (m : Marked) : Option Path → Json → Marked
  | some [], node => m.writeMarked node.chars
  | some (i :: path), .array items => (writeItems (m.write ['[']) i path 0 items).write [']']
  | _, node => m.write node.chars

/-- Goes on with the items of an array from an index on. The path leads on from the item at position
`i`. -/
def writeItems (m : Marked) (i : Nat) (path : Path) (index : Nat) : List Json → Marked
  | [] => m
  | item :: items =>
    let m := if 0 < index then m.write [','] else m
    let m := writeNode m (if index = i then some path else none) item
    writeItems m i path (index + 1) items

end

/-- The compact text of an expression, in which the node at a path is marked. -/
def ofPath (path : Path) (root : Json) : Marked := writeNode ⟨[], none⟩ (some path) root

/-- The line that underlines the marked part of a text that is indented by two blanks; none if no part
is marked. -/
def caretLine (m : Marked) : List Char :=
  match m.span with
  | some (start, stop) =>
    let column := (takeBytes start m.text).length
    let width := (takeBytes (stop - start) (dropBytes start m.text)).length
    List.replicate (2 + column) ' ' ++ List.replicate (max 1 width) '^' ++ ['\n']
  | none => []

end Marked

end FormLang
