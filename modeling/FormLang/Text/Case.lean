import FormLang.Text.Case.Upper
import FormLang.Text.Case.Lower
import FormLang.Text.Case.Cased

/-!
# Upper and lower case of texts

Texts are mapped character by character (`upper`, `lower`). A capital sigma is the one letter whose
lower case depends on its neighbours: at the end of a word (`endsWord`) it becomes `ς` and elsewhere
`σ`.
-/

namespace FormLang.Text

/-- A text in upper case. -/
def upper (cs : List Char) : List Char := cs.flatMap upperOf

/-- Whether the first character that is not passed over is a letter with a case. -/
def startsCased (cs : List Char) : Bool :=
  match cs.dropWhile isCaseIgnorable with
  | [] => false
  | c :: _ => isCased c

/-- Whether a letter ends a word, given the characters before it, nearest first, and those after. -/
def endsWord (before after : List Char) : Bool := startsCased before && !startsCased after

/-- The lower case of a text that follows the characters `before`, nearest first. -/
def lowerAfter (before : List Char) : List Char → List Char
  | [] => []
  | c :: after =>
    (if c = 'Σ' then [if endsWord before after then 'ς' else 'σ'] else lowerOf c) ++
      lowerAfter (c :: before) after

/-- A text in lower case. -/
def lower (cs : List Char) : List Char := lowerAfter [] cs

@[simp] theorem upper_nil : upper [] = [] := rfl

@[simp] theorem upper_cons (c : Char) (cs : List Char) : upper (c :: cs) = upperOf c ++ upper cs := rfl

theorem upper_append (cs ds : List Char) : upper (cs ++ ds) = upper cs ++ upper ds :=
  List.flatMap_append

end FormLang.Text
