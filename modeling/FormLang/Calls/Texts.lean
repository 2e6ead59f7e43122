import FormLang.Calls.Basic
import FormLang.Binary64.Rounding
import FormLang.Text.Blank
import FormLang.Text.Case
import FormLang.Text.Search
import FormLang.Text.Units

/-!
# Functions on texts

Joining, searching, measuring and changing the case of texts. A text that is missing contains
nothing, has no length and stays missing when its case is changed.
-/

namespace FormLang.Calls.Texts

/-- The texts of the first two arguments satisfy a test; a default if one of them is missing. -/
def both (args : Arguments) (default : Bool) (test : List Char → List Char → Bool) : Value :=
  match args.text? 0, args.text? 1 with
  | some s, some t => .boolean (test s.toList t.toList)
  | _, _ => .boolean default

/-- The characters of a text; none for anything else. -/
def charsOf : Value → List Char
  | .string s => s.toList
  | _ => []

/-- Whether a text is one of the items between the commas of a list, without the blanks around. -/
def isCommaItem (list item : List Char) : Bool :=
  ((Text.split ',' list).map Text.trim).contains item

/-- The first argument with its characters changed; null if it is no text. -/
def mapText (change : List Char → List Char) (args : Arguments) : Value :=
  match args.text? 0 with
  | some s => .string (String.ofList (change s.toList))
  | none => .null

/-- The number of sixteen-bit units of a text, as a machine word. -/
def length (s : String) : UInt64 := (Text.units s.toList).toUInt64

/-- Calls a function on texts. -/
def call (f : Builtin) (args : Arguments) : Except CallError Value :=
  match f with
  | .concat => .ok (.string (String.ofList (args.flatMap charsOf)))
  | .contains => .ok (both args false fun s t => Text.contains t s)
  | .notContains => .ok (both args true fun s t => !Text.contains t s)
  | .startsWith => .ok (both args false fun s t => t.isPrefixOf s)
  | .endsWith => .ok (both args false fun s t => t.isSuffixOf s)
  | .stringLength =>
    .ok (.number (.ofInt ((args.text? 0).elim 0 fun s => ((length s).toNat : Int))))
  | .commaContains => .ok (both args false isCommaItem)
  | .lowerCase => .ok (mapText Text.lower args)
  | .upperCase => .ok (mapText Text.upper args)
  | _ => .error (.foreign .string f)

end FormLang.Calls.Texts
