import FormLang.Json.Basic

/-!
# Writing JSON

- `Json.chars`: the compact text, without any blanks;
- `Json.compact`: the same as a string;
- `Json.pretty`: the text over several lines, indented by two blanks for each level.

Floating-point numbers are written with the shortest digits that read back, positionally from
`10 ^ -5` up to `10 ^ 16` and always with a fraction there.
-/

namespace FormLang.Json

/-- The lower-case hexadecimal digit of a number below sixteen. -/
def lowerHexDigit (n : Nat) : Char := Char.ofNat (if n < 10 then 0x30 + n else 0x57 + n)

/-- A character inside a quoted text. -/
def escape (c : Char) : List Char :=
  if c = '"' then ['\\', '"']
  else if c = '\\' then ['\\', '\\']
  else if c = '\x08' then ['\\', 'b']
  else if c = '\x0C' then ['\\', 'f']
  else if c = '\n' then ['\\', 'n']
  else if c = '\r' then ['\\', 'r']
  else if c = '\t' then ['\\', 't']
  else if c.toNat < 0x20 then
    ['\\', 'u', '0', '0', lowerHexDigit (c.toNat / 16), lowerHexDigit (c.toNat % 16)]
  else [c]

/-- A text in quotes. -/
def quote (s : String) : List Char := '"' :: s.toList.flatMap escape ++ ['"']

/-- Floating-point numbers always have a fraction or a power of ten, and the negative zero has a
sign. -/
def floatLayout : Binary64.Layout := ⟨.even, -5, 16, ['.', '0'], true⟩

/-- A whole number. -/
def intChars (i : Int) : List Char := Binary64.signText (i < 0) ++ Nat.toDigits 10 i.natAbs

/-- A number. -/
def Number.chars : Number → List Char
  | .int n => intChars n.value
  | .float x => floatLayout.chars x

mutual

/-- The compact text of a value. -/
def chars : Json → List Char
  | .null => "null".toList
  | .bool b => (if b then "true" else "false").toList
  | .number n => n.chars
  | .string s => quote s
  | .array items => '[' :: itemChars items ++ [']']
  | .object fields => '{' :: fieldChars fields ++ ['}']

/-- The compact texts of items with commas between them. -/
def itemChars : List Json → List Char
  | [] => []
  | [item] => chars item
  | item :: items => chars item ++ ',' :: itemChars items

/-- The compact texts of fields with commas between them. -/
def fieldChars : List (String × Json) → List Char
  | [] => []
  | [(name, value)] => quote name ++ ':' :: chars value
  | (name, value) :: fields => quote name ++ ':' :: chars value ++ ',' :: fieldChars fields

end

/-- The compact text of a value. -/
def compact (j : Json) : String := String.ofList j.chars

/-- The start of a line at a level of indentation. -/
def newLine (level : Nat) : List Char := '\n' :: List.replicate (2 * level) ' '

mutual

/-- The text of a value over several lines, where inner lines start at the level after `level`. -/
def prettyChars (level : Nat) : Json → List Char
  | .array [] => ['[', ']']
  | .array items => '[' :: prettyItems (level + 1) items ++ newLine level ++ [']']
  | .object [] => ['{', '}']
  | .object fields => '{' :: prettyFields (level + 1) fields ++ newLine level ++ ['}']
  | scalar => scalar.chars

/-- Items on lines of their own. -/
def prettyItems (level : Nat) : List Json → List Char
  | [] => []
  | [item] => newLine level ++ prettyChars level item
  | item :: items => newLine level ++ prettyChars level item ++ ',' :: prettyItems level items

/-- Fields on lines of their own. -/
def prettyFields (level : Nat) : List (String × Json) → List Char
  | [] => []
  | [(name, value)] => newLine level ++ quote name ++ ':' :: ' ' :: prettyChars level value
  | (name, value) :: fields =>
    newLine level ++ quote name ++ ':' :: ' ' :: prettyChars level value ++
      ',' :: prettyFields level fields

end

/-- The text of a value over several lines. -/
def pretty (j : Json) : String := String.ofList (prettyChars 0 j)

end FormLang.Json
