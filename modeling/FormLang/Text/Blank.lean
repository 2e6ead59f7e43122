import FormLang.Text.Case.Cased

/-!
# Blank characters

The characters with the property White_Space, and cutting them off both ends of a text:

- `isBlank`: the property;
- `trim`: a text without the blanks at its ends;
- `allBlank`: whether nothing else is left.
-/

namespace FormLang.Text

/-- The ranges of the property White_Space. -/
def blankRanges : List (Nat × Nat) := [
  (0x09, 0x0D), (0x20, 0x20), (0x85, 0x85), (0xA0, 0xA0), (0x1680, 0x1680), (0x2000, 0x200A),
  (0x2028, 0x2029), (0x202F, 0x202F), (0x205F, 0x205F), (0x3000, 0x3000)]

/-- Whether a character is blank. -/
def isBlank (c : Char) : Bool := inRanges blankRanges c

/-- A text without the blanks at its start. -/
def trimStart (cs : List Char) : List Char := cs.dropWhile isBlank

/-- A text without the blanks at its end. -/
def trimEnd (cs : List Char) : List Char := (trimStart cs.reverse).reverse

/-- A text without the blanks at either end. -/
def trim (cs : List Char) : List Char := trimEnd (trimStart cs)

/-- Whether a text holds nothing but blanks. -/
def allBlank (cs : List Char) : Bool := cs.all isBlank

end FormLang.Text
