/-!
# Texts in a URL query

A text is written byte by byte. Letters, digits and `* - . _` stand for themselves, a space becomes
a plus sign, and every other byte a percent sign with two upper-case hexadecimal digits.

This is what the third-party function `byte_serialize`, which writes the parameters of links, is
documented to give for the bytes of a text. It is assumed of that function here.
-/

namespace FormLang.Text

/-- Whether a byte stands for itself. -/
def isFormByte (b : Nat) : Bool :=
  (0x30 ≤ b && b ≤ 0x39) || (0x41 ≤ b && b ≤ 0x5A) || (0x61 ≤ b && b ≤ 0x7A) ||
    b == 0x2A || b == 0x2D || b == 0x2E || b == 0x5F

/-- The upper-case hexadecimal digit of a number below sixteen. -/
def hexDigit (n : Nat) : Char := Char.ofNat (if n < 10 then 0x30 + n else 0x37 + n)

/-- The characters that write one byte. -/
def formByte (b : Nat) : List Char :=
  if b = 0x20 then ['+']
  else if isFormByte b then [Char.ofNat b]
  else ['%', hexDigit (b / 16), hexDigit (b % 16)]

/-- A text as it stands in a URL query. -/
def urlForm (s : String) : List Char := s.toUTF8.data.toList.flatMap fun b => formByte b.toNat

end FormLang.Text
