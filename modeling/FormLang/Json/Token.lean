import FormLang.Json.Scaling

/-!
# Tokens of JSON

A text is cut into tokens in one pass from left to right; `Lexer.step` says what one character does
in each state. Numbers and words are the longest runs of letters, digits, signs and points.

A quoted text may be well formed and still denote nothing, if an escape gives half of a surrogate
pair, and so may a number that is too large. Their tokens hold `none`: what is skipped need not
denote anything.
-/

namespace FormLang.Json

/-- A token of JSON. -/
inductive Token where
  | openArray
  | closeArray
  | openObject
  | closeObject
  | comma
  | colon
  | null
  | bool (b : Bool)
  | number (n : Option Number)
  | string (s : Option String)
deriving DecidableEq

/-! ## Quoted texts -/

/-- A character of a quoted text, or the sixteen-bit code of an escape. -/
inductive TextUnit where
  | char (c : Char)
  | code (n : Nat)

namespace TextUnit

/-- Whether a code is the first half of a surrogate pair. -/
def isHigh (n : Nat) : Bool := 0xD800 ≤ n && n < 0xDC00

/-- Whether a code is the second half of a surrogate pair. -/
def isLow (n : Nat) : Bool := 0xDC00 ≤ n && n < 0xE000

/-- The characters of a quoted text that follows the first half of a pair, if there is one. Both
halves of a pair stand side by side. -/
def decodeAfter : Option Nat → List TextUnit → Option (List Char)
  | none, [] => some []
  | none, .char c :: rest => (decodeAfter none rest).map (c :: ·)
  | none, .code n :: rest =>
    if isHigh n then decodeAfter (some n) rest
    else if isLow n then none
    else (decodeAfter none rest).map (Char.ofNat n :: ·)
  | some high, .code low :: rest =>
    if isLow low then
      let c := Char.ofNat (0x10000 + (high - 0xD800) * 0x400 + (low - 0xDC00))
      (decodeAfter none rest).map (c :: ·)
    else none
  | some _, _ => none

/-- The text that the units of a quoted text denote. -/
def decode (units : List TextUnit) : Option String := (decodeAfter none units).map String.ofList

end TextUnit

/-- The value of a hexadecimal digit. -/
def hexValue? (c : Char) : Option Nat :=
  if c.isDigit then some (c.toNat - 0x30)
  else if 'a' ≤ c ∧ c ≤ 'f' then some (c.toNat - 0x57)
  else if 'A' ≤ c ∧ c ≤ 'F' then some (c.toNat - 0x37)
  else none

/-- The character that a letter after a backslash stands for. -/
def unescape? : Char → Option Char
  | '"' => some '"'
  | '\\' => some '\\'
  | '/' => some '/'
  | 'b' => some '\x08'
  | 'f' => some '\x0C'
  | 'n' => some '\n'
  | 'r' => some '\r'
  | 't' => some '\t'
  | _ => none

/-! ## The lexer -/

namespace Lexer

/-- Where the lexer stands. What has been read of a token is kept with its last part first. -/
inductive State where
  | between
  | word (chars : List Char)
  | text (units : List TextUnit)
  | escape (units : List TextUnit)
  | hex (units : List TextUnit) (digits value : Nat)

/-- Whether a character belongs to a number or a word. -/
def isWordChar (c : Char) : Bool := c.isAlphanum || c == '+' || c == '-' || c == '.'

/-- The token of a number or a word. -/
def wordToken? (chars : List Char) : Option Token :=
  if chars = "null".toList then some .null
  else if chars = "true".toList then some (.bool true)
  else if chars = "false".toList then some (.bool false)
  else do
    let n ← Numeral.ofText? chars
    if n.hasLeadingZero then none else some (.number (Number.ofNumeral? n))

/-- What a character does outside every longer token. -/
def start : Char → Option (List Token × State)
  | ' ' | '\t' | '\n' | '\r' => some ([], .between)
  | '[' => some ([.openArray], .between)
  | ']' => some ([.closeArray], .between)
  | '{' => some ([.openObject], .between)
  | '}' => some ([.closeObject], .between)
  | ',' => some ([.comma], .between)
  | ':' => some ([.colon], .between)
  | '"' => some ([], .text [])
  | c => if isWordChar c then some ([], .word [c]) else none

/-- What a character does: the tokens that it ends, and the next state. -/
def step : State → Char → Option (List Token × State)
  | .between, c => start c
  | .word chars, c =>
    if isWordChar c then some ([], .word (c :: chars))
    else do
      let token ← wordToken? chars.reverse
      let (tokens, state) ← start c
      some (token :: tokens, state)
  | .text units, c =>
    if c = '"' then some ([.string (TextUnit.decode units.reverse)], .between)
    else if c = '\\' then some ([], .escape units)
    else if c.toNat < 0x20 then none
    else some ([], .text (.char c :: units))
  | .escape units, c =>
    if c = 'u' then some ([], .hex units 0 0)
    else (unescape? c).map fun d => ([], .text (.char d :: units))
  | .hex units digits value, c => do
    let digit ← hexValue? c
    let value := 16 * value + digit
    some ([], if digits = 3 then .text (.code value :: units) else .hex units (digits + 1) value)

/-- The last token, when the text ends. -/
def finish : State → Option (List Token)
  | .between => some []
  | .word chars => (wordToken? chars.reverse).map fun token => [token]
  | _ => none

/-- The tokens of the rest of a text. -/
def run : State → List Char → Option (List Token)
  | state, [] => finish state
  | state, c :: cs => do
    let (tokens, next) ← step state c
    let rest ← run next cs
    some (tokens ++ rest)

end Lexer

/-- The tokens of a text. -/
def tokens? (cs : List Char) : Option (List Token) := Lexer.run .between cs

end FormLang.Json
