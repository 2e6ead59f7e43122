import FormLang.Json.Token

/-!
# The syntax tree of a JSON text

A tree (`Tree`) keeps what is written: repeated names, texts and numbers that denote nothing, and
any depth. `Tree.ofText?` reads it by recursive descent over the tokens. Whether a tree denotes a
value is decided afterwards (`Tree.toJson?`): every text and number must denote something, arrays
and objects may be nested only so deep, and of the fields with one name the last counts.

`Json.ofText?` joins the two steps, with at most 127 levels.
-/

namespace FormLang.Json

/-- What a JSON text says, before it is known to denote a value. -/
inductive Tree where
  | null
  | bool (b : Bool)
  | number (n : Option Number)
  | string (s : Option String)
  | array (items : List Tree)
  | object (fields : List (Option String × Tree))

namespace Tree

mutual

/-- One value at the start of the tokens, and the rest. The first argument bounds the recursion. -/
def value? : Nat → List Token → Option (Tree × List Token)
  | 0, _ => none
  | _, .null :: rest => some (.null, rest)
  | _, .bool b :: rest => some (.bool b, rest)
  | _, .number n :: rest => some (.number n, rest)
  | _, .string s :: rest => some (.string s, rest)
  | _, .openArray :: .closeArray :: rest => some (.array [], rest)
  | fuel + 1, .openArray :: rest => do
    let (items, rest) ← items? fuel rest
    some (.array items, rest)
  | _, .openObject :: .closeObject :: rest => some (.object [], rest)
  | fuel + 1, .openObject :: rest => do
    let (fields, rest) ← fields? fuel rest
    some (.object fields, rest)
  | _, _ => none

/-- Items up to the bracket that closes the array. -/
def items? : Nat → List Token → Option (List Tree × List Token)
  | 0, _ => none
  | fuel + 1, tokens => do
    let (item, rest) ← value? fuel tokens
    match rest with
    | .comma :: rest => do
      let (items, rest) ← items? fuel rest
      some (item :: items, rest)
    | .closeArray :: rest => some ([item], rest)
    | _ => none

/-- Fields up to the brace that closes the object. -/
def fields? : Nat → List Token → Option (List (Option String × Tree) × List Token)
  | 0, _ => none
  | fuel + 1, .string name :: .colon :: tokens => do
    let (value, rest) ← value? fuel tokens
    match rest with
    | .comma :: rest => do
      let (fields, rest) ← fields? fuel rest
      some ((name, value) :: fields, rest)
    | .closeObject :: rest => some ([(name, value)], rest)
    | _ => none
  | _, _ => none

end

/-- The tree of tokens that are one value. Reading a value consumes a token at every second step of
the recursion. -/
def ofTokens? (tokens : List Token) : Option Tree :=
  match value? (2 * tokens.length + 1) tokens with
  | some (tree, []) => some tree
  | _ => none

/-- The tree of a text that is one value. -/
def ofText? (cs : List Char) : Option Tree := (tokens? cs).bind ofTokens?

mutual

/-- The value that a tree denotes, if arrays and objects are nested at most `depth` deep. -/
def toJson? (depth : Nat) : Tree → Option Json
  | .null => some .null
  | .bool b => some (.bool b)
  | .number n => n.map .number
  | .string s => s.map .string
  | .array items => if depth = 0 then none else (itemsToJson? (depth - 1) items).map .array
  | .object fields =>
    if depth = 0 then none
    else (fieldsToJson? (depth - 1) fields).map fun fields => .object (Dictionary.ofList fields)

/-- The values that items denote. -/
def itemsToJson? (depth : Nat) : List Tree → Option (List Json)
  | [] => some []
  | item :: items => do
    let item ← toJson? depth item
    let items ← itemsToJson? depth items
    some (item :: items)

/-- The names and values that fields denote, as they are written. -/
def fieldsToJson? (depth : Nat) : List (Option String × Tree) → Option (List (String × Json))
  | [] => some []
  | (name, value) :: fields => do
    let name ← name
    let value ← toJson? depth value
    let fields ← fieldsToJson? depth fields
    some ((name, value) :: fields)

end

end Tree

/-- How deep arrays and objects may be nested. -/
def maxDepth : Nat := 127

/-- The value of a text. -/
def ofText? (text : String) : Option Json :=
  (Tree.ofText? text.toList).bind (Tree.toJson? maxDepth)

end FormLang.Json
