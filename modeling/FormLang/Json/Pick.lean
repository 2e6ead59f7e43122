import FormLang.Json.Basic
import FormLang.Decimal.Numeral
import FormLang.Text.Blank
import FormLang.Text.Search

/-!
# Picking a part of a value

A path such as `person.addresses[0].city` is a list of steps (`Step.ofText?`). Parts between points
are keys, and indices stand in brackets after a key or alone. A key also names an item of an array
if it is a number.

- `Json.at?`: follows one step;
- `Json.follow?`: follows a list of steps;
- `Json.pick?`: follows a written path.
-/

namespace FormLang.Json

/-- One step into a value. -/
inductive Step where
  | key (name : String)
  | index (i : Nat)
deriving DecidableEq

namespace Step

/-- The indices in brackets that make up a text. The first argument is what has been read inside a
bracket, the last character first. -/
def indices? : Option (List Char) → List Char → Option (List Step)
  | none, [] => some []
  | none, c :: cs => if c = '[' then indices? (some []) cs else none
  | some _, [] => none
  | some read, c :: cs =>
    if c = ']' then do
      let i ← natural? (Text.trim read.reverse)
      let steps ← indices? none cs
      some (.index i :: steps)
    else indices? (some (c :: read)) cs

/-- The steps of a part between two points: a key, unless it is empty, and indices. -/
def ofPart? (part : List Char) : Option (List Step) :=
  let key := part.takeWhile (· != '[')
  let indices := indices? none (part.dropWhile (· != '['))
  if key = [] then indices else indices.map (.key (String.ofList key) :: ·)

/-- The steps of several parts. -/
def ofParts? : List (List Char) → Option (List Step)
  | [] => some []
  | part :: parts => do
    let first ← ofPart? part
    let others ← ofParts? parts
    some (first ++ others)

/-- The steps of a written path. -/
def ofText? (path : List Char) : Option (List Step) := ofParts? (Text.split '.' path)

end Step

/-- The part of a value that one step leads to. -/
def at? : Step → Json → Option Json
  | .key name, .object fields => Dictionary.get? name fields
  | .key name, .array items => (natural? name.toList).bind fun i => items[i]?
  | .index i, .array items => items[i]?
  | _, _ => none

/-- The part of a value that a list of steps leads to. -/
def follow? : List Step → Json → Option Json
  | [], j => some j
  | step :: steps, j => (at? step j).bind (follow? steps)

/-- The part of a value that a written path leads to. -/
def pick? (path : String) (root : Json) : Option Json :=
  (Step.ofText? path.toList).bind fun steps => follow? steps root

end FormLang.Json
