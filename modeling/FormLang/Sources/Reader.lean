import FormLang.Sources.Document
import FormLang.Json.Tree

/-!
# Reading a document of data sources

A document is written as a JSON object whose known fields may each be given once; other fields are
skipped, whatever they hold. It may also be written as an array of the first fields in their order.
Components are written in the same two ways.

- `Record.fields?`: the trees of the fields of such a record;
- `Document.ofText?`: the document of a text.
-/

namespace FormLang

namespace Record

open Json (Tree)

/-- The trees of the known fields of an object; none if a known field is repeated or a name denotes
nothing. -/
def ofObject? (names : List String) :
    List (Option String × Tree) → Option (List (String × Tree))
  | [] => some []
  | (name, tree) :: fields => do
    let name ← name
    let others ← ofObject? names fields
    if name ∉ names then some others
    else if (others.lookup name).isSome then none
    else some ((name, tree) :: others)

/-- The trees of the fields of a record. -/
def fields? (names : List String) : Tree → Option (List (String × Tree))
  | .object fields => ofObject? names fields
  | .array items => if items.length ≤ names.length then some (names.zip items) else none
  | _ => none

/-- The value of a field, or a default if the field is not given. -/
def field? {α : Type} (fields : List (String × Tree)) (name : String) (default : α)
    (read : Tree → Option α) : Option α :=
  match fields.lookup name with
  | some tree => read tree
  | none => some default

/-! ## Reading the parts of a record -/

/-- A text. -/
def text? : Tree → Option String
  | .string s => s
  | _ => none

/-- A boolean. -/
def boolean? : Tree → Option Bool
  | .bool b => some b
  | _ => none

/-- Something that may be null. -/
def nullable? {α : Type} (read : Tree → Option α) : Tree → Option (Option α)
  | .null => some none
  | tree => (read tree).map some

/-- A list. -/
def list? {α : Type} (read : Tree → Option α) : Tree → Option (List α)
  | .array items => items.mapM read
  | _ => none

/-- A dictionary. -/
def dictionary? {α : Type} (read : Tree → Option α) : Tree → Option (Dictionary α)
  | .object fields =>
    (fields.mapM entry?).map Dictionary.ofList
  | _ => none
where
  /-- A name with the value of its tree. -/
  entry? (field : Option String × Tree) : Option (String × α) := do
    let name ← field.1
    let value ← read field.2
    some (name, value)

end Record

open Record

/-- The names of the fields of a component, in order. -/
def Component.fieldNames : List String := ["binding", "dataType", "hidden", "page", "displayValue"]

/-- The component of a tree. -/
def Component.ofTree? (tree : Json.Tree) : Option Component := do
  let fields ← fields? Component.fieldNames tree
  let binding ← field? fields "binding" none (nullable? text?)
  let dataType ← field? fields "dataType" none (nullable? text?)
  let hidden ← field? fields "hidden" false boolean?
  let page ← field? fields "page" none (nullable? text?)
  let displayValue ← field? fields "displayValue" none (nullable? text?)
  some { binding, dataType, hidden, page, displayValue }

namespace Document

/-- The names of the fields of a document, in order. -/
def fieldNames : List String :=
  ["dataModels", "defaultDataType", "components", "instance", "applicationSettings", "permissions",
    "roles", "externalApis", "texts", "language", "currentTask"]

/-- JSON inside a dictionary of a document, which already stands two levels deep. -/
def innerJson? : Json.Tree → Option Json := Json.Tree.toJson? (Json.maxDepth - 2)

/-- The document of a tree. -/
def ofTree? (tree : Json.Tree) : Option Document := do
  let fields ← fields? fieldNames tree
  let dataModels ← field? fields "dataModels" [] (dictionary? innerJson?)
  let defaultDataType ← field? fields "defaultDataType" none (nullable? text?)
  let components ← field? fields "components" [] (dictionary? Component.ofTree?)
  let instanceFields ← field? fields "instance" [] (dictionary? text?)
  let settings ← field? fields "applicationSettings" [] (dictionary? innerJson?)
  let permissions ← field? fields "permissions" [] (list? text?)
  let roles ← field? fields "roles" none (nullable? (list? text?))
  let externalApis ← field? fields "externalApis" [] (dictionary? innerJson?)
  let texts ← field? fields "texts" [] (dictionary? text?)
  let language ← field? fields "language" none (nullable? text?)
  let task ← field? fields "currentTask" none (nullable? text?)
  some {
    dataModels, defaultDataType, components, instanceFields, settings, permissions, roles,
    externalApis, texts, language, task }

/-- The document of a text. -/
def ofText? (text : String) : Option Document := (Json.Tree.ofText? text.toList).bind ofTree?

end Document

end FormLang
