import FormLang.Text.Search

/-!
# References to a field of a data model

A reference is a dotted path, or a pointer into the schema of the model such as
`#/properties/person/properties/age`. A pointer names the same field as the dotted path of its parts
without the words of the schema.
-/

namespace FormLang.Json

/-- Whether a part of a pointer is no name of a field. -/
def isSchemaWord (part : List Char) : Bool :=
  part.isEmpty || part == "properties".toList || part == "items".toList

/-- The part of a schema pointer after its start; none for a dotted path. -/
def pointer? : List Char → Option (List Char)
  | '#' :: '/' :: rest => some rest
  | '/' :: rest => some rest
  | _ => none

/-- The dotted path of a reference. -/
def fieldPath (reference : String) : String :=
  match pointer? reference.toList with
  | some pointer =>
    String.ofList (Text.join ['.'] ((Text.split '/' pointer).filter (!isSchemaWord ·)))
  | none => reference

end FormLang.Json
