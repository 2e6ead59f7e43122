import FormLang.Sources.Basic
import FormLang.Json.Pick
import FormLang.Json.FieldPath

/-!
# Data sources held in one document

- `Document`: data models, components and all else that expressions can look up;
- `Document.sources`: the lookups that a document answers;
- `Document.Edit`: one change to a document, and `Document.apply`: the changed document.
-/

namespace FormLang

/-- A component of a form. -/
structure Component where
  /-- The field of a data model that the component shows. -/
  binding : Option String := none
  /-- The data model of that field, if it is not the default one. -/
  dataType : Option String := none
  hidden : Bool := false
  page : Option String := none
  /-- The text that the component displays, if it is not the text of its data. -/
  displayValue : Option String := none
deriving DecidableEq

/-- All that expressions can look up. -/
structure Document where
  dataModels : Dictionary Json := []
  defaultDataType : Option String := none
  components : Dictionary Component := []
  instanceFields : Dictionary String := []
  settings : Dictionary Json := []
  permissions : List String := []
  roles : Option (List String) := none
  externalApis : Dictionary Json := []
  texts : Dictionary String := []
  language : Option String := none
  task : Option String := none

namespace Document

/-! ## Lookups -/

/-- The data at a field of a data model, the default one if no type is given. -/
def formData (doc : Document) (field : String) (dataType : Option String) :
    Except SourceError (Option Json) :=
  match dataType.or doc.defaultDataType with
  | none => .error (.other "Cannot lookup dataType undefined")
  | some dataType =>
    match doc.dataModels.get? dataType with
    | none => .error (.notFound ("Data model with type " ++ dataType ++ " not found"))
    | some model => .ok (Json.pick? (Json.fieldPath field) model)

/-- The data that a component is bound to; none if the component is hidden. -/
def componentValue (doc : Document) (id : String) : Except SourceError (Option Json) :=
  match doc.components.get? id with
  | some { binding := some binding, dataType, hidden, .. } =>
    if hidden then .ok none else doc.formData binding dataType
  | _ =>
    .error (.notFound ("Unable to find component with identifier " ++ id ++
      " or it does not have a simpleBinding"))

/-- The text of data as a component displays it; null has none. -/
def displayData : Option Json → Option String
  | none | some .null => none
  | some data => some (String.ofList data.display)

/-- The text that a component displays; none if the component is hidden. -/
def displayValue (doc : Document) (id : String) : Except SourceError (Option String) :=
  match doc.components.get? id with
  | some { hidden := true, .. } => .ok none
  | some { displayValue := some text, .. } => .ok (some text)
  | _ => (doc.componentValue id).map displayData

/-- The lookups that a document answers. -/
def sources (doc : Document) : Sources where
  formData := doc.formData
  componentValue := doc.componentValue
  displayValue := doc.displayValue
  componentPage id := (doc.components.get? id).bind Component.page
  instanceField field := doc.instanceFields.get? field.key
  setting key := doc.settings.get? key
  isPermitted action := doc.permissions.contains action.key
  roles := doc.roles
  externalData id := doc.externalApis.get? id
  text key := (doc.texts.get? key).getD key
  language := doc.language.getD "nb"
  task := doc.task

/-! ## Changes -/

/-- One change to a document. -/
inductive Edit where
  /-- Adds a data model, which becomes the default one if there is none. -/
  | dataModel (dataType : String) (model : Json)
  | component (id : String) (component : Component)
  | instanceField (field : InstanceField) (value : String)
  | setting (key : String) (value : Json)
  | permission (action : Permission)
  /-- Replaces all roles. -/
  | roles (roles : List String)
  | externalApi (id : String) (data : Json)
  | text (key text : String)
  | language (language : String)
  | task (task : String)

/-- The document after one change. -/
def apply (doc : Document) : Edit → Document
  | .dataModel dataType model =>
    { doc with
      defaultDataType := doc.defaultDataType.or (some dataType)
      dataModels := doc.dataModels.insert dataType model }
  | .component id component => { doc with components := doc.components.insert id component }
  | .instanceField field value =>
    { doc with instanceFields := doc.instanceFields.insert field.key value }
  | .setting key value => { doc with settings := doc.settings.insert key value }
  | .permission action => { doc with permissions := doc.permissions ++ [action.key] }
  | .roles roles => { doc with roles := some roles }
  | .externalApi id data => { doc with externalApis := doc.externalApis.insert id data }
  | .text key text => { doc with texts := doc.texts.insert key text }
  | .language language => { doc with language := some language }
  | .task task => { doc with task := some task }

/-- The document after several changes, one after another. -/
def applyAll (doc : Document) (edits : List Edit) : Document := edits.foldl apply doc

end Document

end FormLang
