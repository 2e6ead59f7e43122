import FormLang.Sources.Document

/-!
# What lookups read of a document

A document holds one thing or nothing in each of its slots (`Document.entry`), and it has a default data
model. Its lookups read nothing else (`Document.sources_eq_ofEntries`): those of a component read its entry
and the data models (`Component.dataOf`, `Component.displayOf`), and each of the others reads one slot.
-/

namespace FormLang

/-! ## Components -/

namespace Component

/-- The data that the component with an identifier is bound to, by its entry and the data models. -/
def dataOf (formData : String → Option String → Except SourceError (Option Json)) (id : String) :
    Option Component → Except SourceError (Option Json)
  | some { binding := some binding, dataType, hidden, .. } =>
    if hidden then .ok none else formData binding dataType
  | _ =>
    .error (.notFound ("Unable to find component with identifier " ++ id ++
      " or it does not have a simpleBinding"))

/-- The text that the component with an identifier displays, by its entry and the data models. -/
def displayOf (formData : String → Option String → Except SourceError (Option Json)) (id : String) :
    Option Component → Except SourceError (Option String)
  | some { hidden := true, .. } => .ok none
  | some { displayValue := some text, .. } => .ok (some text)
  | c => (dataOf formData id c).map Document.displayData

end Component

namespace Document

variable (doc : Document) (id : String)

/-- The data of a component is that of its entry. -/
theorem componentValue_eq :
    doc.componentValue id = Component.dataOf doc.formData id (doc.components.get? id) := by
  unfold componentValue Component.dataOf
  cases doc.components.get? id with
  | none => rfl
  | some c => cases c with | mk binding => cases binding <;> rfl

/-- The text of a component is that of its entry. -/
theorem displayValue_eq :
    doc.displayValue id = Component.displayOf doc.formData id (doc.components.get? id) := by
  unfold displayValue Component.displayOf
  rw [componentValue_eq]
  cases doc.components.get? id with
  | none => rfl
  | some c => cases c with | mk binding dataType hidden page text => cases hidden <;> cases text <;> rfl

/-! ## Slots -/

/-- A place in a document that one change fills. -/
inductive Slot where
  | dataModel (dataType : String)
  | component (id : String)
  | instanceField (field : InstanceField)
  | setting (key : String)
  | permission (action : Permission)
  | roles
  | externalApi (id : String)
  | text (key : String)
  | language
  | task
deriving DecidableEq

/-- What a slot holds; that of a permission is only filled or not. -/
def Slot.Content : Slot → Type
  | .dataModel _ | .setting _ | .externalApi _ => Json
  | .component _ => Component
  | .permission _ => Unit
  | .roles => List String
  | .instanceField _ | .text _ | .language | .task => String

/-- What a document holds in a slot. -/
def entry (doc : Document) : (slot : Slot) → Option slot.Content
  | .dataModel dataType => doc.dataModels.get? dataType
  | .component id => doc.components.get? id
  | .instanceField field => doc.instanceFields.get? field.key
  | .setting key => doc.settings.get? key
  | .permission action => if doc.permissions.contains action.key then some () else none
  | .roles => doc.roles
  | .externalApi id => doc.externalApis.get? id
  | .text key => doc.texts.get? key
  | .language => doc.language
  | .task => doc.task

end Document

/-! ## Lookups -/

namespace Document

/-- The data at a field of a data model, by this model. -/
def dataOf (field dataType : String) : Option Json → Except SourceError (Option Json)
  | none => .error (.notFound ("Data model with type " ++ dataType ++ " not found"))
  | some model => .ok (Json.pick? (Json.fieldPath field) model)

/-- The data at a field of a data model, by the default data model and what the slots hold. -/
def dataIn (defaultDataType : Option String) (entry : (slot : Slot) → Option slot.Content) (field : String)
    (dataType : Option String) : Except SourceError (Option Json) :=
  match dataType.or defaultDataType with
  | none => .error (.other "Cannot lookup dataType undefined")
  | some dataType => dataOf field dataType (entry (.dataModel dataType))

/-- The data in a document is that of its slots. -/
theorem formData_eq (doc : Document) : doc.formData = dataIn doc.defaultDataType doc.entry := by
  funext field dataType
  unfold formData dataIn
  cases dataType.or doc.defaultDataType with
  | none => rfl
  | some dataType =>
    dsimp only
    change _ = dataOf field dataType (doc.dataModels.get? dataType)
    cases doc.dataModels.get? dataType <;> rfl

end Document

/-- The lookups that read a default data model and what slots hold. -/
def Sources.ofEntries (defaultDataType : Option String)
    (entry : (slot : Document.Slot) → Option slot.Content) : Sources where
  formData := Document.dataIn defaultDataType entry
  componentValue id := Component.dataOf (Document.dataIn defaultDataType entry) id (entry (.component id))
  displayValue id := Component.displayOf (Document.dataIn defaultDataType entry) id (entry (.component id))
  componentPage id := (entry (.component id)).bind Component.page
  instanceField field := entry (.instanceField field)
  setting key := entry (.setting key)
  isPermitted action := (entry (.permission action)).isSome
  roles := entry .roles
  externalData id := entry (.externalApi id)
  text key := (entry (.text key)).getD key
  language := (entry .language).getD "nb"
  task := entry .task

/-- The lookups of a document read its default data model and its slots only. -/
theorem Document.sources_eq_ofEntries (doc : Document) :
    doc.sources = Sources.ofEntries doc.defaultDataType doc.entry := by
  have hv : doc.componentValue = fun id => Component.dataOf doc.formData id (doc.entry (.component id)) :=
    funext doc.componentValue_eq
  have ht : doc.displayValue = fun id => Component.displayOf doc.formData id (doc.entry (.component id)) :=
    funext doc.displayValue_eq
  have hp : (fun action => doc.permissions.contains (Permission.key action)) =
      fun action => (doc.entry (.permission action)).isSome := by
    funext action
    change _ = Option.isSome (if doc.permissions.contains action.key then some () else none)
    cases doc.permissions.contains action.key <;> rfl
  rw [sources, Sources.ofEntries, ← formData_eq, hv, ht, hp]
  rfl

end FormLang
