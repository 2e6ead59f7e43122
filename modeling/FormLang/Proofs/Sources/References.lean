import FormLang.Sources.Document
import FormLang.Proofs.Json.Pick

/-!
# Pointers and dotted paths

A field inside fields can be referred to by a pointer into the schema (`schemaPointer`) and by a dotted path
(`dottedPath`). The pointer names the words of the schema between the fields, and it loses every part that is such a
word (`fieldPath_schemaPointer`), also a field with that name. So the two are references to the same data exactly if
no field has the name of such a word (`formData_schemaPointer`): a pointer to the field `items` is one to the whole
model.

That they differ otherwise is seen in a model that holds the fields inside each other and nothing else
(`Json.nested`): only as many steps as there are fields lead to its innermost value (`Json.length_of_follow?_nested`).
-/

namespace FormLang

/-! ## References -/

/-- A name of a field that can be a part of a pointer and of a dotted path. -/
structure IsFieldName (name : String) : Prop where
  ne_empty : name ≠ ""
  no_slash : '/' ∉ name.toList
  no_point : '.' ∉ name.toList
  no_bracket : '[' ∉ name.toList

instance (name : String) : Decidable (IsFieldName name) :=
  decidable_of_iff (name ≠ "" ∧ '/' ∉ name.toList ∧ '.' ∉ name.toList ∧ '[' ∉ name.toList)
    ⟨fun ⟨h₁, h₂, h₃, h₄⟩ => ⟨h₁, h₂, h₃, h₄⟩, fun ⟨h₁, h₂, h₃, h₄⟩ => ⟨h₁, h₂, h₃, h₄⟩⟩

/-- The words of a schema that stand between the fields of a pointer. -/
def schemaWords : List String := ["properties", "items"]

/-- The pointer into a schema to the last of some fields, each inside the one before. -/
def schemaPointer (names : List String) : String := "#" ++ String.join (names.map ("/properties/" ++ ·))

/-- The dotted path to the last of some fields, each inside the one before. -/
def dottedPath (names : List String) : String := ".".intercalate names

section

variable {names : List String}

theorem toList_dottedPath (names : List String) :
    (dottedPath names).toList = Text.join ['.'] (names.map String.toList) := by
  rw [dottedPath, String.toList_intercalate, Text.join_eq_intercalate]
  rfl

/-- The parts of a pointer after its first character. -/
def pointerParts (names : List String) : List (List Char) :=
  names.flatMap fun name => ["properties".toList, name.toList]

theorem pointerParts_ne_nil (hne : names ≠ []) : pointerParts names ≠ [] := by
  rcases names with _ | ⟨name, names⟩
  · exact absurd rfl hne
  · simp [pointerParts]

theorem no_slash_pointerParts (h : ∀ name ∈ names, IsFieldName name) : ∀ part ∈ pointerParts names, '/' ∉ part := by
  intro part hpart
  obtain ⟨name, hname, hpart⟩ := List.mem_flatMap.mp hpart
  simp only [List.mem_cons, List.not_mem_nil, or_false] at hpart
  rcases hpart with rfl | rfl
  · decide
  · exact (h name hname).no_slash

theorem toList_schemaPointer (hne : names ≠ []) :
    (schemaPointer names).toList = '#' :: '/' :: Text.join ['/'] (pointerParts names) := by
  show _ = '#' :: (['/'] ++ _)
  rw [Text.append_join _ (pointerParts_ne_nil hne), pointerParts, List.flatMap_assoc]
  simp [schemaPointer, List.flatMap_def, Function.comp_def]

namespace Json

theorem pointer?_eq_none {cs : List Char} (h : '/' ∉ cs) : pointer? cs = none := by
  fun_cases pointer? cs <;> simp_all

theorem isSchemaWord_iff {name : String} (h : name ≠ "") :
    isSchemaWord name.toList = true ↔ name ∈ schemaWords := by
  simp [isSchemaWord, schemaWords, h, ← String.toList_inj]

/-- Of the parts of a pointer, the names stay that are not words of the schema. -/
theorem filter_pointerParts (h : ∀ name ∈ names, IsFieldName name) :
    (pointerParts names).filter (!isSchemaWord ·) = (names.filter (· ∉ schemaWords)).map String.toList := by
  induction names with
  | nil => rfl
  | cons name names ih =>
    obtain ⟨hname, hnames⟩ := List.forall_mem_cons.mp h
    have hword : (!isSchemaWord "properties".toList) = false := by decide
    rw [pointerParts, List.flatMap_cons, ← pointerParts, List.filter_append, ih hnames, List.filter_cons, hword]
    by_cases hmem : name ∈ schemaWords
    · simp [hmem, (isSchemaWord_iff hname.ne_empty).mpr hmem]
    · have hfalse := Bool.eq_false_iff.mpr (mt (isSchemaWord_iff hname.ne_empty).mp hmem)
      simp [hmem, hfalse]

/-- A pointer refers to the dotted path of those of its fields that are not called like a word of the schema. -/
theorem fieldPath_schemaPointer (hne : names ≠ []) (h : ∀ name ∈ names, IsFieldName name) :
    fieldPath (schemaPointer names) = dottedPath (names.filter (· ∉ schemaWords)) := by
  have hpointer : pointer? (schemaPointer names).toList = some (Text.join ['/'] (pointerParts names)) := by
    rw [toList_schemaPointer hne, pointer?]
  have hsplit := Text.split_join (pointerParts_ne_nil hne) (no_slash_pointerParts h)
  simp only [fieldPath, hpointer]
  rw [hsplit, filter_pointerParts h, ← toList_dottedPath, String.ofList_toList]

/-- A dotted path refers to itself. -/
theorem fieldPath_dottedPath (h : ∀ name ∈ names, IsFieldName name) :
    fieldPath (dottedPath names) = dottedPath names := by
  have hslash : '/' ∉ (dottedPath names).toList := by
    intro hmem
    rw [toList_dottedPath] at hmem
    rcases Text.mem_join hmem with hpoint | ⟨part, hpart, hslash⟩
    · exact absurd hpoint (by decide)
    · obtain ⟨name, hname, rfl⟩ := List.mem_map.mp hpart
      exact (h name hname).no_slash hslash
  rw [fieldPath, pointer?_eq_none hslash]

/-! ## Fields inside each other -/

/-- A value that holds fields inside each other, and null in the innermost one. -/
def nested : List String → Json
  | [] => .null
  | name :: names => .object [(name, nested names)]

/-- The fields lead to the innermost value. -/
theorem follow?_nested (names : List String) : follow? (names.map .key) (nested names) = some .null := by
  induction names with
  | nil => rfl
  | cons name names ih => simp [nested, follow?, at?, Dictionary.get?, ih]

/-- Only as many keys as there are fields lead to the innermost value. -/
theorem length_of_follow?_nested {keys : List String}
    (h : follow? (keys.map .key) (nested names) = some .null) : keys.length = names.length := by
  induction names generalizing keys with
  | nil =>
    rcases keys with _ | ⟨key, keys⟩
    · rfl
    · simp [nested, follow?, at?] at h
  | cons name names ih =>
    rcases keys with _ | ⟨key, keys⟩
    · simp [nested, follow?] at h
    · by_cases hkey : key = name
      · simp only [List.map_cons, nested, follow?, at?, Dictionary.get?, hkey, if_true, Option.bind_some] at h
        simp [ih h]
      · simp [nested, follow?, at?, Dictionary.get?, hkey] at h

/-- A dotted path is followed by its names. -/
theorem pick?_dottedPath (h : ∀ name ∈ names, IsFieldName name) : pick? (dottedPath names) = follow? (names.map .key) := by
  refine pick?_of_steps ?_
  rcases names with _ | ⟨name, names⟩
  · rfl
  · rw [toList_dottedPath, Step.ofText?, Text.split_join (by simp), Step.ofParts?_names]
    · exact fun name hname => ⟨(h name hname).ne_empty, (h name hname).no_bracket⟩
    · intro part hpart
      obtain ⟨name, hname, rfl⟩ := List.mem_map.mp hpart
      exact (h name hname).no_point

end Json

/-! ## Data -/

namespace Document

/-- The data at a reference is that at its dotted path. -/
theorem formData_congr (doc : Document) {field field' : String} (h : Json.fieldPath field = Json.fieldPath field')
    (dataType : Option String) : doc.formData field dataType = doc.formData field' dataType := by
  rw [formData, formData, h]

/-- A document with one data model. -/
def ofModel (model : Json) : Document where
  dataModels := [("model", model)]
  defaultDataType := some "model"

theorem formData_ofModel (model : Json) (field : String) :
    (ofModel model).formData field none = .ok (Json.pick? (Json.fieldPath field) model) := rfl

/-- A pointer refers to the data of the fields in it that are not called like a word of the schema. So it refers to
the data of its fields, whatever the document, if none of them is, and only then. -/
theorem formData_schemaPointer (hne : names ≠ []) (h : ∀ name ∈ names, IsFieldName name) :
    (∀ (doc : Document) (dataType : Option String),
      doc.formData (schemaPointer names) dataType =
        doc.formData (dottedPath (names.filter (· ∉ schemaWords))) dataType) ∧
    ((∀ (doc : Document) (dataType : Option String),
      doc.formData (schemaPointer names) dataType = doc.formData (dottedPath names) dataType) ↔
      ∀ name ∈ names, name ∉ schemaWords) := by
  have hothers : ∀ name ∈ names.filter (· ∉ schemaWords), IsFieldName name :=
    fun name hname => h name (List.mem_filter.mp hname).1
  have hpointer := Json.fieldPath_schemaPointer hne h
  refine ⟨fun doc => doc.formData_congr ?_, fun hsame => ?_, fun hwords doc => doc.formData_congr ?_⟩
  · rw [hpointer, Json.fieldPath_dottedPath hothers]
  · -- The pointer leads to the innermost of the fields inside each other, so that none of them was left out.
    have hdata := hsame (ofModel (Json.nested names)) none
    rw [formData_ofModel, formData_ofModel, hpointer, Json.fieldPath_dottedPath h, Json.pick?_dottedPath hothers,
      Json.pick?_dottedPath h, Json.follow?_nested] at hdata
    have hlength := Json.length_of_follow?_nested (Except.ok.inj hdata)
    simpa using List.length_filter_eq_length_iff.mp hlength
  · rw [hpointer, Json.fieldPath_dottedPath h, List.filter_eq_self.mpr (by simpa using hwords)]

/-- A pointer that goes through the field `items` leaves that field out. -/
theorem formData_through_items :
    let names := ["order", "items", "id"]
    names ≠ [] ∧ (∀ name ∈ names, IsFieldName name) ∧
      schemaPointer names = "#/properties/order/properties/items/properties/id" ∧
      (∀ (doc : Document) (dataType : Option String),
        doc.formData "#/properties/order/properties/items/properties/id" dataType =
          doc.formData "order.id" dataType) ∧
      ¬∀ (doc : Document) (dataType : Option String),
        doc.formData (schemaPointer names) dataType = doc.formData (dottedPath names) dataType := by
  intro names
  have hnames : ∀ name ∈ names, IsFieldName name := by decide
  obtain ⟨hdata, hiff⟩ := formData_schemaPointer (by decide : names ≠ []) hnames
  refine ⟨by decide, hnames, by decide, hdata, ?_⟩
  rw [hiff]
  exact fun h => h "items" (by decide) (by decide)

/-- A pointer to a field of the field `items` leads to the field of the model itself. -/
theorem formData_to_items :
    let names := ["items", "age"]
    let doc := ofModel (.object [("age", .string "of the model"), ("items", .object [("age", .string "of the items")])])
    names ≠ [] ∧ (∀ name ∈ names, IsFieldName name) ∧
      doc.formData (schemaPointer names) none = .ok (some (.string "of the model")) ∧
      doc.formData (dottedPath names) none = .ok (some (.string "of the items")) ∧
      doc.formData (schemaPointer names) none ≠ doc.formData (dottedPath names) none := by
  intro names doc
  have hpointer : schemaPointer names = "#/properties/items/properties/age" := by decide
  have hdotted : dottedPath names = "items.age" := by decide
  have hmodel : doc.formData "#/properties/items/properties/age" none = .ok (some (.string "of the model")) := rfl
  have hitems : doc.formData "items.age" none = .ok (some (.string "of the items")) := rfl
  rw [hpointer, hdotted, hmodel, hitems]
  exact ⟨by decide, by decide, rfl, rfl, by simp⟩

end Document

end

end FormLang
