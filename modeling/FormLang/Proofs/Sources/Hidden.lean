import FormLang.Proofs.Expr.Evaluation
import FormLang.Proofs.Sources.Slots

/-!
# Hidden components

Which field a hidden component is bound to, and what it would display, cannot be told from any evaluation.
Documents that differ in these things only (`Document.LooksLike`) answer every lookup alike
(`Document.LooksLike.sources_eq`), so every expression has the same events and the same outcome under them
(`evaluate_looksLike`).
-/

namespace FormLang

/-! ## Components -/

namespace Component

variable {formData : String → Option String → Except SourceError (Option Json)} {id : String}

/-- Components that are equal, or that are both hidden and have the same page and both have a binding or both
have none. -/
def LooksLike (c c' : Component) : Prop :=
  c = c' ∨ c.hidden = true ∧ c'.hidden = true ∧ c.page = c'.page ∧ c.binding.isSome = c'.binding.isSome

/-- A hidden component has no data, but it has to be bound to some. -/
theorem dataOf_hidden {c : Component} (h : c.hidden = true) :
    dataOf formData id (some c) = if c.binding.isSome then .ok none else dataOf formData id none := by
  cases c with
  | mk binding =>
    cases h
    cases binding <;> rfl

/-- A hidden component displays nothing, whether it is bound to data or not. -/
theorem displayOf_hidden {c : Component} (h : c.hidden = true) : displayOf formData id (some c) = .ok none := by
  cases c
  cases h
  rfl

/-- What is the same for hidden components with the same page that are both bound or both not bound, is the same
for all components that look alike. -/
theorem eq_of_looksLike {α : Type} {f : Option Component → α} {c c' : Option Component}
    (hidden : ∀ c c' : Component, c.hidden = true → c'.hidden = true → c.page = c'.page →
      c.binding.isSome = c'.binding.isSome → f (some c) = f (some c'))
    (h : Option.Rel LooksLike c c') : f c = f c' := by
  cases h with
  | none => rfl
  | some h =>
    rcases h with rfl | ⟨hc, hc', hp, hb⟩
    · rfl
    · exact hidden _ _ hc hc' hp hb

variable {c c' : Option Component} (h : Option.Rel LooksLike c c')
include h

theorem dataOf_looksLike : dataOf formData id c = dataOf formData id c' := by
  refine eq_of_looksLike (fun c c' hc hc' _ hb => ?_) h
  rw [dataOf_hidden hc, dataOf_hidden hc', hb]

theorem displayOf_looksLike : displayOf formData id c = displayOf formData id c' := by
  refine eq_of_looksLike (fun c c' hc hc' _ _ => ?_) h
  rw [displayOf_hidden hc, displayOf_hidden hc']

theorem page_looksLike : c.bind page = c'.bind page :=
  eq_of_looksLike (f := fun c => c.bind page) (fun _ _ _ _ hp _ => hp) h

end Component

/-! ## Documents -/

/-- Documents that differ in hidden components only, and there only in what is not to be seen. -/
structure Document.LooksLike (doc doc' : Document) : Prop where
  components (id : String) : Option.Rel Component.LooksLike (doc.components.get? id) (doc'.components.get? id)
  others : { doc with components := [] } = { doc' with components := [] }

/-- The lookups of such documents are the same: those that read components cannot tell them apart, and the
others read what is equal. -/
theorem Document.LooksLike.sources_eq {doc doc' : Document} (h : doc.LooksLike doc') :
    doc.sources = doc'.sources := by
  have hf : doc.formData = doc'.formData := by
    show ({ doc with components := [] } : Document).formData = _
    rw [h.others]
    rfl
  have hv : doc.componentValue = doc'.componentValue := by
    funext id
    rw [componentValue_eq, componentValue_eq, hf]
    exact Component.dataOf_looksLike (h.components id)
  have ht : doc.displayValue = doc'.displayValue := by
    funext id
    rw [displayValue_eq, displayValue_eq, hf]
    exact Component.displayOf_looksLike (h.components id)
  have hp : doc.sources.componentPage = doc'.sources.componentPage :=
    funext fun id => Component.page_looksLike (h.components id)
  show { ({ doc with components := [] } : Document).sources with
    formData := doc.formData, componentValue := doc.componentValue, displayValue := doc.displayValue,
    componentPage := doc.sources.componentPage } = doc'.sources
  rw [h.others, hf, hv, ht, hp]
  rfl

/-! ## Evaluations -/

/-- Under documents that differ only in what hidden components do not show, every expression has the same
events, the same outcome and the same recovered failures. -/
theorem evaluate_looksLike {doc doc' : Document} (h : doc.LooksLike doc') (env : Environment)
    (options : Options) (root : Json) :
    evaluate { env with sources := doc.sources } options root =
      evaluate { env with sources := doc'.sources } options root := by
  rw [h.sources_eq]

/-- An age that is hidden has neither data nor a text, whatever it is bound to. -/
theorem evaluate_hidden_age :
    let doc : Document :=
      { dataModels := [("form", .object [("age", .string "41")])]
        defaultDataType := some "form"
        components := [("age", { binding := some "age", hidden := true, displayValue := some "old" })] }
    let doc' : Document :=
      { doc with components := [("age", { binding := some "name", dataType := some "other", hidden := true })] }
    let root := Json.call .equals [.call .component [.string "age"], .call .displayValue [.string "age"]]
    doc.LooksLike doc' ∧
      evaluate { sources := doc.sources } {} root = evaluate { sources := doc'.sources } {} root ∧
      (evaluate { sources := doc.sources } {} root).outcome = .ok (.boolean true) := by
  intro doc doc' root
  have h : doc.LooksLike doc' := by
    refine ⟨fun id => ?_, rfl⟩
    simp only [doc, doc', Dictionary.get?]
    split
    · exact .some (.inr ⟨rfl, rfl, rfl, rfl⟩)
    · exact .none
  exact ⟨h, evaluate_looksLike h {} {} root, rfl⟩

end FormLang
