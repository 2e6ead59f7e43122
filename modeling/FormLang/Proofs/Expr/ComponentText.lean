import FormLang.Proofs.Expr.Equality
import FormLang.Proofs.Expr.Replacement
import FormLang.Proofs.Expr.ReturnType
import FormLang.Proofs.Sources.Slots
import FormLang.Proofs.Value.Idempotent

/-!
# The data and the text of a component

A component without a text of its own displays the text of its data. The two lookups convert the data in different ways:
one gives it as a value that can be cast to a text afterwards, the other gives the text that users see, which is then
cast to a text as well.

* `Component.DisplaysData`: the components for which the two are the same, since there is no data, no text, or data that
  is a scalar;
* `castTo_string_displayData`: then the two ways of conversion give the same text;
* `outcome_component_cases`: so both lookups fail alike, or give the same as texts.

`evaluate_displayValue` says this of whole evaluations.
-/

namespace FormLang

open Calls.Lookup (simpleValue sourced textOrNull)

/-! ## Entries -/

namespace Component

/-- A component that displays its data, or that neither has data nor displays anything: it does not exist, it is hidden
and bound to data, or it has no text of its own and is bound to no data, or to data that is neither an array nor an
object, if it is found at all. -/
inductive DisplaysData (formData : String → Option String → Except SourceError (Option Json)) :
    Option Component → Prop where
  | unknown : DisplaysData formData none
  | hidden {c : Component} (hidden : c.hidden = true) (bound : c.binding.isSome = true) :
    DisplaysData formData (some c)
  | unbound {c : Component} (visible : c.hidden = false) (unbound : c.binding = none)
    (noText : c.displayValue = none) : DisplaysData formData (some c)
  | bound {c : Component} {field : String} (visible : c.hidden = false) (bound : c.binding = some field)
    (noText : c.displayValue = none)
    (scalar : ∀ data, formData field c.dataType = .ok (some data) → data.isContainer = false) :
    DisplaysData formData (some c)

variable {formData : String → Option String → Except SourceError (Option Json)} {c : Option Component}

/-- Such a component displays the text of its data. -/
theorem DisplaysData.displayOf_eq (h : DisplaysData formData c) (id : String) :
    displayOf formData id c = (dataOf formData id c).map Document.displayData := by
  cases h with
  | unknown => rfl
  | @hidden c hidden bound =>
    obtain ⟨binding, dataType, hidden', page, text⟩ := c
    obtain ⟨field, rfl⟩ := Option.isSome_iff_exists.mp bound
    cases hidden
    rfl
  | @unbound c visible unbound noText | @bound c field visible unbound noText scalar =>
    obtain ⟨binding, dataType, hidden', page, text⟩ := c
    cases visible
    cases noText
    rfl

/-- The data of such a component is a scalar. -/
theorem DisplaysData.scalar {id : String} {data : Json} (h : DisplaysData formData c)
    (hd : dataOf formData id c = .ok (some data)) : data.isContainer = false := by
  cases h with
  | unknown => cases hd
  | @hidden c hidden bound =>
    obtain ⟨binding, dataType, hidden', page, text⟩ := c
    obtain ⟨field, rfl⟩ := Option.isSome_iff_exists.mp bound
    cases hidden
    cases hd
  | @unbound c visible unbound noText =>
    obtain ⟨binding, dataType, hidden', page, text⟩ := c
    cases unbound
    cases hd
  | @bound c field visible bound noText scalar =>
    obtain ⟨binding, dataType, hidden', page, text⟩ := c
    cases visible
    cases bound
    exact scalar data hd

end Component

/-! ## Data as values and as texts -/

theorem Scalar.exists_json {j : Json} (h : j.isContainer = false) : ∃ a : Scalar, a.json = j := by
  cases j with
  | null => exact ⟨.null, rfl⟩
  | bool b => exact ⟨.bool b, rfl⟩
  | number n => exact ⟨.number n, rfl⟩
  | string s => exact ⟨.string s, rfl⟩
  | array | object => cases h

/-- The text that users see for a scalar other than null is compared like the scalar itself. -/
theorem Scalar.normalForm_display {a : Scalar} (h : a ≠ .null) :
    (Scalar.string (String.ofList a.json.display)).normalForm = a.normalForm := by
  cases a with
  | null => exact absurd rfl h
  | bool b => cases b <;> decide +kernel
  | number n =>
    refine normalForm_of_isNormal ?_
    change (Value.string (String.ofList n.toBinary64.display)).IsNormal
    obtain ⟨x, hx⟩ := Binary64.exists_of_isFinite n.isFinite_toBinary64
    rw [hx]
    exact Value.isNormal_display x
  | string s =>
    change (Scalar.string (String.ofList s.toList)).normalForm = _
    rw [String.ofList_toList]

/-- As a text, scalar data is the same whether it is taken as a value or as the text that is displayed for it. -/
theorem castTo_string_displayData {data : Option Json} (h : ∀ j ∈ data, j.isContainer = false) (role : CastRole) :
    ∃ w, (simpleValue data).castTo .string role = .ok w ∧
      (textOrNull (Document.displayData data)).castTo .string role = .ok w := by
  cases data with
  | none => exact ⟨.null, rfl, rfl⟩
  | some j =>
    obtain ⟨a, rfl⟩ := Scalar.exists_json (h j rfl)
    have hsimple : simpleValue (some a.json) = Value.ofJson a.json := by cases a <;> rfl
    refine ⟨textOrNull a.normalForm, hsimple ▸ a.castTo_string_json role, ?_⟩
    by_cases ha : a = .null
    · subst ha
      rfl
    · have hdisplay : textOrNull (Document.displayData (some a.json)) =
          Value.ofJson (Scalar.string (String.ofList a.json.display)).json := by
        cases a with
        | null => exact absurd rfl ha
        | _ => rfl
      rw [hdisplay, Scalar.castTo_string_json, Scalar.normalForm_display ha]

/-! ## The two lookups -/

namespace Expr

variable {env : Environment} {limit : Nat} {path : Path} {f : Builtin} {s : String}

/-- A function is called with the text of a literal if no cast changes the text. -/
theorem outcome_evalNode_text (hl : path.length < limit) (hf : f.signature.typeAt? 0 = some .string)
    (hs : (Value.string s).castTo .string .argument = .ok (.string s)) :
    (evalNode env limit path (.call f [.string s])).outcome = (callAt env path f [.string s]).outcome := by
  have hargs : (evalArguments env limit path f 0 [.string s]).outcome = .ok [.string s] :=
    outcome_evalArguments_cons (outcome_evalArgument (outcome_evalNode_scalar (.string s)) hf hs)
      (outcome_evalArguments_nil f 1)
  rw [evalNode_expression (isExpression_call ..), eval_call hl, Run.outcome_bind, hargs]
  rfl

/-- The two lookups of a component that displays its data fail alike, or the displayed text is the cast of the data. -/
theorem outcome_component_cases {doc : Document} {id : String}
    (hid : (Value.string id).castTo .string .argument = .ok (.string id))
    (hc : Component.DisplaysData doc.formData (doc.components.get? id)) (env : Environment) (limit : Nat)
    (path : Path) :
    let outcome (f : Builtin) :=
      (evalNode { env with sources := doc.sources } limit path (.call f [.string id])).outcome
    (∃ failure, outcome .component = .error failure ∧ outcome .displayValue = .error failure) ∨
      ∃ v w, outcome .component = .ok v ∧ v.castTo .string .result = .ok w ∧ outcome .displayValue = .ok w := by
  intro outcome
  rcases Nat.lt_or_ge path.length limit with hl | hl
  · have houtcome (f : Builtin) (hf : f.signature.typeAt? 0 = some .string) :
        outcome f = (callAt { env with sources := doc.sources } path f [.string id]).outcome :=
      outcome_evalNode_text hl hf hid
    rw [houtcome .component rfl, houtcome .displayValue rfl]
    have hdata : Builtin.component.call { env with sources := doc.sources } [.string id] =
        (sourced (doc.componentValue id)).map simpleValue := rfl
    have htext : Builtin.displayValue.call { env with sources := doc.sources } [.string id] =
        (sourced ((doc.componentValue id).map Document.displayData)).map textOrNull := by
      rw [doc.componentValue_eq, ← hc.displayOf_eq, ← doc.displayValue_eq]
      rfl
    cases hd : doc.componentValue id with
    | error e =>
      rw [hd] at hdata htext
      exact .inl ⟨_, outcome_callAt_error hdata, outcome_callAt_error htext⟩
    | ok data =>
      rw [hd] at hdata htext
      have hscalar : ∀ j ∈ data, j.isContainer = false := by
        rintro j rfl
        exact hc.scalar (doc.componentValue_eq id ▸ hd)
      obtain ⟨w, hw, hw'⟩ := castTo_string_displayData hscalar .result
      obtain ⟨v, hv, -⟩ := Value.castTo_of_fits .result (Value.fits_any (simpleValue data))
      exact .inr ⟨v, w, outcome_callAt hdata hv, (Value.castTo_of_castTo_any hv .result).trans hw,
        outcome_callAt htext hw'⟩
  · exact .inl ⟨_, outcome_evalNode_tooDeep hl .component _, outcome_evalNode_tooDeep hl .displayValue _⟩

end Expr

/-- Whatever the identifier, if its cast to a text leaves it unchanged, and whatever the component, if it displays its data
or nothing at all: the text that it displays is its data, cast to a text, and the two lookups fail together, for the same
reason. -/
theorem evaluate_displayValue {doc : Document} {id : String} (hid : castValue .string (.string id) = .ok (.string id))
    (hc : Component.DisplaysData doc.formData (doc.components.get? id)) (env : Environment) (options : Options) :
    let outcome (f : Builtin) :=
      (evaluate { env with sources := doc.sources } { options with default := none, returnType := .any }
        (.call f [.string id])).outcome
    (∀ v, outcome .component = .ok v → ∃ w, castValue .string v = .ok w ∧ outcome .displayValue = .ok w) ∧
      ∀ e, outcome .component = .error e → ∃ e', outcome .displayValue = .error e' ∧ e'.site = e.site := by
  intro outcome
  have hid' : (Value.string id).castTo .string .argument = .ok (.string id) := by
    rw [castValue_eq, Except.mapError_eq_ok_iff] at hid
    exact Value.castTo_role .argument hid
  rcases Expr.outcome_component_cases hid' hc env options.limit [] with ⟨failure, hv, hw⟩ | ⟨v, w, hv, hcast, hw⟩
  · have hdata : outcome .component = .error (failure.inside _) := outcome_none_of_error hv .any
    have htext : outcome .displayValue = .error (failure.inside _) := outcome_none_of_error hw .any
    rw [hdata, htext]
    refine ⟨nofun, fun e he => ⟨_, rfl, ?_⟩⟩
    cases he
    rfl
  · have hdata : outcome .component = .ok v := by
      rw [show outcome .component = _ from outcome_none_of_ok hv .any, Expr.castResult_any]
      rfl
    have htext : outcome .displayValue = .ok w := by
      rw [show outcome .displayValue = _ from outcome_none_of_ok hw .any, Expr.castResult_any]
      rfl
    rw [hdata, htext]
    refine ⟨fun u hu => ⟨w, ?_, rfl⟩, nofun⟩
    cases hu
    rw [castValue_eq, hcast]
    rfl

/-- A component that is bound to the word `null` in upper case displays nothing, and one that is bound into a data model
that does not exist fails in both lookups. -/
theorem null_word_not_displayed :
    let doc : Document :=
      { dataModels := [("form", .object [("name", .string "NULL")])]
        components := [("lost", { binding := some "name", dataType := some "old" }),
          ("name", { binding := some "name", dataType := some "form" })] }
    let outcome (id : String) (f : Builtin) := (evaluate { sources := doc.sources } {} (.call f [.string id])).outcome
    (∀ id ∈ ["lost", "name"], castValue .string (.string id) = .ok (.string id) ∧
      Component.DisplaysData doc.formData (doc.components.get? id)) ∧
      outcome "name" .component = .ok (.string "NULL") ∧ castValue .string (.string "NULL") = .ok .null ∧
      outcome "name" .displayValue = .ok .null ∧
      ∃ e e', outcome "lost" .component = .error e ∧ outcome "lost" .displayValue = .error e' ∧ e'.site = e.site := by
  intro doc outcome
  have hid : ∀ id ∈ ["lost", "name"], castValue .string (.string id) = .ok (.string id) := by
    have hnormal : ∀ id ∈ ["lost", "name"], (Value.string id).IsNormal := by
      simp only [List.forall_mem_cons, List.not_mem_nil, false_implies, implies_true, and_true]
      exact ⟨⟨by decide +kernel, by decide +kernel⟩, by decide +kernel, by decide +kernel⟩
    intro id h
    rw [castValue_eq, Value.castTo_string_eq_ok_iff.mpr (hnormal id h)]
    rfl
  have hname : Component.DisplaysData doc.formData (doc.components.get? "name") := by
    refine .bound rfl rfl rfl fun data hd => ?_
    cases hd
    rfl
  have hlost : Component.DisplaysData doc.formData (doc.components.get? "lost") :=
    .bound rfl rfl rfl nofun
  obtain ⟨hvalue, -⟩ := evaluate_displayValue (hid "name" (by simp)) hname {} {}
  obtain ⟨-, hfails⟩ := evaluate_displayValue (hid "lost" (by simp)) hlost {} {}
  obtain ⟨w, hw, hdisplayed⟩ := hvalue (.string "NULL") rfl
  obtain ⟨e', he', hsite⟩ := hfails _ rfl
  have hnull : castValue .string (.string "NULL") = .ok .null := by
    have hnone : (Scalar.string "NULL").normalForm = none := by decide +kernel
    have hcast := (Scalar.string "NULL").castTo_string_json .result
    rw [hnone] at hcast
    rw [castValue_eq]
    exact congrArg (Except.mapError _) hcast
  cases hnull.symm.trans hw
  refine ⟨?_, rfl, hnull, hdisplayed, _, e', rfl, he', hsite⟩
  simp only [List.forall_mem_cons, List.not_mem_nil, false_implies, implies_true, and_true]
  exact ⟨⟨hid "lost" (by simp), hlost⟩, hid "name" (by simp), hname⟩

end FormLang
