import FormLang.Calls.Dispatch
import FormLang.Proofs.Text.Split

/-!
# Texts of the items of a list

The texts of a property of all items are joined with spaces (`mapItems_eq_join`). So the texts of two lists, one after
the other, are those of the joined list (`mapItems_append`), and leaving out the text after the last item takes it off
the end (`mapItems_afterLast`). `selectAndMap_items` says this of the calls.
-/

namespace FormLang

open Calls.Lookup (mapItems propertyText)

/-! ## Items -/

section

variable {property : String} {before after : List Char} {items items' : List Json}

theorem mapItems_eq_join (property : String) (before after : List Char) (items : List Json) :
    mapItems property before after true items =
      Text.join [' '] (items.map fun item => before ++ propertyText property item ++ after) := by
  fun_induction mapItems property before after true items with
  | case1 => rfl
  | case2 item => rfl
  | case3 item items hne ih =>
    have hne' : (items.map fun item => before ++ propertyText property item ++ after) ≠ [] := by simpa using hne
    rw [List.map_cons, Text.join_cons _ _ hne', ih, List.append_assoc _ [' ']]
    rfl

/-- The text of two lists, one after the other, is the two texts with a space between them. -/
theorem mapItems_append (hne : items ≠ []) (hne' : items' ≠ []) :
    mapItems property before after true (items ++ items') =
      mapItems property before after true items ++ [' '] ++ mapItems property before after true items' := by
  simp only [mapItems_eq_join, List.map_append]
  exact Text.join_append [' '] (by simpa using hne) (by simpa using hne')

/-- Only the text after the last item can be left out. -/
theorem mapItems_afterLast (hne : items ≠ []) :
    mapItems property before after true items = mapItems property before after false items ++ after := by
  induction items with
  | nil => exact absurd rfl hne
  | cons item items ih =>
    cases items with
    | nil => simp [mapItems]
    | cons next items => simp [mapItems, ih (List.cons_ne_nil _ _)]

end

/-! ## Calls -/

/-- The arguments that ask for a property of the items at a path, with texts before and after each of them. The further
arguments say whether the text after the last item is kept. -/
def selectArguments (path property before after : String) (further : List Value) : Arguments :=
  .string path :: .string property :: .string before :: .string after :: further

/-- Whether further arguments keep the text after the last item: unless they start with false, they do. -/
def keepsLast : List Value → Bool
  | .boolean false :: _ => false
  | _ => true

theorem boolean?_selectArguments (path property before after : String) (further : List Value) :
    ((selectArguments path property before after further).boolean? 4).getD true = keepsLast further := by
  cases further with
  | nil => rfl
  | cons flag further =>
    cases flag with
    | boolean b => cases b <;> rfl
    | _ => rfl

section

variable {env : Environment} {path : String} (property before after : String) (further : List Value)

theorem call_selectAndMap_array {items : List Json}
    (h : env.sources.formData path none = .ok (some (.array items))) :
    Builtin.selectAndMap.call env (selectArguments path property before after further) =
      .ok (.string (String.ofList
        (mapItems property before.toList after.toList (keepsLast further) items))) := by
  rw [← boolean?_selectArguments path property before after]
  change (Calls.Lookup.sourced (env.sources.formData path none)).map _ = _
  rw [h]
  rfl

/-- Data that is no list, and a list without items, have no texts. -/
theorem call_selectAndMap_of_no_items {data : Option Json} (h : env.sources.formData path none = .ok data)
    (hdata : ∀ item items, data ≠ some (.array (item :: items))) :
    Builtin.selectAndMap.call env (selectArguments path property before after further) = .ok (.string "") := by
  change (Calls.Lookup.sourced (env.sources.formData path none)).map _ = _
  rw [h]
  match data with
  | some (.array []) => rfl
  | some (.array (item :: items)) => exact absurd rfl (hdata item items)
  | none | some .null | some (.bool _) | some (.number _) | some (.string _) | some (.object _) => rfl

end

/-- The text after the last item is all that is left out of the texts of a list with items; the texts of two such lists,
one after the other, are those of the joined list; and there are no texts of an empty list or of data that is no
list. -/
theorem selectAndMap_items (property before after : String) :
    let answer (env : Environment) (path : String) (further : List Value) :=
      Builtin.selectAndMap.call env (selectArguments path property before after further)
    (∀ (env : Environment) path items, env.sources.formData path none = .ok (some (.array items)) → items ≠ [] →
      ∃ text, ∀ further,
        answer env path further = .ok (.string (if keepsLast further then text ++ after else text))) ∧
    (∀ (env env' joined : Environment) path path' path'' items items',
      env.sources.formData path none = .ok (some (.array items)) →
      env'.sources.formData path' none = .ok (some (.array items')) →
      joined.sources.formData path'' none = .ok (some (.array (items ++ items'))) →
      items ≠ [] → items' ≠ [] → ∀ further, keepsLast further = true →
      ∃ text text', answer env path further = .ok (.string text) ∧ answer env' path' further = .ok (.string text') ∧
        answer joined path'' further = .ok (.string (text ++ " " ++ text'))) ∧
    ∀ (env : Environment) path data, env.sources.formData path none = .ok data →
      (∀ item items, data ≠ some (.array (item :: items))) →
      ∀ further, answer env path further = .ok (.string "") := by
  intro answer
  refine ⟨fun env path items h hne => ?_, fun env env' joined path path' path'' items items' h h' hjoined hne hne' => ?_,
    fun env path data h hdata further => call_selectAndMap_of_no_items property before after further h hdata⟩
  · refine ⟨String.ofList (mapItems property before.toList after.toList false items), fun further => ?_⟩
    refine (call_selectAndMap_array property before after further h).trans ?_
    cases keepsLast further with
    | false => rfl
    | true => rw [mapItems_afterLast hne, String.ofList_append, String.ofList_toList, if_pos rfl]
  · intro further hfurther
    refine ⟨_, _, call_selectAndMap_array property before after further h,
      call_selectAndMap_array property before after further h', ?_⟩
    refine (call_selectAndMap_array property before after further hjoined).trans ?_
    rw [hfurther, mapItems_append hne hne', String.ofList_append, String.ofList_append]

/-- Names between angle brackets, of an item with a name and of one that is no object: alone, twice in one list, and of
data that is no list. -/
theorem selectAndMap_names :
    let env (data : Json) : Environment := { sources := { formData := fun _ _ => .ok (some data) } }
    let answer (data : Json) (further : List Value) :=
      Builtin.selectAndMap.call (env data) (selectArguments "people" "name" "<" ">" further)
    let people := [.object [("name", .string "Ola")], .null]
    answer (.array people) [.boolean false] = .ok (.string "<Ola> <undefined") ∧
      answer (.array people) [.null] = .ok (.string ("<Ola> <undefined" ++ ">")) ∧
      answer (.array (people ++ people)) [] =
        .ok (.string ("<Ola> <undefined>" ++ " " ++ "<Ola> <undefined>")) ∧
      answer (.string "Ola") [] = .ok (.string "") := by
  intro env answer people
  obtain ⟨hlast, hjoined, hnone⟩ := selectAndMap_items "name" "<" ">"
  have hfalse : answer (.array people) [.boolean false] = .ok (.string "<Ola> <undefined") := rfl
  obtain ⟨text, htext⟩ := hlast (env (.array people)) "people" people rfl (List.cons_ne_nil _ _)
  obtain rfl := Value.string.inj (Except.ok.inj ((htext [.boolean false]).symm.trans hfalse))
  have hkept : answer (.array people) [] = .ok (.string "<Ola> <undefined>") := htext []
  obtain ⟨first, second, hfirst, hsecond, hboth⟩ :=
    hjoined (env (.array people)) (env (.array people)) (env (.array (people ++ people))) "people" "people" "people"
      people people rfl rfl rfl (List.cons_ne_nil _ _) (List.cons_ne_nil _ _) [] rfl
  obtain rfl := Value.string.inj (Except.ok.inj (hfirst.symm.trans hkept))
  obtain rfl := Value.string.inj (Except.ok.inj (hsecond.symm.trans hkept))
  exact ⟨hfalse, htext [.null], hboth, hnone (env (.string "Ola")) "people" (some (.string "Ola")) rfl nofun []⟩

end FormLang
