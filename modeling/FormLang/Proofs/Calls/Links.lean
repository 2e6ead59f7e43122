import FormLang.Calls.Dispatch
import FormLang.Proofs.Text.Split
import FormLang.Proofs.Text.UrlForm

/-!
# Links to components

The address of a link to a component is that of its page and the component's id as a parameter, written for a query.
The written id is what follows the last equals sign of the address, whatever the address of the page holds, so it can
be read off the link (`anchor_inj`, `eq_of_parameter`). `linkToComponent_identifies` puts this together.
-/

namespace FormLang

open Calls.Lookup (anchor pageAddress)
open Text (isFormChar formDecode? urlForm)

theorem anchor_inj {address address' kind text : String} (h : anchor address kind text = anchor address' kind text) :
    address = address' := by
  unfold anchor at h
  simpa only [String.append_left_inj, String.append_right_inj] using h

/-- An address with a parameter tells what is written for the parameter, whatever stands in front of it. -/
theorem eq_of_parameter {page page' : String} {written written' : List Char}
    (hw : ∀ c ∈ written, isFormChar c = true) (hw' : ∀ c ∈ written', isFormChar c = true)
    (h : page ++ "?focusComponentId=" ++ String.ofList written =
      page' ++ "?focusComponentId=" ++ String.ofList written') : written = written' := by
  have hequals {written : List Char} (hw : ∀ c ∈ written, isFormChar c = true) : '=' ∉ written :=
    fun hmem => absurd (hw '=' hmem) (by decide)
  have hsplit (page : String) (written : List Char) :
      (page ++ "?focusComponentId=" ++ String.ofList written).toList =
        (page ++ "?focusComponentId").toList ++ '=' :: written := by
    simp
  have hlists := congrArg String.toList h
  rw [hsplit, hsplit] at hlists
  exact Text.eq_of_append_cons (hequals hw) (hequals hw') hlists

/-- There is a link to a component if and only if its page is known. The link leads to the page, with the id written for a
query. -/
theorem call_linkToComponent_eq_ok_iff {env : Environment} {text id : String} {v : Value} :
    Builtin.linkToComponent.call env [.string text, .string id] = .ok v ↔
      ∃ page, env.sources.componentPage id = some page ∧
        v = .string (anchor (pageAddress env.sources page ++ "?focusComponentId=" ++ String.ofList (urlForm id))
          "LinkToPotentialNode" text) := by
  change Calls.Lookup.linkToComponent env.sources [.string text, .string id] = _ ↔ _
  simp only [Calls.Lookup.linkToComponent, Arguments.text?, Arguments.value, List.getElem?_cons_zero,
    List.getElem?_cons_succ, Option.getD_some]
  cases env.sources.componentPage id with
  | none => simp
  | some page => simp [eq_comm]

/-- A link to a component is written with the address of its page and a parameter that holds only the characters of a
query and is read back as the component's id. So links with the same text to different components differ. -/
theorem linkToComponent_identifies (env : Environment) (text : String) :
    let answer (id : String) := Builtin.linkToComponent.call env [.string text, .string id]
    (∀ id, (∃ link, answer id = .ok (.string link)) ↔ ∃ page, env.sources.componentPage id = some page) ∧
    (∀ id link, answer id = .ok (.string link) → ∃ page written,
      env.sources.componentPage id = some page ∧
      link = "<a href=\"" ++ (pageAddress env.sources page ++ "?focusComponentId=" ++ String.ofList written) ++
        "\" data-link-type=\"LinkToPotentialNode\">" ++ text ++ "</a>" ∧
      (∀ c ∈ written, isFormChar c = true) ∧ formDecode? written = some id) ∧
    ∀ id id' link link', answer id = .ok (.string link) → answer id' = .ok (.string link') → id ≠ id' →
      link ≠ link' := by
  intro answer
  refine ⟨fun id => ⟨fun ⟨link, h⟩ => ?_, fun ⟨page, hpage⟩ => ?_⟩, fun id link h => ?_, ?_⟩
  · obtain ⟨page, hpage, -⟩ := call_linkToComponent_eq_ok_iff.mp h
    exact ⟨page, hpage⟩
  · exact ⟨_, call_linkToComponent_eq_ok_iff.mpr ⟨page, hpage, rfl⟩⟩
  · obtain ⟨page, hpage, hlink⟩ := call_linkToComponent_eq_ok_iff.mp h
    refine ⟨page, urlForm id, hpage, ?_, fun c hc => Text.isFormChar_of_mem_urlForm hc, Text.formDecode?_urlForm id⟩
    have hkind : "\" data-link-type=\"LinkToPotentialNode\">" =
        "\" data-link-type=\"" ++ "LinkToPotentialNode" ++ "\">" := rfl
    rw [Value.string.inj hlink]
    unfold anchor
    rw [hkind]
    simp only [String.append_assoc]
  · rintro id id' link _ h h' hne rfl
    obtain ⟨page, -, hlink⟩ := call_linkToComponent_eq_ok_iff.mp h
    obtain ⟨page', -, hlink'⟩ := call_linkToComponent_eq_ok_iff.mp h'
    have hwritten : urlForm id = urlForm id' :=
      eq_of_parameter (fun c hc => Text.isFormChar_of_mem_urlForm hc) (fun c hc => Text.isFormChar_of_mem_urlForm hc)
        (anchor_inj (Value.string.inj (hlink.symm.trans hlink')))
    exact hne (Text.eq_of_urlForm_eq hwritten)

/-- The page of one component ends like the address of another component: their links differ in how the ids are written. -/
theorem linkToComponent_parameter_in_page :
    let env : Environment :=
      { sources := { componentPage := fun id => some (if id = "a" then "p?focusComponentId=b" else "p") } }
    let answer (id : String) := Builtin.linkToComponent.call env [.string "t", .string id]
    let link (address : String) := "<a href=\"" ++ address ++ "\" data-link-type=\"LinkToPotentialNode\">t</a>"
    answer "a" = .ok (.string (link "/p?focusComponentId=b?focusComponentId=a")) ∧
      answer "b?focusComponentId=a" = .ok (.string (link "/p?focusComponentId=b%3FfocusComponentId%3Da")) ∧
      (∃ written, (∀ c ∈ written, isFormChar c = true) ∧ formDecode? written = some "b?focusComponentId=a") ∧
      link "/p?focusComponentId=b?focusComponentId=a" ≠ link "/p?focusComponentId=b%3FfocusComponentId%3Da" := by
  intro env answer link
  obtain ⟨-, hwritten, hdiffer⟩ := linkToComponent_identifies env "t"
  have hfirst : answer "a" = .ok (.string (link "/p?focusComponentId=b?focusComponentId=a")) := rfl
  have hsecond : answer "b?focusComponentId=a" =
      .ok (.string (link "/p?focusComponentId=b%3FfocusComponentId%3Da")) := rfl
  obtain ⟨-, written, -, -, hchars, hdecode⟩ := hwritten _ _ hsecond
  exact ⟨hfirst, hsecond, ⟨written, hchars, hdecode⟩, hdiffer _ _ _ _ hfirst hsecond (by decide)⟩

end FormLang
