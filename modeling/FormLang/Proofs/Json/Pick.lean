import FormLang.Json.Pick
import FormLang.Proofs.Text.Split
import Mathlib.Data.List.TakeWhile

/-!
# Paths one after another

A path of two paths with a point between them is followed as one after the other (`pick?_append`). The steps of its
text are those of the two texts, since a point divides the parts (`Step.ofText?_append`), and steps are followed one
after another (`follow?_append`). A text that is not a path refuses both ways: the first half before anything is
followed, and the second half whatever the first one leads to.
-/

namespace FormLang.Json

/-! ## Steps -/

theorem follow?_append (steps steps' : List Step) (j : Json) :
    follow? (steps ++ steps') j = (follow? steps j).bind (follow? steps') := by
  induction steps generalizing j with
  | nil => rfl
  | cons step steps ih =>
    rw [List.cons_append, follow?, follow?, Option.bind_assoc]
    exact congrArg (Option.bind (at? step j)) (funext ih)

theorem Step.ofParts?_append (parts parts' : List (List Char)) :
    ofParts? (parts ++ parts') =
      (ofParts? parts).bind fun steps => (ofParts? parts').map fun steps' => steps ++ steps' := by
  induction parts with
  | nil => simp [ofParts?]
  | cons part parts ih =>
    rw [List.cons_append, ofParts?, ofParts?, ih]
    rcases ofPart? part with _ | first
    · rfl
    rcases ofParts? parts with _ | steps
    · rfl
    rcases ofParts? parts' with _ | steps'
    · rfl
    simp

/-- The steps of two texts with a point between them are the steps of both. -/
theorem Step.ofText?_append (cs ds : List Char) :
    ofText? (cs ++ '.' :: ds) =
      (ofText? cs).bind fun steps => (ofText? ds).map fun steps' => steps ++ steps' := by
  rw [ofText?, Text.split_append_cons, ofParts?_append]
  rfl

/-- A part without a bracket is a key. -/
theorem Step.ofPart?_key {part : List Char} (hne : part ≠ []) (h : '[' ∉ part) :
    ofPart? part = some [.key (String.ofList part)] := by
  have hkey : ∀ c ∈ part, (c != '[') = true := by
    intro c hc
    rw [bne_iff_ne]
    rintro rfl
    exact h hc
  have htake : part.takeWhile (· != '[') = part := List.takeWhile_eq_self_iff.mpr hkey
  have hdrop : part.dropWhile (· != '[') = [] := List.dropWhile_eq_nil_iff.mpr hkey
  simp [ofPart?, htake, hdrop, hne, indices?]

/-- Names between points are keys. -/
theorem Step.ofParts?_names {names : List String} (h : ∀ name ∈ names, name ≠ "" ∧ '[' ∉ name.toList) :
    ofParts? (names.map String.toList) = some (names.map .key) := by
  induction names with
  | nil => rfl
  | cons name names ih =>
    obtain ⟨⟨hne, hbracket⟩, hnames⟩ := List.forall_mem_cons.mp h
    have hpart := ofPart?_key (mt String.toList_eq_nil_iff.mp hne) hbracket
    rw [List.map_cons, ofParts?, hpart, ih hnames, String.ofList_toList]
    rfl

/-! ## Paths -/

section

variable {path : String} {steps : List Step}

/-- A path is followed by its steps. -/
theorem pick?_of_steps (h : Step.ofText? path.toList = some steps) : pick? path = follow? steps :=
  funext fun _ => by rw [pick?, h, Option.bind_some]

/-- A text that is not a path leads nowhere. -/
theorem pick?_of_no_steps (h : Step.ofText? path.toList = none) : pick? path = fun _ => none :=
  funext fun _ => by rw [pick?, h, Option.bind_none]

end

/-- A path of two paths is followed as one after the other. Neither has to be well-formed. -/
theorem pick?_append (p q : String) (root : Json) :
    pick? (p ++ "." ++ q) root = (pick? p root).bind (pick? q) := by
  have htext : (p ++ "." ++ q).toList = p.toList ++ '.' :: q.toList := by simp
  have hsteps := Step.ofText?_append p.toList q.toList
  rw [← htext] at hsteps
  rcases hp : Step.ofText? p.toList with _ | steps
  · rw [hp] at hsteps
    rw [pick?_of_no_steps hsteps, pick?_of_no_steps hp, Option.bind_none]
  rcases hq : Step.ofText? q.toList with _ | steps'
  · rw [hp, hq] at hsteps
    rw [pick?_of_no_steps hsteps, pick?_of_no_steps hq, Option.bind_fun_none]
  · rw [hp, hq] at hsteps
    rw [pick?_of_steps hsteps, pick?_of_steps hp, pick?_of_steps hq, follow?_append]

/-- A path of two paths leads to where the second leads from the end of the first, and nowhere if one of them leads
nowhere. -/
theorem pick?_two_paths (p q : String) (root : Json) :
    pick? (p ++ "." ++ q) root = (pick? p root).bind (pick? q) ∧
      (pick? (p ++ "." ++ q) root = none ↔
        pick? p root = none ∨ ∃ j, pick? p root = some j ∧ pick? q j = none) := by
  refine ⟨pick?_append p q root, ?_⟩
  rw [pick?_append]
  rcases pick? p root with _ | j <;> simp

end FormLang.Json
