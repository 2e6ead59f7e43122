import FormLang.Proofs.Json.Pick
import FormLang.Proofs.Text.Blank
import Mathlib.Data.List.Forall2

/-!
# The path to a node

The steps from a value to one of its nodes are written with points before keys and brackets around indices
(`Step.chars`). They are read back as they are (`Step.ofText?_chars`): a bracket adds an index to the part that it
stands in (`Step.ofPart?_bracket`), and a point starts a new part. So the written path of a node leads to the node, and
still does if some of its indices are written like keys, as a key is a number where it meets an array
(`Leads.follow?`). `pick?_chars` puts this together.
-/

namespace FormLang.Json

-- Powers are the built-in ones, whatever other instances are in scope.
attribute [local instance (high)] instPowNat

namespace Step

/-! ## Writing steps -/

/-- An index in brackets. -/
def bracket (i : Nat) : List Char := '[' :: Nat.toDigits 10 i ++ [']']

/-- A step as it is written behind other steps. -/
def continued : Step → List Char
  | .key name => '.' :: name.toList
  | .index i => bracket i

/-- The characters of the written path of steps. There is no point before the first of them. -/
def chars : List Step → List Char
  | .key name :: steps => name.toList ++ steps.flatMap continued
  | steps => steps.flatMap continued

/-- The written path of steps. -/
def text (steps : List Step) : String := String.ofList (chars steps)

/-- A step that has a written form: a key that is neither empty nor cut by a point or a bracket, or an index that fits
into 64 bits. -/
def IsWritable : Step → Prop
  | .key name => name ≠ "" ∧ '.' ∉ name.toList ∧ '[' ∉ name.toList
  | .index i => i < 2 ^ (64 : Nat)

instance : DecidablePred IsWritable
  | .key name => inferInstanceAs (Decidable (name ≠ "" ∧ '.' ∉ name.toList ∧ '[' ∉ name.toList))
  | .index i => inferInstanceAs (Decidable (i < 2 ^ (64 : Nat)))

/-- A step, or the key with the digits of an index. -/
inductive IsSpelling : Step → Step → Prop where
  | same (step : Step) : IsSpelling step step
  | digits (i : Nat) : IsSpelling (.index i) (.key (String.ofList (Nat.toDigits 10 i)))

/-! ## Digits -/

section

variable {i : Nat} {c : Char}

theorem ne_of_mem_toDigits (hc : c.isDigit = false) {d : Char} (hd : d ∈ Nat.toDigits 10 i) : d ≠ c := by
  rintro rfl
  exact absurd ((Numeral.isDigits_toDigits i).isDigit _ hd) (by simp [hc])

theorem not_mem_toDigits (hc : c.isDigit = false) : c ∉ Nat.toDigits 10 i :=
  fun hmem => ne_of_mem_toDigits hc hmem rfl

/-- An index is read from its digits. -/
theorem natural?_toDigits (hi : i < 2 ^ (64 : Nat)) : natural? (Nat.toDigits 10 i) = some i := by
  have hread := Numeral.allDigits?_toDigits i
  rcases hdigits : Nat.toDigits 10 i with _ | ⟨d, ds⟩
  · exact absurd hdigits (Numeral.isDigits_toDigits i).ne_nil
  · have hplus : d ≠ '+' := ne_of_mem_toDigits rfl (i := i) (by simp [hdigits])
    rw [hdigits] at hread
    simp [natural?, hplus, hread, hi]

theorem trim_toDigits (i : Nat) : Text.trim (Nat.toDigits 10 i) = Nat.toDigits 10 i :=
  Text.trim_eq_self fun c hc => Text.isBlank_of_isDigit ((Numeral.isDigits_toDigits i).isDigit c hc)

end

/-- The digits of an index are a key that can be written. -/
theorem IsSpelling.isWritable {step step' : Step} (h : IsSpelling step step') (hw : step.IsWritable) :
    step'.IsWritable := by
  cases h with
  | same => exact hw
  | digits i =>
    refine ⟨fun hempty => ?_, ?_, ?_⟩
    · rw [← String.toList_inj, String.toList_ofList] at hempty
      exact (Numeral.isDigits_toDigits i).ne_nil hempty
    · rw [String.toList_ofList]
      exact not_mem_toDigits rfl
    · rw [String.toList_ofList]
      exact not_mem_toDigits rfl

theorem isWritable_of_spelling {steps steps' : List Step} (hs : List.Forall₂ IsSpelling steps steps')
    (hw : ∀ step ∈ steps, step.IsWritable) : ∀ step ∈ steps', step.IsWritable := by
  induction hs with
  | nil => exact hw
  | cons hstep _ ih =>
    obtain ⟨hfirst, hsteps⟩ := List.forall_mem_cons.mp hw
    exact List.forall_mem_cons.mpr ⟨hstep.isWritable hfirst, ih hsteps⟩

/-! ## Reading a part -/

/-- Inside a bracket, all that stands before its end is read as an index. -/
theorem indices?_inside {ds : List Char} (h : ']' ∉ ds) (read cs : List Char) :
    indices? (some read) (ds ++ ']' :: cs) = (do
      let i ← natural? (Text.trim (read.reverse ++ ds))
      let steps ← indices? none cs
      some (.index i :: steps)) := by
  induction ds generalizing read with
  | nil => simp [indices?]
  | cons d ds ih =>
    rw [List.mem_cons, not_or] at h
    rw [List.cons_append, indices?, if_neg (Ne.symm h.1), ih h.2]
    simp

/-- What follows closed brackets adds its indices to theirs. -/
theorem indices?_append {read : Option (List Char)} {cs : List Char} {steps : List Step}
    (h : indices? read cs = some steps) (ds : List Char) :
    indices? read (cs ++ ds) = (indices? none ds).map (steps ++ ·) := by
  induction cs generalizing read steps with
  | nil =>
    cases read with
    | none =>
      cases h
      simp
    | some read => cases h
  | cons c cs ih =>
    cases read with
    | none =>
      rw [indices?] at h
      split at h
      · rename_i hc
        rw [List.cons_append, indices?, if_pos hc, ih h]
      · cases h
    | some read =>
      rw [indices?] at h
      rw [List.cons_append, indices?]
      split at h
      · rename_i hc
        simp only [Option.bind_eq_bind, Option.bind_eq_some_iff, Option.some.injEq] at h
        obtain ⟨i, hi, others, hothers, rfl⟩ := h
        rw [if_pos hc, ih hothers, hi]
        cases indices? none ds <;> simp
      · rename_i hc
        rw [if_neg hc, ih h]

theorem indices?_bracket {i : Nat} (hi : i < 2 ^ (64 : Nat)) : indices? none (bracket i) = some [.index i] := by
  rw [bracket, List.cons_append, indices?, if_pos rfl, indices?_inside (not_mem_toDigits rfl), List.reverse_nil,
    List.nil_append, trim_toDigits, natural?_toDigits hi]
  rfl

/-- A bracket adds an index to the part that it stands in. -/
theorem ofPart?_bracket {part : List Char} {steps : List Step} (h : ofPart? part = some steps) {i : Nat}
    (hi : i < 2 ^ (64 : Nat)) : ofPart? (part ++ bracket i) = some (steps ++ [.index i]) := by
  have hkey : (part ++ bracket i).takeWhile (· != '[') = part.takeWhile (· != '[') := by
    rw [List.takeWhile_append]
    split
    · rename_i hlength
      rw [(List.takeWhile_prefix _).eq_of_length hlength]
      simp [bracket]
    · rfl
  have hindices : (part ++ bracket i).dropWhile (· != '[') = part.dropWhile (· != '[') ++ bracket i := by
    rw [List.dropWhile_append]
    split <;> simp_all [bracket]
  have hread {others : List Step} (hothers : indices? none (part.dropWhile (· != '[')) = some others) :
      indices? none (part.dropWhile (· != '[') ++ bracket i) = some (others ++ [.index i]) := by
    rw [indices?_append hothers, indices?_bracket hi, Option.map_some]
  rw [ofPart?, hkey, hindices]
  rw [ofPart?] at h
  by_cases hempty : part.takeWhile (· != '[') = []
  · rw [if_pos hempty] at h ⊢
    exact hread h
  · rw [if_neg hempty] at h ⊢
    obtain ⟨others, hothers, rfl⟩ := Option.map_eq_some_iff.mp h
    rw [hread hothers]
    rfl

/-! ## Reading a path -/

/-- A text without a point is one part. -/
theorem ofText?_part {part : List Char} (h : '.' ∉ part) : ofText? part = ofPart? part := by
  have hsplit : Text.split '.' part = [part] :=
    Text.split_join (List.cons_ne_nil part []) fun other hother => List.mem_singleton.mp hother ▸ h
  rw [ofText?, hsplit, ofParts?, ofParts?]
  cases ofPart? part <;> simp

/-- The steps that are written behind a part of a path are read after the steps of this part. -/
theorem ofText?_continued {part : List Char} {first steps : List Step} (hpoint : '.' ∉ part)
    (hpart : ofPart? part = some first) (h : ∀ step ∈ steps, step.IsWritable) :
    ofText? (part ++ steps.flatMap continued) = some (first ++ steps) := by
  -- Each index prolongs the part, and each key starts a new one.
  induction steps generalizing part first with
  | nil => simp [ofText?_part hpoint, hpart]
  | cons step steps ih =>
    obtain ⟨hstep, hsteps⟩ := List.forall_mem_cons.mp h
    cases step with
    | key name =>
      obtain ⟨hne, hname, hbracket⟩ := hstep
      have hkey := ofPart?_key (mt String.toList_eq_nil_iff.mp hne) hbracket
      rw [List.flatMap_cons, continued, List.cons_append, ofText?_append, ofText?_part hpoint, hpart,
        ih hname hkey hsteps, String.ofList_toList]
      rfl
    | index i =>
      have hlonger : '.' ∉ part ++ bracket i := by
        simp [hpoint, bracket, not_mem_toDigits]
      have hothers := ih hlonger (ofPart?_bracket hpart hstep) hsteps
      simpa [continued] using hothers

/-- Steps that can be written are read back from their written path. -/
theorem ofText?_chars {steps : List Step} (h : ∀ step ∈ steps, step.IsWritable) :
    ofText? (chars steps) = some steps := by
  have hnone : ofPart? [] = some [] := rfl
  match steps with
  | [] => rfl
  | .index i :: steps => exact ofText?_continued List.not_mem_nil hnone h
  | .key name :: steps =>
    obtain ⟨⟨hne, hname, hbracket⟩, hsteps⟩ := List.forall_mem_cons.mp h
    have hkey := ofPart?_key (mt String.toList_eq_nil_iff.mp hne) hbracket
    rw [String.ofList_toList] at hkey
    exact ofText?_continued hname hkey hsteps

end Step

/-! ## Nodes -/

/-- Steps lead from a value to a node in it: keys from objects, and indices from arrays. -/
inductive Leads : List Step → Json → Json → Prop where
  | root (node : Json) : Leads [] node node
  | field {fields : List (String × Json)} {name : String} {child node : Json} {steps : List Step}
    (h : Dictionary.get? name fields = some child) (leads : Leads steps child node) :
    Leads (.key name :: steps) (.object fields) node
  | item {items : List Json} {i : Nat} {child node : Json} {steps : List Step} (h : items[i]? = some child)
    (leads : Leads steps child node) : Leads (.index i :: steps) (.array items) node

/-- Where steps lead to a node, their spellings are followed to it. -/
theorem Leads.follow? {steps steps' : List Step} {root node : Json} (h : Leads steps root node)
    (hw : ∀ step ∈ steps, step.IsWritable) (hs : List.Forall₂ Step.IsSpelling steps steps') :
    Json.follow? steps' root = some node := by
  induction h generalizing steps' with
  | root node =>
    cases hs
    rfl
  | field h leads ih =>
    obtain ⟨-, hsteps⟩ := List.forall_mem_cons.mp hw
    cases hs with
    | cons hstep hs =>
      cases hstep
      rw [Json.follow?, at?, h, Option.bind_some, ih hsteps hs]
  | item h leads ih =>
    obtain ⟨hi, hsteps⟩ := List.forall_mem_cons.mp hw
    cases hs with
    | cons hstep hs =>
      cases hstep with
      | same => rw [Json.follow?, at?, h, Option.bind_some, ih hsteps hs]
      | digits i =>
        rw [Json.follow?, at?, String.toList_ofList, Step.natural?_toDigits hi, Option.bind_some, h, Option.bind_some,
          ih hsteps hs]

/-- The written path of steps to a node is read back as these steps and leads to the node, and so does every path in
which some of the indices are written like keys. -/
theorem pick?_text {steps : List Step} (hw : ∀ step ∈ steps, step.IsWritable) :
    Step.ofText? (Step.text steps).toList = some steps ∧
      ∀ root node, Leads steps root node →
        pick? (Step.text steps) root = some node ∧
          ∀ steps', List.Forall₂ Step.IsSpelling steps steps' → pick? (Step.text steps') root = some node := by
  have hread {written : List Step} (h : ∀ step ∈ written, step.IsWritable) :
      Step.ofText? (Step.text written).toList = some written := by
    rw [Step.text, String.toList_ofList, Step.ofText?_chars h]
  refine ⟨hread hw, fun root node h => ?_⟩
  have hspelling : ∀ steps', List.Forall₂ Step.IsSpelling steps steps' →
      pick? (Step.text steps') root = some node := by
    intro steps' hs
    rw [pick?_of_steps (hread (Step.isWritable_of_spelling hs hw)), h.follow? hw hs]
  exact ⟨hspelling steps (List.forall₂_same.mpr fun step _ => .same step), hspelling⟩

/-- A key may end a bracket or be a number, and indices may follow each other. A number between points is an index or a
key. -/
theorem pick?_zeros :
    let root : Json := .array [.array [.object [("a]b", .object [("0", .array [.null, .string "here"])])]]]
    let steps : List Step := [.index 0, .index 0, .key "a]b", .key "0", .index 1]
    (∀ step ∈ steps, step.IsWritable) ∧ Leads steps root (.string "here") ∧
      Step.ofText? "[0][0].a]b.0[1]".toList = some steps ∧
      pick? "[0][0].a]b.0[1]" root = some (.string "here") ∧
      pick? "0[0].a]b.0.1" root = some (.string "here") := by
  intro root steps
  have hw : ∀ step ∈ steps, step.IsWritable := by decide
  have h : Leads steps root (.string "here") := .item rfl (.item rfl (.field rfl (.field rfl (.item rfl (.root _)))))
  have hs : List.Forall₂ Step.IsSpelling steps [.key "0", .index 0, .key "a]b", .key "0", .key "1"] :=
    .cons (.digits 0) (.cons (.same _) (.cons (.same _) (.cons (.same _) (.cons (.digits 1) .nil))))
  obtain ⟨hread, hpick⟩ := pick?_text hw
  obtain ⟨hnode, hspelling⟩ := hpick root _ h
  have hdigits := hspelling _ hs
  rw [show Step.text steps = "[0][0].a]b.0[1]" by decide] at hread hnode
  rw [show Step.text [.key "0", .index 0, .key "a]b", .key "0", .key "1"] = "0[0].a]b.0.1" by decide] at hdigits
  exact ⟨hw, h, hread, hnode, hdigits⟩

end FormLang.Json
