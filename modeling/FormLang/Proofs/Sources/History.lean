import FormLang.Proofs.Sources.Slots

/-!
# What a history leaves in a document

One change of a document writes one slot (`Document.entry_apply_slot`) and keeps the others
(`Document.entry_apply_of_ne`). So after a history, which is a list of changes, a slot holds what the last
change of it wrote (`Document.entry_applyAll`), and the default data model is the first one
(`Document.defaultDataType_applyAll`). `Document.applyAll_history` says from this what the lookups of a new
document with a history are, and which changes can be swapped.
-/

namespace FormLang

theorem InstanceField.key_injective {f g : InstanceField} (h : f.key = g.key) : f = g := by
  revert h
  cases f <;> cases g <;> decide

theorem Permission.key_injective {a b : Permission} (h : a.key = b.key) : a = b := by
  revert h
  cases a <;> cases b <;> decide

namespace Document

/-! ## One change -/

namespace Edit

/-- The slot that a change writes. -/
def slot : Edit → Slot
  | .dataModel dataType _ => .dataModel dataType
  | .component id _ => .component id
  | .instanceField field _ => .instanceField field
  | .setting key _ => .setting key
  | .permission action => .permission action
  | .roles _ => .roles
  | .externalApi id _ => .externalApi id
  | .text key _ => .text key
  | .language _ => .language
  | .task _ => .task

/-- What a change writes. -/
def content : (e : Edit) → e.slot.Content
  | .dataModel _ model => model
  | .component _ c => c
  | .instanceField _ value => value
  | .setting _ value => value
  | .permission _ => ()
  | .roles names => names
  | .externalApi _ data => data
  | .text _ s => s
  | .language name => name
  | .task name => name

/-- What a change writes to a slot; nothing if it writes another one. -/
def writes (slot : Slot) (e : Edit) : Option slot.Content :=
  if h : e.slot = slot then some (h ▸ e.content) else none

/-- The type of the data model that a change adds. -/
def dataType? : Edit → Option String
  | .dataModel dataType _ => some dataType
  | _ => none

variable {e : Edit} {slot : Slot}

@[simp] theorem writes_slot (e : Edit) : e.writes e.slot = some e.content := by
  simp [writes]

theorem writes_of_ne (h : e.slot ≠ slot) : e.writes slot = none := by
  simp [writes, h]

/-- A change that adds a data model writes the slot of its type. -/
theorem slot_of_dataType? {dataType : String} (h : e.dataType? = some dataType) :
    e.slot = .dataModel dataType := by
  cases e with
  | dataModel =>
    cases h
    rfl
  | _ => cases h

end Edit

variable {doc : Document} {e : Edit} {slot : Slot}

/-- A change writes its slot. -/
theorem entry_apply_slot (doc : Document) (e : Edit) : (doc.apply e).entry e.slot = some e.content := by
  cases e with
  | dataModel | component | instanceField | setting | externalApi | text =>
    exact Dictionary.get?_insert_self ..
  | permission action => exact if_pos (by simp [apply])
  | roles | language | task => rfl

/-- A change keeps the slots that it does not write. -/
theorem entry_apply_of_ne (h : e.slot ≠ slot) : (doc.apply e).entry slot = doc.entry slot := by
  -- A slot of another kind lies in another part of the document, and one of the same kind has another key.
  cases e with
  | dataModel =>
    cases slot with
    | dataModel => exact Dictionary.get?_insert_of_ne _ _ fun hk => h (hk ▸ rfl)
    | _ => rfl
  | component =>
    cases slot with
    | component => exact Dictionary.get?_insert_of_ne _ _ fun hk => h (hk ▸ rfl)
    | _ => rfl
  | setting =>
    cases slot with
    | setting => exact Dictionary.get?_insert_of_ne _ _ fun hk => h (hk ▸ rfl)
    | _ => rfl
  | externalApi =>
    cases slot with
    | externalApi => exact Dictionary.get?_insert_of_ne _ _ fun hk => h (hk ▸ rfl)
    | _ => rfl
  | text =>
    cases slot with
    | text => exact Dictionary.get?_insert_of_ne _ _ fun hk => h (hk ▸ rfl)
    | _ => rfl
  | instanceField =>
    cases slot with
    | instanceField =>
      exact Dictionary.get?_insert_of_ne _ _ fun hk => h (InstanceField.key_injective hk ▸ rfl)
    | _ => rfl
  | permission action =>
    cases slot with
    | permission other =>
      have hk : other.key ≠ action.key := fun hk => h (Permission.key_injective hk ▸ rfl)
      simp [apply, entry, hk]
    | _ => rfl
  | roles =>
    cases slot with
    | roles => exact absurd rfl h
    | _ => rfl
  | language =>
    cases slot with
    | language => exact absurd rfl h
    | _ => rfl
  | task =>
    cases slot with
    | task => exact absurd rfl h
    | _ => rfl

/-- A slot holds what a change writes to it, or else what it has held before. -/
theorem entry_apply (doc : Document) (e : Edit) :
    (doc.apply e).entry slot = (e.writes slot).or (doc.entry slot) := by
  by_cases h : e.slot = slot
  · subst h
    rw [entry_apply_slot, Edit.writes_slot, Option.some_or]
  · rw [entry_apply_of_ne h, Edit.writes_of_ne h, Option.none_or]

/-- The default data model stays, and a change gives the first one. -/
theorem defaultDataType_apply (doc : Document) (e : Edit) :
    (doc.apply e).defaultDataType = doc.defaultDataType.or e.dataType? := by
  cases e with
  | dataModel => rfl
  | _ => exact Option.or_none.symm

/-! ## A history -/

namespace Edit

/-- What the last change of a slot writes to it. -/
def last? (slot : Slot) (edits : List Edit) : Option slot.Content :=
  edits.reverse.findSome? (writes slot)

/-- The type of the data model that is added first. -/
def firstType? (edits : List Edit) : Option String := edits.findSome? dataType?

theorem last?_cons (e : Edit) (edits : List Edit) :
    last? slot (e :: edits) = (last? slot edits).or (e.writes slot) := by
  simp [last?]

theorem firstType?_cons (e : Edit) (edits : List Edit) :
    firstType? (e :: edits) = e.dataType?.or (firstType? edits) := by
  rw [firstType?, List.findSome?_cons]
  cases e.dataType? <;> rfl

end Edit

/-- After a history, a slot holds what its last change wrote, or else what it has held before. -/
theorem entry_applyAll (doc : Document) (edits : List Edit) :
    (doc.applyAll edits).entry slot = (Edit.last? slot edits).or (doc.entry slot) := by
  induction edits generalizing doc with
  | nil => rfl
  | cons e edits ih =>
    calc ((doc.apply e).applyAll edits).entry slot
      _ = (Edit.last? slot edits).or ((e.writes slot).or (doc.entry slot)) := by rw [ih, entry_apply]
      _ = (Edit.last? slot (e :: edits)).or (doc.entry slot) := by rw [Edit.last?_cons, Option.or_assoc]

/-- After a history, the default data model is the one from before, or else the first that was added. -/
theorem defaultDataType_applyAll (doc : Document) (edits : List Edit) :
    (doc.applyAll edits).defaultDataType = doc.defaultDataType.or (Edit.firstType? edits) := by
  induction edits generalizing doc with
  | nil => exact Option.or_none.symm
  | cons e edits ih =>
    calc ((doc.apply e).applyAll edits).defaultDataType
      _ = (doc.defaultDataType.or e.dataType?).or (Edit.firstType? edits) := by rw [ih, defaultDataType_apply]
      _ = doc.defaultDataType.or (Edit.firstType? (e :: edits)) := by rw [Edit.firstType?_cons, Option.or_assoc]

/-! ## Swapped changes -/

namespace Edit

variable {before after edits : List Edit} {e' : Edit}

theorem last?_append (before edits : List Edit) :
    last? slot (before ++ edits) = (last? slot edits).or (last? slot before) := by
  simp [last?]

theorem firstType?_append (before edits : List Edit) :
    firstType? (before ++ edits) = (firstType? before).or (firstType? edits) := by
  simp [firstType?]

/-- A slot has a last change if any change is one of it. -/
theorem isSome_last?_iff : (last? slot edits).isSome ↔ ∃ e ∈ edits, e.slot = slot := by
  simp only [last?, List.findSome?_isSome_iff, List.mem_reverse]
  refine exists_congr fun e => and_congr_right fun _ => ?_
  by_cases h : e.slot = slot
  · subst h
    simp
  · simp [writes_of_ne h, h]

/-- Swapping changes of different slots keeps what the last changes write. -/
theorem last?_swap (h : e.slot ≠ e'.slot) :
    last? slot (before ++ e' :: e :: after) = last? slot (before ++ e :: e' :: after) := by
  have hw : e.writes slot = none ∨ e'.writes slot = none := by
    by_cases he : e.slot = slot
    · exact .inr (writes_of_ne fun he' => h (he.trans he'.symm))
    · exact .inl (writes_of_ne he)
  simp only [last?_append, last?_cons]
  rcases hw with hw | hw <;> simp only [hw, Option.or_none]

/-- Two changes add data models, and no change before them adds any. -/
def AreFirst (before : List Edit) (e e' : Edit) : Prop :=
  firstType? before = none ∧ e.dataType?.isSome ∧ e'.dataType?.isSome

/-- Swapping changes keeps the first data model, unless they add the first two. -/
theorem firstType?_swap (h : ¬AreFirst before e e') :
    firstType? (before ++ e' :: e :: after) = firstType? (before ++ e :: e' :: after) := by
  simp only [firstType?_append, firstType?_cons]
  cases hb : firstType? before with
  | some dataType => rfl
  | none =>
    cases he : e.dataType? with
    | none => simp
    | some dataType =>
      have he' : e'.dataType? = none := by
        rw [← Option.not_isSome_iff_eq_none]
        exact fun he' => h ⟨hb, by simp [he], he'⟩
      simp [he']

/-- Of two changes that add the first data models, the one that comes first gives the default one. -/
theorem firstType?_of_areFirst (h : AreFirst before e e') :
    firstType? (before ++ e :: e' :: after) = e.dataType? := by
  obtain ⟨hb, he, -⟩ := h
  obtain ⟨dataType, he⟩ := Option.isSome_iff_exists.mp he
  rw [firstType?_append, hb, firstType?_cons, he]
  rfl

theorem AreFirst.symm (h : AreFirst before e e') : AreFirst before e' e := ⟨h.1, h.2.2, h.2.1⟩

/-- Data models that are added to different slots have different types. -/
theorem AreFirst.dataType?_ne (h : AreFirst before e e') (hs : e.slot ≠ e'.slot) :
    e'.dataType? ≠ e.dataType? := by
  obtain ⟨dataType, he⟩ := Option.isSome_iff_exists.mp h.2.1
  exact fun ht => hs ((slot_of_dataType? he).trans (slot_of_dataType? (ht.trans he)).symm)

end Edit

/-! ## A new document -/

/-- A new document holds nothing. -/
theorem entry_new (slot : Slot) : ({} : Document).entry slot = none := by
  cases slot <;> rfl

theorem entry_applyAll_new (edits : List Edit) : (applyAll {} edits).entry = (Edit.last? · edits) := by
  funext slot
  rw [entry_applyAll, entry_new, Option.or_none]

theorem defaultDataType_applyAll_new (edits : List Edit) :
    (applyAll {} edits).defaultDataType = Edit.firstType? edits := by
  rw [defaultDataType_applyAll, Option.none_or]

theorem sources_applyAll_new (edits : List Edit) :
    (applyAll {} edits).sources = Sources.ofEntries (Edit.firstType? edits) (Edit.last? · edits) := by
  rw [sources_eq_ofEntries, defaultDataType_applyAll_new, entry_applyAll_new]

/-- After a history, an action is permitted if a change permits it. -/
theorem isPermitted_applyAll_new (edits : List Edit) (action : Permission) :
    (applyAll {} edits).sources.isPermitted action = true ↔ .permission action ∈ edits := by
  rw [sources_applyAll_new]
  show (Edit.last? (.permission action) edits).isSome = true ↔ _
  rw [Edit.isSome_last?_iff]
  constructor
  · rintro ⟨e, he, hs⟩
    cases e with
    | permission other =>
      cases hs
      exact he
    | _ => cases hs
  · exact fun he => ⟨_, he, rfl⟩

/-- The default data model of a new document with a history is the first that was added. Form data is read
from the last data model of a type, that of the default one if no type is given, what is known of a component
from its last entry and the data models, and every other lookup gives what its last change wrote; an action is
permitted if some change permits it. So two changes that follow each other and write different slots can be
swapped without a difference to any lookup, unless they add the first two data models: then the slots hold the
same, but the other data model becomes the default one. -/
theorem applyAll_history (edits : List Edit) :
    (applyAll {} edits).defaultDataType = Edit.firstType? edits ∧
    (applyAll {} edits).sources = Sources.ofEntries (Edit.firstType? edits) (Edit.last? · edits) ∧
    (∀ action, (applyAll {} edits).sources.isPermitted action = true ↔ .permission action ∈ edits) ∧
    ∀ before e e' after, edits = before ++ e :: e' :: after → e.slot ≠ e'.slot →
      let swapped := applyAll {} (before ++ e' :: e :: after)
      swapped.entry = (applyAll {} edits).entry ∧
      (¬Edit.AreFirst before e e' →
        swapped.defaultDataType = (applyAll {} edits).defaultDataType ∧
        swapped.sources = (applyAll {} edits).sources) ∧
      (Edit.AreFirst before e e' →
        swapped.defaultDataType = e'.dataType? ∧ (applyAll {} edits).defaultDataType = e.dataType? ∧
        e'.dataType? ≠ e.dataType?) := by
  refine ⟨defaultDataType_applyAll_new edits, sources_applyAll_new edits, isPermitted_applyAll_new edits,
    ?_⟩
  rintro before e e' after rfl hs
  have hlast : (Edit.last? · (before ++ e' :: e :: after)) = (Edit.last? · (before ++ e :: e' :: after)) :=
    funext fun _ => Edit.last?_swap hs
  simp only [entry_applyAll_new, defaultDataType_applyAll_new, sources_applyAll_new, hlast, true_and]
  refine ⟨fun hf => ?_, fun hf => ⟨?_, ?_, hf.dataType?_ne hs⟩⟩
  · rw [Edit.firstType?_swap hf]
    exact ⟨rfl, rfl⟩
  · exact Edit.firstType?_of_areFirst hf.symm
  · exact Edit.firstType?_of_areFirst hf

/-- A text and the second data model can be swapped, but the first two data models cannot. -/
theorem applyAll_text_and_model :
    let form := Edit.dataModel "form" (.object [("age", .string "41")])
    let other := Edit.dataModel "other" (.object [])
    let title := Edit.text "title" "Report"
    (applyAll {} [form, title, other]).sources = (applyAll {} [form, other, title]).sources ∧
      (applyAll {} [form, other]).defaultDataType = some "form" ∧
      (applyAll {} [other, form]).defaultDataType = some "other" := by
  intro form other title
  obtain ⟨-, -, -, hswap⟩ := applyAll_history [form, other, title]
  obtain ⟨-, hsame, -⟩ := hswap [form] other title [] rfl (by decide)
  obtain ⟨-, -, -, hswap⟩ := applyAll_history [form, other]
  obtain ⟨-, -, hfirst⟩ := hswap [] form other [] rfl (by decide)
  obtain ⟨hother, hform, -⟩ := hfirst ⟨rfl, rfl, rfl⟩
  exact ⟨(hsame (by rintro ⟨-, -, ht⟩; cases ht)).2, hform, hother⟩

end Document

end FormLang
