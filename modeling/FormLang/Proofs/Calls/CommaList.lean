import FormLang.Calls.Dispatch
import FormLang.Proofs.Text.Blank
import FormLang.Proofs.Text.Split

/-!
# Comma lists

A comma list is written from items without commas (`commaList`), and cut into the same items again. A text is found in
it if and only if it is one of the items without the blanks around it (`isCommaItem_join`). So only the set of the items
without blanks matters (`SameItems`), and nothing is found that holds a comma or starts or ends with a blank:
`commaContains_items` says this of the calls.
-/

namespace FormLang

open Text (isBlank IsPadded IsTrimOf)
open Calls.Texts (isCommaItem)

/-- The text of a list of items with commas between them. -/
def commaList (items : List (List Char)) : String := String.ofList (Text.join [','] items)

/-- Every item of either list is an item of the other, with other blanks around it perhaps. How often and in which order
the items stand does not matter. -/
def SameItems (items items' : List (List Char)) : Prop :=
  (∀ item ∈ items, ∃ item' ∈ items', ∃ text, IsPadded text item ∧ IsPadded text item') ∧
    ∀ item' ∈ items', ∃ item ∈ items, ∃ text, IsPadded text item ∧ IsPadded text item'

variable {items items' : List (List Char)} {needle : List Char}

/-- A text is found in a comma list if and only if it is an item without the blanks around it. -/
theorem isCommaItem_join (hne : items ≠ []) (hcomma : ∀ item ∈ items, ',' ∉ item) :
    isCommaItem (Text.join [','] items) needle = true ↔ ∃ item ∈ items, IsTrimOf needle item := by
  rw [isCommaItem, Text.split_join hne hcomma, List.contains_iff_mem, List.mem_map]
  simp only [Text.trim_eq_iff]

theorem exists_isTrimOf_of_padded
    (h : ∀ item ∈ items, ∃ item' ∈ items', ∃ text, IsPadded text item ∧ IsPadded text item')
    (hitem : ∃ item ∈ items, IsTrimOf needle item) : ∃ item' ∈ items', IsTrimOf needle item' := by
  obtain ⟨item, hmem, htrim⟩ := hitem
  obtain ⟨item', hmem', text, hpad, hpad'⟩ := h item hmem
  refine ⟨item', hmem', Text.trim_eq_iff.mp ?_⟩
  rw [Text.trim_of_isPadded hpad', ← Text.trim_of_isPadded hpad, htrim.trim_eq]

/-- Lists of the same items hold the same texts. -/
theorem SameItems.exists_isTrimOf_iff (h : SameItems items items') :
    (∃ item ∈ items, IsTrimOf needle item) ↔ ∃ item' ∈ items', IsTrimOf needle item' := by
  refine ⟨exists_isTrimOf_of_padded h.1, exists_isTrimOf_of_padded fun item' hmem' => ?_⟩
  obtain ⟨item, hmem, text, hpad, hpad'⟩ := h.2 item' hmem'
  exact ⟨item, hmem, text, hpad', hpad⟩

/-- A text is found in a list of items without commas if and only if it is one of the items without the blanks around
it. So the answer depends only on the set of the items without blanks, and a text that holds a comma or starts or ends
with a blank is not found. -/
theorem commaContains_items (hne : items ≠ []) (hcomma : ∀ item ∈ items, ',' ∉ item) (env : Environment) :
    let answer (items : List (List Char)) (needle : String) :=
      Builtin.commaContains.call env [.string (commaList items), .string needle]
    (∀ needle, ∃ found, answer items needle = .ok (.boolean found) ∧
      (found = true ↔ ∃ item ∈ items, IsTrimOf needle.toList item)) ∧
    (∀ items', items' ≠ [] → (∀ item ∈ items', ',' ∉ item) → SameItems items items' →
      ∀ needle, answer items' needle = answer items needle) ∧
    ∀ needle, (',' ∈ needle.toList ∨ (∃ c ∈ needle.toList.head?, isBlank c = true) ∨
        ∃ c ∈ needle.toList.getLast?, isBlank c = true) →
      answer items needle = .ok (.boolean false) := by
  intro answer
  have hanswer (items : List (List Char)) (needle : String) :
      answer items needle = .ok (.boolean (isCommaItem (Text.join [','] items) needle.toList)) := by
    change Except.ok (Value.boolean (isCommaItem (commaList items).toList needle.toList)) = _
    rw [commaList, String.toList_ofList]
  refine ⟨fun needle => ⟨_, hanswer items needle, isCommaItem_join hne hcomma⟩, ?_, ?_⟩
  · intro items' hne' hcomma' hsame needle
    have hiff : isCommaItem (Text.join [','] items') needle.toList = true ↔
        isCommaItem (Text.join [','] items) needle.toList = true := by
      rw [isCommaItem_join hne' hcomma', isCommaItem_join hne hcomma, hsame.exists_isTrimOf_iff]
    rw [hanswer, hanswer, Bool.eq_iff_iff.mpr hiff]
  · intro needle hneedle
    have hnot : ¬∃ item ∈ items, IsTrimOf needle.toList item := by
      rintro ⟨item, hmem, htrim⟩
      rcases hneedle with h | ⟨c, hc, h⟩ | ⟨c, hc, h⟩
      · exact htrim.not_mem (hcomma item hmem) h
      · exact absurd h (by rw [htrim.head c hc]; decide)
      · exact absurd h (by rw [htrim.last c hc]; decide)
    rw [hanswer, Bool.eq_false_iff.mpr fun h => hnot ((isCommaItem_join hne hcomma).mp h)]

/-- An item is found without its blank and not with it, also after other items, with another blank and among repeated
ones. -/
theorem commaContains_reordered :
    let answer (items : List (List Char)) (needle : String) :=
      Builtin.commaContains.call {} [.string (commaList items), .string needle]
    let items := [[' ', 'a'], ['b']]
    let items' := [['b'], ['a', '\u00a0'], ['b']]
    answer items "a" = .ok (.boolean true) ∧ SameItems items items' ∧ answer items' "a" = answer items "a" ∧
      answer items " a" = .ok (.boolean false) := by
  intro answer items items'
  obtain ⟨hfound, hset, hnot⟩ := @commaContains_items items (List.cons_ne_nil _ _) (by decide) {}
  have ha : IsPadded ['a'] [' ', 'a'] ∧ IsPadded ['a'] ['a', '\u00a0'] :=
    ⟨⟨[' '], [], rfl, rfl, rfl⟩, ⟨[], ['\u00a0'], rfl, rfl, rfl⟩⟩
  have hb : IsPadded ['b'] ['b'] ∧ IsPadded ['b'] ['b'] :=
    ⟨⟨[], [], rfl, rfl, rfl⟩, ⟨[], [], rfl, rfl, rfl⟩⟩
  have hsame : SameItems items items' := by
    constructor
    · simp only [items, List.forall_mem_cons]
      exact ⟨⟨_, .tail _ (.head _), _, ha⟩, ⟨_, .head _, _, hb⟩, nofun⟩
    · simp only [items', List.forall_mem_cons]
      exact ⟨⟨_, .tail _ (.head _), _, hb⟩, ⟨_, .head _, _, ha⟩, ⟨_, .tail _ (.head _), _, hb⟩, nofun⟩
  obtain ⟨found, hanswer, hiff⟩ := hfound "a"
  have htrim : IsTrimOf ['a'] [' ', 'a'] := ⟨ha.1, by rintro _ ⟨⟩; rfl, by rintro _ ⟨⟩; rfl⟩
  have htrue : found = true := hiff.mpr ⟨_, List.mem_cons_self, htrim⟩
  exact ⟨htrue ▸ hanswer, hsame, hset items' (List.cons_ne_nil _ _) (by decide) hsame "a",
    hnot " a" (.inr (.inl ⟨' ', rfl, rfl⟩))⟩

end FormLang
