import FormLang.Json.Printer

/-!
# The compact text of an array, item by item

* `comma`: what stands before an item;
* `charsFrom`: the items from an index on, each with what stands before it. This is how the text of an
  array is made up (`chars_array`), and it can be split between any two items (`charsFrom_append`);
* `chars_ne_nil`: every value has some text.
-/

namespace FormLang

namespace Json

/-- What stands before the item at an index. -/
def comma (index : Nat) : List Char := if 0 < index then [','] else []

/-- The compact texts of items from an index on, each with what stands before it. -/
def charsFrom (index : Nat) : List Json → List Char
  | [] => []
  | item :: items => comma index ++ item.chars ++ charsFrom (index + 1) items

@[simp] theorem charsFrom_nil (index : Nat) : charsFrom index [] = [] := by
  rw [charsFrom]

theorem charsFrom_append (index : Nat) (items rest : List Json) :
    charsFrom index (items ++ rest) =
      charsFrom index items ++ charsFrom (index + items.length) rest := by
  induction items generalizing index with
  | nil => simp
  | cons item items ih =>
    have hi : index + (items.length + 1) = index + 1 + items.length := by omega
    simp only [List.cons_append, charsFrom, List.length_cons, List.append_assoc, ih, hi]

/-- All items but the first have a comma before them. -/
theorem charsFrom_succ (index : Nat) (item : Json) (items : List Json) :
    charsFrom (index + 1) (item :: items) = ',' :: itemChars (item :: items) := by
  induction items generalizing index item with
  | nil => simp [charsFrom, comma, itemChars]
  | cons next items ih =>
    rw [charsFrom, ih]
    simp [comma, itemChars]

theorem itemChars_eq_charsFrom (items : List Json) : itemChars items = charsFrom 0 items := by
  match items with
  | [] => rfl
  | [item] => simp [itemChars, charsFrom, comma]
  | item :: next :: items =>
    rw [charsFrom, charsFrom_succ]
    simp [itemChars, comma]

theorem chars_array (items : List Json) :
    chars (.array items) = '[' :: charsFrom 0 items ++ [']'] := by
  rw [chars, itemChars_eq_charsFrom]

/-- The text of an item stands between those of the items before it and after it, also if it is changed. -/
theorem charsFrom_modify {items : List Json} {i : Nat} {item : Json} (h : items[i]? = some item)
    (change : Json → Json) :
    charsFrom 0 (items.modify i change) = charsFrom 0 (items.take i) ++ comma i ++ (change item).chars ++
      charsFrom (i + 1) (items.drop (i + 1)) := by
  obtain ⟨hi, rfl⟩ := List.getElem?_eq_some_iff.mp h
  have hl : 0 + (items.take i).length = i := by simp; omega
  rw [List.modify_eq_take_cons_drop hi]
  simp only [charsFrom_append, hl, charsFrom, List.append_assoc]

/-- Where the text of an item stands in the texts of all items. -/
theorem charsFrom_of_getElem? {items : List Json} {i : Nat} {item : Json}
    (h : items[i]? = some item) :
    charsFrom 0 items = charsFrom 0 (items.take i) ++ comma i ++ item.chars ++
      charsFrom (i + 1) (items.drop (i + 1)) := by
  have hid := charsFrom_modify h id
  rwa [List.modify_id] at hid

end Json

/-! ## No text is empty -/

namespace Binary64

theorem Significant.positional_ne_nil (s : Significant) : s.positional ≠ [] := by
  unfold positional
  split
  · simp
  · split
    · rw [ne_eq, ← List.length_eq_zero_iff, List.length_append, List.length_replicate]
      omega
    · simp

theorem Layout.chars_ne_nil (layout : Layout) (x : Finite) : layout.chars x ≠ [] := by
  have hp := (x.significant layout.tie).positional_ne_nil
  unfold chars
  split
  · simp
  · dsimp only
    split <;> simp [hp, Significant.scientific]

end Binary64

namespace Json

theorem quote_ne_nil (s : String) : quote s ≠ [] := by
  simp [quote]

theorem intChars_ne_nil (i : Int) : intChars i ≠ [] := by
  simp [intChars]

theorem Number.chars_ne_nil (n : Number) : n.chars ≠ [] := by
  cases n with
  | int n => exact intChars_ne_nil n.value
  | float x => exact Binary64.Layout.chars_ne_nil floatLayout x

theorem chars_ne_nil (j : Json) : j.chars ≠ [] := by
  cases j with
  | bool b => cases b <;> decide
  | number n => simpa [chars] using n.chars_ne_nil
  | string s => simpa [chars] using quote_ne_nil s
  | _ => simp [chars]

end Json

end FormLang
