/-!
# Dictionaries

Entries in ascending order of their keys, each key once. Keys are compared by code points.

- `insert`: sets the value of a key, and keeps the order;
- `get?`: the value of a key; `get?_insert` says what an insertion changes;
- `ofList`: entries set one after another, so that the last one of a key stays.
-/

namespace FormLang

/-- Entries with text keys. -/
abbrev Dictionary (α : Type) := List (String × α)

namespace Dictionary

variable {α : Type}

/-- The dictionary with the value of one key set. -/
def insert (key : String) (value : α) : Dictionary α → Dictionary α
  | [] => [(key, value)]
  | entry :: entries =>
    if key = entry.1 then (key, value) :: entries
    else if key < entry.1 then (key, value) :: entry :: entries
    else entry :: insert key value entries

/-- The value of a key. -/
def get? (key : String) : Dictionary α → Option α
  | [] => none
  | entry :: entries => if key = entry.1 then some entry.2 else get? key entries

/-- The entries set one after another. -/
def ofList (entries : List (String × α)) : Dictionary α :=
  entries.foldl (fun dictionary entry => insert entry.1 entry.2 dictionary) []

/-- The keys in ascending order. -/
def keys (dictionary : Dictionary α) : List String := dictionary.map Prod.fst

@[simp] theorem get?_nil (key : String) : get? key ([] : Dictionary α) = none := rfl

/-- An insertion sets the value of its key and keeps every other value. -/
theorem get?_insert (dictionary : Dictionary α) (key other : String) (value : α) :
    get? other (insert key value dictionary) =
      if other = key then some value else get? other dictionary := by
  induction dictionary with
  | nil => simp [insert, get?]
  | cons entry entries ih =>
    by_cases h : key = entry.1
    · by_cases h' : other = entry.1 <;> simp [insert, get?, h, h']
    · by_cases hlt : key < entry.1
      · simp [insert, get?, h, hlt]
      · by_cases h' : other = entry.1
        · have : entry.1 ≠ key := fun e => h e.symm
          simp [insert, get?, h, hlt, h', this]
        · simp [insert, get?, h, hlt, h', ih]

theorem get?_insert_self (dictionary : Dictionary α) (key : String) (value : α) :
    get? key (insert key value dictionary) = some value := by
  rw [get?_insert, if_pos rfl]

theorem get?_insert_of_ne (dictionary : Dictionary α) {key other : String} (value : α) (h : key ≠ other) :
    get? other (insert key value dictionary) = get? other dictionary := by
  rw [get?_insert, if_neg h.symm]

end Dictionary

end FormLang
