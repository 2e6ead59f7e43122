/-!
# Searching and cutting texts

- `contains`: whether a text occurs inside another, the empty text everywhere;
- `split`: the parts of a text between the occurrences of a separating character, always at least
  one (`split_ne_nil`);
- `join`: parts with a separating text between them.
-/

namespace FormLang.Text

/-- Whether `sub` occurs in a text. -/
def contains (sub : List Char) : List Char → Bool
  | [] => sub.isEmpty
  | c :: cs => sub.isPrefixOf (c :: cs) || contains sub cs

/-- The parts of a text between the occurrences of `sep`. -/
def split (sep : Char) : List Char → List (List Char)
  | [] => [[]]
  | c :: cs =>
    if c = sep then [] :: split sep cs
    else match split sep cs with
      | [] => [[c]]
      | part :: parts => (c :: part) :: parts

/-- The parts with `sep` between them. -/
def join (sep : List Char) : List (List Char) → List Char
  | [] => []
  | [part] => part
  | part :: next :: parts => part ++ sep ++ join sep (next :: parts)

theorem split_ne_nil (sep : Char) (cs : List Char) : split sep cs ≠ [] := by
  cases cs with
  | nil => simp [split]
  | cons c cs =>
    by_cases h : c = sep
    · simp [split, h]
    · cases hs : split sep cs <;> simp [split, h, hs]

end FormLang.Text
