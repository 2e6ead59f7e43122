/-!
# Places counted in bytes

Texts are held in UTF-8, where a character takes one to four bytes, and a place in a text is the number
of bytes before it.

- `bytes`: the number of bytes of a text;
- `takeBytes`, `dropBytes`: the texts before and after a place.
-/

namespace FormLang.Text

-- Sums start from the built-in zero, whatever other instances are in scope.
attribute [local instance (high)] Zero.ofOfNat0

/-- The number of bytes of a text. -/
def bytes (cs : List Char) : Nat := (cs.map (·.utf8Size)).sum

/-- The characters that lie in the first `n` bytes. -/
def takeBytes (n : Nat) : List Char → List Char
  | [] => []
  | c :: cs => if c.utf8Size ≤ n then c :: takeBytes (n - c.utf8Size) cs else []

/-- The characters after those that lie in the first `n` bytes. -/
def dropBytes (n : Nat) : List Char → List Char
  | [] => []
  | c :: cs => if c.utf8Size ≤ n then dropBytes (n - c.utf8Size) cs else c :: cs

@[simp] theorem bytes_cons (c : Char) (cs : List Char) : bytes (c :: cs) = c.utf8Size + bytes cs := by
  simp [bytes]

@[simp] theorem bytes_append (cs ds : List Char) : bytes (cs ++ ds) = bytes cs + bytes ds := by
  simp [bytes]

@[simp] theorem takeBytes_zero (cs : List Char) : takeBytes 0 cs = [] := by
  cases cs with
  | nil => rfl
  | cons c cs => rw [takeBytes, if_neg (by have := c.utf8Size_pos; omega)]

@[simp] theorem dropBytes_zero (cs : List Char) : dropBytes 0 cs = cs := by
  cases cs with
  | nil => rfl
  | cons c cs => rw [dropBytes, if_neg (by have := c.utf8Size_pos; omega)]

/-- Before the place where a text ends stands the text. -/
@[simp] theorem takeBytes_bytes_append (cs ds : List Char) : takeBytes (bytes cs) (cs ++ ds) = cs := by
  induction cs with
  | nil => exact takeBytes_zero ds
  | cons c cs ih =>
    rw [bytes_cons, List.cons_append, takeBytes, if_pos (by omega), Nat.add_sub_cancel_left, ih]

/-- After the place where a text ends stands what follows it. -/
@[simp] theorem dropBytes_bytes_append (cs ds : List Char) : dropBytes (bytes cs) (cs ++ ds) = ds := by
  induction cs with
  | nil => exact dropBytes_zero ds
  | cons c cs ih =>
    rw [bytes_cons, List.cons_append, dropBytes, if_pos (by omega), Nat.add_sub_cancel_left, ih]

end FormLang.Text
