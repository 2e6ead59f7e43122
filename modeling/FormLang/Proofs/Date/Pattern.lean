import FormLang.Date.Pattern
import FormLang.Date.Reader
import Mathlib.Data.List.Chain

/-!
# Patterns mean their tokens

A pattern is written from tokens: runs of a letter that stand for a field, quoted texts and other characters
(`Token.chars`). If neighbours do not flow together (`Token.MayPrecede`), the pattern is cut into the pieces of its
tokens (`pieces_tokens`), and a date is written by it as the texts of the tokens in their order (`format?_tokens`).

One token is cut off at a time (`pieces_chars_append`). What follows a token matters only by its first character: a
run goes on with its letter, and a quoted text with a quote.
-/

namespace FormLang.Date

open Pattern

/-! ## Tokens -/

/-- The length up to which runs of a letter stand for a field. -/
def longestRun : Char → Nat
  | 'M' | 'E' => 5
  | 'y' => 4
  | 'S' => 3
  | 'd' | 'H' | 'h' | 'm' | 's' => 2
  | 'a' => 1
  | _ => 0

theorem isAlpha_of_longestRun_pos {letter : Char} (h : 0 < longestRun letter) : letter.isAlpha = true := by
  unfold longestRun at h
  split at h
  all_goals first | rfl | omega

theorem ne_quote_of_isAlpha {c : Char} (h : c.isAlpha = true) : c ≠ '\'' := by
  rintro rfl
  exact absurd h (by decide)

/-- A run of a letter stands for a field if it is not too long. -/
theorem Field.isSome_ofRun?_iff {letter : Char} {count : Nat} (h : 0 < count) :
    (Field.ofRun? letter count).isSome ↔ count ≤ longestRun letter := by
  fun_cases Field.ofRun? letter count <;> simp [longestRun] <;> grind

/-- A run of a letter that stands for a field. -/
structure LetterRun where
  letter : Char
  count : Nat
  count_pos : 0 < count
  count_le : count ≤ longestRun letter

namespace LetterRun

theorem isAlpha (r : LetterRun) : r.letter.isAlpha = true :=
  isAlpha_of_longestRun_pos (r.count_pos.trans_le r.count_le)

/-- The field that a run stands for. -/
def field (r : LetterRun) : Field :=
  (Field.ofRun? r.letter r.count).get ((Field.isSome_ofRun?_iff r.count_pos).mpr r.count_le)

theorem ofRun?_eq (r : LetterRun) : Field.ofRun? r.letter r.count = some r.field :=
  (Option.some_get _).symm

end LetterRun

/-- What a pattern is written from. -/
inductive Token where
  /-- A field of the date. -/
  | run (r : LetterRun)
  /-- A text between quotes, which is not only quotes. -/
  | quoted (text : List Char) (h : ∃ c ∈ text, c ≠ '\'')
  /-- A character that is neither a letter nor a quote. -/
  | plain (c : Char) (hc : c.isAlpha = false ∧ c ≠ '\'')

/-- A text with every quote twice. -/
def twiceQuotes (text : List Char) : List Char := text.flatMap fun c => if c = '\'' then ['\'', '\''] else [c]

namespace Token

/-- A token in a pattern. -/
def chars : Token → List Char
  | .run r => List.replicate r.count r.letter
  | .quoted text _ => '\'' :: twiceQuotes text ++ ['\'']
  | .plain c _ => [c]

/-- The text of a token for a date. -/
def shown (names : Names) (d : Date) : Token → List Char
  | .run r => r.field.chars names d
  | .quoted text _ => text
  | .plain c _ => [c]

/-- Tokens do not flow together: they are not runs of one letter, and not both quoted. -/
def MayPrecede : Token → Token → Prop
  | .run r, .run r' => r.letter ≠ r'.letter
  | .quoted .., .quoted .. => False
  | _, _ => True

instance : DecidableRel MayPrecede
  | .run r, .run r' => inferInstanceAs (Decidable (r.letter ≠ r'.letter))
  | .quoted .., .quoted .. => .isFalse id
  | .run _, .quoted .. | .run _, .plain .. | .quoted .., .run _ | .quoted .., .plain .. | .plain .., _ =>
    .isTrue trivial

/-- The pieces of a token. -/
def pieces : Token → List Piece
  | .run r => [.field r.letter r.count]
  | .quoted text _ => text.map .literal
  | .plain c _ => [.literal c]

/-- The first character of a token. -/
def first : Token → Char
  | .run r => r.letter
  | .quoted .. => '\''
  | .plain c _ => c

/-- A character does not go on with a token. -/
def EndsBefore : Token → Char → Prop
  | .run r, c => c ≠ r.letter
  | .quoted .., c => c ≠ '\''
  | .plain .., _ => True

theorem head?_chars_append (t : Token) (cs : List Char) : (t.chars ++ cs).head? = some t.first := by
  cases t with
  | run r => rw [chars, List.head?_append, List.head?_replicate, if_neg r.count_pos.ne', first, Option.some_or]
  | quoted | plain => rfl

theorem MayPrecede.endsBefore {t t' : Token} (h : t.MayPrecede t') : t.EndsBefore t'.first := by
  cases t with
  | run r =>
    cases t' with
    | run r' => exact Ne.symm h
    | quoted => exact (ne_quote_of_isAlpha r.isAlpha).symm
    | plain c hc =>
      rintro rfl
      exact absurd r.isAlpha (Bool.eq_false_iff.mp hc.1)
  | quoted =>
    cases t' with
    | run r' => exact ne_quote_of_isAlpha r'.isAlpha
    | quoted => exact h.elim
    | plain c hc => exact hc.2
  | plain => trivial

end Token

/-! ## Pieces -/

namespace Pattern

variable {c letter : Char} {cs rest text : List Char} {count : Nat} {ps : List Piece}

theorem pieces_letter (h : c.isAlpha = true) : pieces (c :: cs) = consLetter c (pieces cs) := by
  have hc := ne_quote_of_isAlpha h
  rw [pieces.eq_4 _ _ (fun _ h' => absurd h' hc) hc, if_pos h]

theorem pieces_plain (h : c.isAlpha = false) (hc : c ≠ '\'') : pieces (c :: cs) = .literal c :: pieces cs := by
  rw [pieces.eq_4 _ _ (fun _ h' => absurd h' hc) hc, if_neg (by rw [h]; decide)]

theorem pieces_quote (h : cs.head? ≠ some '\'') : pieces ('\'' :: cs) = quotedPieces cs :=
  pieces.eq_3 _ fun _ hcs => h (by rw [hcs, List.head?_cons])

theorem quotedPieces_quote (h : cs.head? ≠ some '\'') : quotedPieces ('\'' :: cs) = pieces cs :=
  quotedPieces.eq_3 _ fun _ hcs => h (by rw [hcs, List.head?_cons])

theorem quotedPieces_cons (hc : c ≠ '\'') : quotedPieces (c :: cs) = .literal c :: quotedPieces cs :=
  quotedPieces.eq_4 _ _ (fun _ h' => absurd h' hc) hc

/-- Only a letter begins with a field, and the field is of that letter. -/
theorem head?_of_pieces_eq (h : pieces cs = .field letter count :: ps) : cs.head? = some letter := by
  fun_cases pieces cs with
  | case1 => cases h
  | case2 cs => cases h
  | case3 cs hcs =>
    -- Inside quotes everything stands for itself.
    rw [pieces.eq_3 _ hcs] at h
    cases cs with
    | nil => cases h
    | cons c cs =>
      rw [quotedPieces_cons fun hc => hcs cs (by rw [hc])] at h
      cases h
  | case4 c cs _ _ hc =>
    rw [pieces_letter hc] at h
    unfold consLetter at h
    rw [List.head?_cons]
    split at h <;> (try split at h) <;> cases h <;> rfl
  | case5 c cs _ hq hc =>
    rw [pieces_plain (Bool.eq_false_iff.mpr hc) hq] at h
    cases h

theorem consLetter_pieces (h : cs.head? ≠ some letter) :
    consLetter letter (pieces cs) = .field letter 1 :: pieces cs := by
  cases hp : pieces cs with
  | nil => rfl
  | cons p ps =>
    cases p with
    | literal c => rfl
    | field other count => exact if_neg fun ho : other = letter => h (ho ▸ head?_of_pieces_eq hp)

/-- A run of a letter ends where the letter ends. -/
theorem pieces_replicate (hc : letter.isAlpha = true) (h : rest.head? ≠ some letter) (count : Nat) :
    pieces (List.replicate (count + 1) letter ++ rest) = .field letter (count + 1) :: pieces rest := by
  induction count with
  | zero => exact (pieces_letter hc).trans (consLetter_pieces h)
  | succ count ih =>
    rw [List.replicate_succ, List.cons_append, pieces_letter hc, ih]
    exact if_pos rfl

theorem twiceQuotes_cons_quote (text : List Char) :
    twiceQuotes ('\'' :: text) = '\'' :: '\'' :: twiceQuotes text := rfl

theorem twiceQuotes_cons (hc : c ≠ '\'') : twiceQuotes (c :: text) = c :: twiceQuotes text := by
  rw [twiceQuotes, List.flatMap_cons, if_neg hc, List.singleton_append, twiceQuotes]

/-- Inside quotes a text with every quote twice stands for itself. -/
theorem quotedPieces_twiceQuotes (h : rest.head? ≠ some '\'') (text : List Char) :
    quotedPieces (twiceQuotes text ++ '\'' :: rest) = text.map .literal ++ pieces rest := by
  induction text with
  | nil => exact quotedPieces_quote h
  | cons c text ih =>
    by_cases hc : c = '\''
    · subst hc
      rw [twiceQuotes_cons_quote, List.cons_append, List.cons_append, quotedPieces, ih]
      rfl
    · rw [twiceQuotes_cons hc, List.cons_append, quotedPieces_cons hc, ih]
      rfl

/-- The quotes at the start of a quoted text are read before the text is: the opening quote makes a pair with the
first of them, and what stands before the first other character opens the text. -/
theorem pieces_quoted (htext : ∃ c ∈ text, c ≠ '\'') (h : rest.head? ≠ some '\'') :
    pieces ('\'' :: twiceQuotes text ++ '\'' :: rest) = text.map .literal ++ pieces rest := by
  induction text with
  | nil =>
    obtain ⟨c, hc, -⟩ := htext
    cases hc
  | cons c text ih =>
    by_cases hc : c = '\''
    · subst hc
      have htext : ∃ c ∈ text, c ≠ '\'' := by
        obtain ⟨c, hmem, hc⟩ := htext
        exact ⟨c, (List.mem_cons.mp hmem).resolve_left hc, hc⟩
      rw [twiceQuotes_cons_quote, List.cons_append, List.cons_append, List.cons_append, pieces,
        ← List.cons_append, ih htext]
      rfl
    · have hhead : (twiceQuotes (c :: text) ++ '\'' :: rest).head? ≠ some '\'' := by
        rw [twiceQuotes_cons hc, List.cons_append, List.head?_cons]
        exact fun hq => hc (Option.some.inj hq)
      rw [List.cons_append, pieces_quote hhead, quotedPieces_twiceQuotes h]

/-! ## Patterns of tokens -/

variable {tokens : List Token}

/-- A token is cut off if the character after it, if there is one, ends it. -/
theorem pieces_chars_append (t : Token) (h : ∀ c ∈ rest.head?, t.EndsBefore c) :
    pieces (t.chars ++ rest) = t.pieces ++ pieces rest := by
  cases t with
  | run r =>
    obtain ⟨count, hcount⟩ := Nat.exists_eq_add_one.mpr r.count_pos
    rw [Token.chars, Token.pieces, hcount]
    exact pieces_replicate r.isAlpha (fun hr => h _ hr rfl) count
  | quoted text htext =>
    rw [Token.chars, List.append_assoc]
    exact pieces_quoted htext fun hr => h _ hr rfl
  | plain c hc => exact pieces_plain hc.1 hc.2

/-- A pattern of tokens is cut into the pieces of the tokens. -/
theorem pieces_tokens (h : tokens.IsChain Token.MayPrecede) :
    pieces (tokens.flatMap Token.chars) = tokens.flatMap Token.pieces := by
  induction tokens with
  | nil => rfl
  | cons t tokens ih =>
    obtain ⟨hhead, htail⟩ := List.isChain_cons.mp h
    have hnext : ∀ c ∈ (tokens.flatMap Token.chars).head?, t.EndsBefore c := by
      cases tokens with
      | nil => exact fun c hc => nomatch hc
      | cons t' tokens =>
        rw [List.flatMap_cons, Token.head?_chars_append]
        rintro c ⟨⟩
        exact (hhead t' rfl).endsBefore
    rw [List.flatMap_cons, pieces_chars_append t hnext, ih htail, List.flatMap_cons]

end Pattern

/-! ## Dates written by patterns -/

section

variable {names : Names} {d : Date}

/-- The text of pieces in their order. -/
def piecesChars? (names : Names) (d : Date) (ps : List Piece) : Option (List Char) :=
  (ps.mapM (pieceChars? names d)).map List.flatten

theorem format?_eq (d : Date) (pattern language : String) :
    d.format? pattern language =
      (piecesChars? (.ofLanguage language) d (pieces pattern.toList)).map String.ofList := by
  rw [format?, piecesChars?, Option.map_map]
  rfl

theorem piecesChars?_cons (p : Piece) (ps : List Piece) :
    piecesChars? names d (p :: ps) =
      (pieceChars? names d p).bind fun text => (piecesChars? names d ps).map (text ++ ·) := by
  rw [piecesChars?, List.mapM_cons]
  cases pieceChars? names d p with
  | none => rfl
  | some text =>
    rw [piecesChars?]
    cases ps.mapM (pieceChars? names d) <;> rfl

theorem piecesChars?_literal (c : Char) (ps : List Piece) :
    piecesChars? names d (.literal c :: ps) = (piecesChars? names d ps).map (c :: ·) :=
  piecesChars?_cons _ _

theorem piecesChars?_literals_append (text : List Char) (ps : List Piece) :
    piecesChars? names d (text.map .literal ++ ps) = (piecesChars? names d ps).map (text ++ ·) := by
  induction text with
  | nil => exact Option.map_id'.symm
  | cons c text ih =>
    rw [List.map_cons, List.cons_append, piecesChars?_literal, ih, Option.map_map]
    rfl

theorem piecesChars?_pieces_append (t : Token) (ps : List Piece) :
    piecesChars? names d (t.pieces ++ ps) = (piecesChars? names d ps).map (t.shown names d ++ ·) := by
  cases t with
  | run r =>
    rw [Token.pieces, List.singleton_append, piecesChars?_cons, pieceChars?, r.ofRun?_eq]
    rfl
  | quoted text h => exact piecesChars?_literals_append text ps
  | plain c hc => exact piecesChars?_literals_append [c] ps

theorem piecesChars?_tokens (tokens : List Token) :
    piecesChars? names d (tokens.flatMap Token.pieces) = some (tokens.flatMap (Token.shown names d)) := by
  induction tokens with
  | nil => rfl
  | cons t tokens ih =>
    rw [List.flatMap_cons, piecesChars?_pieces_append, ih, Option.map_some, List.flatMap_cons]

/-- A date is written by a pattern of tokens as the fields, the quoted texts and the other characters of the tokens,
in their order. -/
theorem format?_tokens {tokens : List Token} (h : tokens.IsChain Token.MayPrecede) (d : Date) (language : String) :
    d.format? (String.ofList (tokens.flatMap Token.chars)) language =
      some (String.ofList (tokens.flatMap (Token.shown (.ofLanguage language) d))) := by
  rw [format?_eq, String.toList_ofList, pieces_tokens h, piecesChars?_tokens, Option.map_some]

end

/-- A quoted text between two runs that begins and ends with a quote, runs of two letters without a character between
them, and a quote inside a quoted text. -/
theorem format?_tokens_with_quotes :
    ∃ (tokens : List Token) (d : Date), tokens.IsChain Token.MayPrecede ∧
      read "2023-05-15T13:00" = .ok (some d) ∧
      String.ofList (tokens.flatMap Token.chars) = "yyyy'''n'''MMMMMd/EEE'o''clock'a" ∧
      d.format? "yyyy'''n'''MMMMMd/EEE'o''clock'a" "en" = some "2023'n'M15/Mono'clockPM" := by
  let tokens : List Token := [
    .run ⟨'y', 4, by decide, by decide⟩,
    .quoted ['\'', 'n', '\''] ⟨'n', by decide, by decide⟩,
    .run ⟨'M', 5, by decide, by decide⟩,
    .run ⟨'d', 1, by decide, by decide⟩,
    .plain '/' (by decide),
    .run ⟨'E', 3, by decide, by decide⟩,
    .quoted ['o', '\'', 'c', 'l', 'o', 'c', 'k'] ⟨'o', by decide, by decide⟩,
    .run ⟨'a', 1, by decide, by decide⟩]
  let d : Date := {
    day := ⟨2023, 5, 15, by decide, by decide, by decide, by decide, by decide⟩
    clock := ⟨13, 0, 0, 0, by decide, by decide, by decide, by decide⟩
    zone := .unspecified
    raw := "2023-05-15T13:00" }
  have htokens : tokens.IsChain Token.MayPrecede := by decide
  have hchars : String.ofList (tokens.flatMap Token.chars) = "yyyy'''n'''MMMMMd/EEE'o''clock'a" := by
    decide +kernel
  refine ⟨tokens, d, htokens, by decide +kernel, hchars, ?_⟩
  have hshown : String.ofList (tokens.flatMap (Token.shown (.ofLanguage "en") d)) = "2023'n'M15/Mono'clockPM" := by
    decide +kernel
  rw [← hchars, format?_tokens htokens d "en", hshown]

end FormLang.Date
