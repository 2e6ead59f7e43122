import FormLang.Proofs.Date.Pattern
import Mathlib.Data.List.Basic

/-!
# Patterns that cannot be used

A date cannot be written by a pattern if a run of a letter outside quotes stands for no field, and only then
(`format?_eq_none_iff`), so that it does not depend on the date or the language (`format?_fails_alike`).

The runs are described on the pattern alone, without cutting it into pieces: a run is as long as possible
(`Pattern.IsRun`), and it is outside quotes if the number of quotes before it is even (`Pattern.HasRun`). The fields
of a pattern are these runs (`Pattern.field_mem_pieces_iff`), by induction on its length: outside quotes a whole run is
cut off at a time (`Pattern.hasRun_append`), and anything else one character at a time (`Pattern.hasRun_cons`).
-/

namespace FormLang.Date

open Pattern

namespace Pattern

/-! ## Runs -/

/-- A run of a letter, between what stands before and after it, is as long as possible. -/
structure IsRun (letter : Char) (count : Nat) (before after : List Char) : Prop where
  isAlpha : letter.isAlpha = true
  count_pos : 0 < count
  getLast?_ne : before.getLast? ≠ some letter
  head?_ne : after.head? ≠ some letter

/-- A run of a letter stands outside quotes in a text before which so many quotes stand. Quotes begin and end quoted
texts in turn, and two of them that stand for a quote change nothing, so that their number is even. -/
def HasRun (quotes : Nat) (letter : Char) (count : Nat) (cs : List Char) : Prop :=
  ∃ before after, cs = before ++ (List.replicate count letter ++ after) ∧ IsRun letter count before after ∧
    (quotes + before.count '\'') % 2 = 0

variable {quotes : Nat} {c letter : Char} {count : Nat} {cs ds : List Char}

theorem hasRun_nil : ¬HasRun quotes letter count [] := by
  rintro ⟨before, after, h, hrun, -⟩
  have hpos := hrun.count_pos
  have hlen := congrArg List.length h
  simp only [List.length_nil, List.length_append, List.length_replicate] at hlen
  omega

theorem hasRun_add_two : HasRun (quotes + 2) letter count cs ↔ HasRun quotes letter count cs := by
  refine exists_congr fun before => exists_congr fun after => and_congr_right fun _ => and_congr_right fun _ => ?_
  omega

theorem count_quote_of_isAlpha (hc : c.isAlpha = true) : [c].count '\'' = 0 := by
  rw [List.count_eq_zero, List.mem_singleton]
  exact (ne_quote_of_isAlpha hc).symm

theorem getLast?_cons_ne_iff {before : List Char} (h : c ≠ letter ∨ before ≠ []) :
    (c :: before).getLast? ≠ some letter ↔ before.getLast? ≠ some letter := by
  rcases before with _ | ⟨b, before⟩
  · simpa using h
  · rw [List.getLast?_cons_cons]

/-- A character that is no letter or stands inside quotes is no part of a run. -/
theorem hasRun_cons (hc : c.isAlpha = false ∨ (quotes + [c].count '\'') % 2 = 1) :
    HasRun quotes letter count (c :: cs) ↔ HasRun (quotes + [c].count '\'') letter count cs := by
  have hcount (before : List Char) : (c :: before).count '\'' = [c].count '\'' + before.count '\'' := by
    rw [← List.count_append, List.singleton_append]
  have hne {before : List Char} (hletter : letter.isAlpha = true)
      (heven : (quotes + (c :: before).count '\'') % 2 = 0) : c ≠ letter ∨ before ≠ [] := by
    refine hc.imp (fun hc => ?_) fun hodd => ?_
    · rintro rfl
      exact absurd hletter (by simp [hc])
    · rintro rfl
      omega
  constructor
  · rintro ⟨before, after, h, ⟨hletter, hpos, hlast, hhead⟩, heven⟩
    rcases before with _ | ⟨b, before⟩
    · obtain ⟨n, rfl⟩ := Nat.exists_eq_add_one.mpr hpos
      obtain ⟨rfl, -⟩ := List.cons.inj h
      have hodd := hc.resolve_left (by rw [hletter]; decide)
      rw [count_quote_of_isAlpha hletter] at hodd
      rw [List.count_nil] at heven
      omega
    · obtain ⟨rfl, rfl⟩ := List.cons.inj h
      refine ⟨before, after, rfl, ⟨hletter, hpos, (getLast?_cons_ne_iff (hne hletter heven)).mp hlast, hhead⟩, ?_⟩
      rw [hcount] at heven
      omega
  · rintro ⟨before, after, rfl, ⟨hletter, hpos, hlast, hhead⟩, heven⟩
    have heven : (quotes + (c :: before).count '\'') % 2 = 0 := by
      rw [hcount]
      omega
    exact ⟨c :: before, after, rfl,
      ⟨hletter, hpos, (getLast?_cons_ne_iff (hne hletter heven)).mpr hlast, hhead⟩, heven⟩

section

variable (h : ∀ c, c.isAlpha = true → cs.getLast? = some c → ds.head? ≠ some c)
include h

theorem HasRun.append (hrun : HasRun quotes letter count cs) : HasRun quotes letter count (cs ++ ds) := by
  obtain ⟨before, after, rfl, ⟨hletter, hpos, hlast, hhead⟩, hquotes⟩ := hrun
  refine ⟨before, after ++ ds, by simp, ⟨hletter, hpos, hlast, ?_⟩, hquotes⟩
  rcases after with _ | ⟨a, after⟩
  · exact h letter hletter (by simp [List.getLast?_append, List.getLast?_replicate, hpos.ne'])
  · exact hhead

theorem HasRun.append_left (hrun : HasRun (quotes + cs.count '\'') letter count ds) :
    HasRun quotes letter count (cs ++ ds) := by
  obtain ⟨before, after, rfl, ⟨hletter, hpos, hlast, hhead⟩, hquotes⟩ := hrun
  refine ⟨cs ++ before, after, by simp, ⟨hletter, hpos, ?_, hhead⟩, ?_⟩
  · rcases before with _ | ⟨b, before⟩
    · rw [List.append_nil]
      exact fun hlast' => h letter hletter hlast' (by simp [List.head?_append, List.head?_replicate, hpos.ne'])
    · rw [List.getLast?_append, List.getLast?_cons, Option.some_or, ← List.getLast?_cons]
      exact hlast
  · rw [List.count_append]
    omega

/-- The runs of two texts one after the other are those of both, unless one goes on from the first into the second. -/
theorem hasRun_append :
    HasRun quotes letter count (cs ++ ds) ↔
      HasRun quotes letter count cs ∨ HasRun (quotes + cs.count '\'') letter count ds := by
  refine ⟨?_, fun hrun => hrun.elim (HasRun.append h) (HasRun.append_left h)⟩
  rintro ⟨before, after, hcut, ⟨hletter, hpos, hlast, hhead⟩, hquotes⟩
  rcases List.append_eq_append_iff.mp hcut with ⟨before', rfl, rfl⟩ | ⟨cs', rfl, hrun⟩
  · refine .inr ⟨before', after, rfl, ⟨hletter, hpos, fun hlast' => hlast ?_, hhead⟩, ?_⟩
    · rw [List.getLast?_append, hlast', Option.some_or]
    · rw [List.count_append] at hquotes
      omega
  rcases List.append_eq_append_iff.mp hrun with ⟨after', rfl, rfl⟩ | ⟨ds', hreplicate, rfl⟩
  · refine .inl ⟨before, after', rfl, ⟨hletter, hpos, hlast, fun hhead' => hhead ?_⟩, hquotes⟩
    rw [List.head?_append, hhead', Option.some_or]
  -- The run would go on from `cs'`, at the end of the first text, into `ds'`, at the start of the second.
  have hmem : ∀ c ∈ cs' ++ ds', c = letter := fun c hc => List.eq_of_mem_replicate (hreplicate ▸ hc)
  rcases cs'.eq_nil_or_concat with rfl | ⟨cs', c, rfl⟩
  · refine .inr ⟨[], after, by rw [hreplicate]; rfl, ⟨hletter, hpos, by simp, hhead⟩, ?_⟩
    rw [List.append_nil]
    exact hquotes
  rcases ds' with _ | ⟨d, ds'⟩
  · rw [List.append_nil] at hreplicate
    rw [← hreplicate]
    exact .inl ⟨before, [], by rw [List.append_nil], ⟨hletter, hpos, hlast, by simp⟩, hquotes⟩
  · obtain rfl := hmem c (by simp)
    obtain rfl := hmem d (by simp)
    exact absurd rfl (h d hletter (by simp))

end

/-- A run that is the whole text is its only run. -/
theorem hasRun_replicate (hc : c.isAlpha = true) (heven : quotes % 2 = 0) (n : Nat) :
    HasRun quotes letter count (List.replicate (n + 1) c) ↔ letter = c ∧ count = n + 1 := by
  constructor
  · rintro ⟨before, after, hcut, ⟨hletter, hpos, hlast, hhead⟩, -⟩
    have hmem : ∀ d ∈ before ++ (List.replicate count letter ++ after), d = c :=
      fun d hd => List.eq_of_mem_replicate (hcut ▸ hd)
    obtain rfl := hmem letter (by simp [hpos.ne'])
    obtain rfl : before = [] := by
      rcases before.eq_nil_or_concat with rfl | ⟨before, b, rfl⟩
      · rfl
      · exact absurd (by simp [hmem b (by simp)]) hlast
    obtain rfl : after = [] := by
      rcases after with _ | ⟨a, after⟩
      · rfl
      · exact absurd (by simp [hmem a (by simp)]) hhead
    have hlen := congrArg List.length hcut
    simp only [List.length_append, List.length_replicate, List.length_nil] at hlen
    exact ⟨rfl, by omega⟩
  · rintro ⟨rfl, rfl⟩
    exact ⟨[], [], by simp, ⟨hc, Nat.succ_pos n, by simp, by simp⟩, by simpa using heven⟩

/-! ## Fields -/

/-- A text that is not empty begins with a run of its first character. -/
theorem exists_run (c : Char) (cs : List Char) :
    ∃ n rest, c :: cs = List.replicate (n + 1) c ++ rest ∧ rest.head? ≠ some c := by
  induction cs with
  | nil => exact ⟨0, [], rfl, by simp⟩
  | cons d cs ih =>
    by_cases hd : d = c
    · obtain ⟨n, rest, hrun, hrest⟩ := ih
      exact ⟨n + 1, rest, by rw [hd, hrun]; rfl, hrest⟩
    · exact ⟨0, d :: cs, rfl, by simpa using hd⟩

mutual

/-- The fields of a pattern are its runs outside quotes. -/
theorem field_mem_pieces_iff (cs : List Char) :
    .field letter count ∈ pieces cs ↔ HasRun 0 letter count cs := by
  rcases cs with _ | ⟨c, cs⟩
  · exact iff_of_false List.not_mem_nil hasRun_nil
  by_cases hq : c = '\''
  · subst hq
    rw [hasRun_cons (.inl (by decide))]
    by_cases hcs : cs.head? = some '\''
    · obtain ⟨cs, rfl⟩ := List.head?_eq_some_iff.mp hcs
      rw [hasRun_cons (.inl (by decide)), pieces, List.mem_cons, field_mem_pieces_iff cs]
      simp [hasRun_add_two]
    · rw [pieces_quote hcs, field_mem_quotedPieces_iff cs]
      rfl
  by_cases hc : c.isAlpha = true
  · obtain ⟨n, rest, hrun, hrest⟩ := exists_run c cs
    have hlen : cs.length + 1 = n + 1 + rest.length := by simpa using congrArg List.length hrun
    have happend : ∀ d, d.isAlpha = true → (List.replicate (n + 1) c).getLast? = some d → rest.head? ≠ some d := by
      rintro d - hd
      rwa [← hd, List.getLast?_replicate, if_neg n.succ_ne_zero]
    have hcount : (List.replicate (n + 1) c).count '\'' = 0 := by simp [List.count_replicate, hq]
    rw [hrun, pieces_replicate hc hrest, hasRun_append happend, hasRun_replicate hc rfl, hcount, List.mem_cons,
      field_mem_pieces_iff rest, Piece.field.injEq]
  · rw [Bool.not_eq_true] at hc
    rw [pieces_plain hc hq, hasRun_cons (.inl hc), List.mem_cons, field_mem_pieces_iff cs]
    simp [hq]
termination_by cs.length

/-- The fields of a pattern that begins inside quotes are its runs outside quotes. -/
theorem field_mem_quotedPieces_iff (cs : List Char) :
    .field letter count ∈ quotedPieces cs ↔ HasRun 1 letter count cs := by
  rcases cs with _ | ⟨c, cs⟩
  · exact iff_of_false List.not_mem_nil hasRun_nil
  by_cases hq : c = '\''
  · subst hq
    rw [hasRun_cons (.inl (by decide))]
    by_cases hcs : cs.head? = some '\''
    · obtain ⟨cs, rfl⟩ := List.head?_eq_some_iff.mp hcs
      rw [hasRun_cons (.inl (by decide)), quotedPieces, List.mem_cons, field_mem_quotedPieces_iff cs]
      simp [hasRun_add_two]
    · rw [quotedPieces_quote hcs, field_mem_pieces_iff cs]
      simp [hasRun_add_two]
  · rw [quotedPieces_cons hq, hasRun_cons (.inr (by simp [hq])), List.mem_cons, field_mem_quotedPieces_iff cs]
    simp [hq]
termination_by cs.length

end

/-! ## Quoted texts that do not end -/

/-- Nothing stands outside quotes in a quoted text that does not end. -/
theorem not_hasRun_twiceQuotes (hodd : quotes % 2 = 1) (text : List Char) :
    ¬HasRun quotes letter count (twiceQuotes text) := by
  induction text with
  | nil => exact hasRun_nil
  | cons c text ih =>
    by_cases hc : c = '\''
    · subst hc
      rw [twiceQuotes_cons_quote, hasRun_cons (.inl (by decide)), hasRun_cons (.inl (by decide))]
      simpa [hasRun_add_two] using ih
    · rw [twiceQuotes_cons hc, hasRun_cons (.inr (by simpa [hc] using hodd))]
      simpa [hc] using ih

end Pattern

/-! ## Patterns -/

variable {names : Names} {d : Date}

theorem piecesChars?_eq_none_iff (ps : List Piece) :
    piecesChars? names d ps = none ↔
      ∃ letter count, .field letter count ∈ ps ∧ Field.ofRun? letter count = none := by
  induction ps with
  | nil => simp [piecesChars?]
  | cons p ps ih =>
    have hcons : piecesChars? names d (p :: ps) = none ↔
        pieceChars? names d p = none ∨ piecesChars? names d ps = none := by
      rw [piecesChars?_cons]
      rcases pieceChars? names d p with _ | text <;> simp
    have hpiece : pieceChars? names d p = none ↔
        ∃ letter count, p = .field letter count ∧ Field.ofRun? letter count = none := by
      rcases p with c | ⟨letter, count⟩ <;> simp [pieceChars?]
    rw [hcons, hpiece, ih]
    simp only [List.mem_cons, eq_comm (a := p), or_and_right, exists_or]

/-- A date cannot be written by a pattern in which a run outside quotes is too long, and by every other one it can. -/
theorem format?_eq_none_iff (d : Date) (pattern language : String) :
    d.format? pattern language = none ↔
      ∃ letter count, HasRun 0 letter count pattern.toList ∧ longestRun letter < count := by
  rw [format?_eq, Option.map_eq_none_iff, piecesChars?_eq_none_iff]
  refine exists_congr fun letter => exists_congr fun count => ?_
  rw [field_mem_pieces_iff]
  refine and_congr_right fun ⟨_, _, _, hrun, _⟩ => ?_
  rw [← Option.not_isSome_iff_eq_none, Field.isSome_ofRun?_iff hrun.count_pos, Nat.not_le]

/-- Whether a date can be written by a pattern depends neither on the date nor on the language. It cannot if a run of
a letter outside quotes is longer than any that stands for a field, and only then. A quoted text that does not end
changes nothing. -/
theorem format?_fails_alike (pattern : String) (d d' : Date) (language language' : String) :
    (d.format? pattern language = none ↔ d'.format? pattern language' = none) ∧
    (d.format? pattern language = none ↔
      ∃ letter count, HasRun 0 letter count pattern.toList ∧ longestRun letter < count) ∧
    ∀ text, pattern.toList.count '\'' % 2 = 0 →
      (d.format? (pattern ++ "'" ++ String.ofList (twiceQuotes text)) language = none ↔
        d.format? pattern language = none) := by
  refine ⟨?_, format?_eq_none_iff d pattern language, fun text heven => ?_⟩
  · rw [format?_eq_none_iff, format?_eq_none_iff]
  · have hodd : (0 + pattern.toList.count '\'' + 1) % 2 = 1 := by omega
    have htext : (pattern ++ "'" ++ String.ofList (twiceQuotes text)).toList =
        pattern.toList ++ '\'' :: twiceQuotes text := by simp
    have happend : ∀ c, c.isAlpha = true → pattern.toList.getLast? = some c →
        ('\'' :: twiceQuotes text).head? ≠ some c := by
      rintro c hc -
      simpa using (ne_quote_of_isAlpha hc).symm
    simp only [format?_eq_none_iff, htext, hasRun_append happend, hasRun_cons (.inl (by decide : '\''.isAlpha = false)),
      List.count_singleton_self, not_hasRun_twiceQuotes hodd, or_false]

/-- A letter in quotes may be any letter, and so may those in a quoted text that does not end. -/
theorem format?_fails_alike_in_quotes :
    ∃ d d', read "2023-05-15" = .ok (some d) ∧ read "0000-02-29T23:59:59.999Z" = .ok (some d') ∧
      "yyyy'Q'".toList.count '\'' % 2 = 0 ∧ d.format? "yyyy'Q'" "en" = some "2023Q" ∧
      d'.format? "yyyy'Q'" "nb" ≠ none ∧ d.format? "yyyy'Q''o''QQ" "en" ≠ none := by
  let d : Date := {
    day := ⟨2023, 5, 15, by decide, by decide, by decide, by decide, by decide⟩
    clock := ⟨0, 0, 0, 0, by decide, by decide, by decide, by decide⟩
    zone := .unspecified
    raw := "2023-05-15" }
  let d' : Date := {
    day := ⟨0, 2, 29, by decide, by decide, by decide, by decide, by decide⟩
    clock := ⟨23, 59, 59, 999, by decide, by decide, by decide, by decide⟩
    zone := .utc
    raw := "0000-02-29T23:59:59.999Z" }
  have hquotes : "yyyy'Q'".toList.count '\'' % 2 = 0 := by decide
  have htext : d.format? "yyyy'Q'" "en" = some "2023Q" := by decide
  have hne : d.format? "yyyy'Q'" "en" ≠ none := by simp [htext]
  obtain ⟨hdates, -, hquoted⟩ := format?_fails_alike "yyyy'Q'" d d' "en" "nb"
  refine ⟨d, d', rfl, rfl, hquotes, htext, mt hdates.mpr hne, ?_⟩
  have hpattern : "yyyy'Q'" ++ "'" ++ String.ofList (twiceQuotes "o'QQ".toList) = "yyyy'Q''o''QQ" := rfl
  rw [← hpattern]
  exact mt (hquoted _ hquotes).mp hne

end FormLang.Date
