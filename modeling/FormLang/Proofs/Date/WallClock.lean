import FormLang.Proofs.Date.Pattern
import FormLang.Proofs.Date.Standard

/-!
# The standard form without its zone

One pattern, `wallPattern`, writes a date as its standard form begins, in every language (`format?_wallPattern`). What
it writes is the standard form of the same day and time in an unknown zone, and so it is read as that
(`read_wallChars`).
-/

namespace FormLang.Date

open Pattern

/-- The pattern of the day and time in the standard form. -/
def wallPattern : String := "yyyy-MM-dd'T'HH:mm:ss.SSS"

variable (d : Date)

theorem pieces_wallPattern :
    pieces wallPattern.toList =
      [.field 'y' 4, .literal '-', .field 'M' 2, .literal '-', .field 'd' 2, .literal 'T', .field 'H' 2, .literal ':',
        .field 'm' 2, .literal ':', .field 's' 2, .literal '.', .field 'S' 3] := by
  rfl

/-- A date is written by the pattern with the digits of its standard form, which hold no name of any language. -/
theorem format?_wallPattern (language : String) :
    d.format? wallPattern language = some (String.ofList d.wallChars) := by
  have hmillisecond : (pad 3 d.clock.millisecond).take 3 = pad 3 d.clock.millisecond := by
    rw [List.take_of_length_le]
    rw [length_pad (by decide) (by have := d.clock.millisecond_le; omega)]
  rw [format?_eq, pieces_wallPattern]
  simp [piecesChars?, pieceChars?, Field.ofRun?, Field.chars, hmillisecond, wallChars]

/-- The day and time of a standard form are read without a zone. -/
theorem read_wallChars :
    ∃ d', read (String.ofList d.wallChars) = .ok (some d') ∧ d'.zone = .unspecified ∧ d'.day = d.day ∧
      d'.clock = d.clock := by
  obtain ⟨d', hread, hday, hclock, hzone⟩ := read_isoText (d := { d with zone := .unspecified }) trivial
  have htext : isoText { d with zone := .unspecified } = String.ofList d.wallChars :=
    congrArg String.ofList (List.append_nil _)
  rw [htext] at hread
  refine ⟨d', hread, ?_, hday, hclock⟩
  generalize d'.zone = zone at hzone
  cases hzone
  rfl

/-- A date is written by the pattern as its standard form without the zone, in every language, and this is read as a
date at the same day and time in an unknown zone. -/
theorem format?_eq_isoText_without_zone (language : String) :
    ∃ text, d.format? "yyyy-MM-dd'T'HH:mm:ss.SSS" language = some text ∧
      d.isoText = text ++ String.ofList d.zone.chars ∧
      ∃ d', read text = .ok (some d') ∧ d'.zone = .unspecified ∧ d'.day = d.day ∧ d'.clock = d.clock :=
  ⟨_, d.format?_wallPattern language, String.ofList_append, d.read_wallChars⟩

end FormLang.Date
