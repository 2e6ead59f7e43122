import FormLang.Proofs.Binary64.Display
import FormLang.Proofs.Date.Reading
import FormLang.Proofs.Value.Fits

/-!
# What casts give

A cast gives null or a value of its type (`fits_castTo`). If numbers are finite and dates were read from
texts (`Value.IsRegular`), then

* no text that a cast gives is a reserved word in another case, or the word `null` (`isNormal_castTo`);
* what a cast gives is regular again (`isRegular_castTo`), unless a text is cast to a number: the numerals
  of numbers that are too large denote infinity.
-/

namespace FormLang.Value

/-- A number is finite, and a date was read from a text. -/
def IsRegular : Value → Prop
  | .number x => x.isFinite = true
  | .date d => ∃ raw, Date.read raw = .ok (some d)
  | _ => True

/-- A text in lower case. -/
def lowerText (s : String) : String := String.ofList (Text.lower s.toList)

/-- A text is not the word `null` in any case, and not the words `true` and `false` unless in lower case. -/
def IsNormal : Value → Prop
  | .string s => lowerText s ≠ "null" ∧ ∀ word ∈ ["true", "false"], lowerText s = word → s = word
  | _ => True

variable {v w : Value} {target : ValueType} {role : CastRole}

/-! ## Texts -/

/-- A text that starts with a character before the letters is no reserved word. -/
theorem isNormal_of_lt {s : String} {c : Char} {cs : List Char} (hs : s.toList = c :: cs)
    (hc : c.toNat < 0x41) : (string s).IsNormal := by
  have hhead : (lowerText s).toList.head? = some c := by
    rw [lowerText, String.toList_ofList, hs, Text.head?_lower hc]
  have hne {word : String} {d : Char} (hw : word.toList.head? = some d) (hd : 0x41 ≤ d.toNat) :
      lowerText s ≠ word := by
    rintro rfl
    obtain rfl := Option.some.inj (hhead.symm.trans hw)
    omega
  refine ⟨hne (d := 'n') rfl (by decide), fun word hword h => absurd h ?_⟩
  simp only [List.mem_cons, List.not_mem_nil, or_false] at hword
  rcases hword with rfl | rfl
  · exact hne (d := 't') rfl (by decide)
  · exact hne (d := 'f') rfl (by decide)

theorem ne_null_of_isNormal {s : String} (h : (string s).IsNormal) : s ≠ "null" := by
  rintro rfl
  exact h.1 (by decide +kernel)

/-- A numeral is no reserved word. -/
theorem isNormal_chars {n : Numeral} (hn : n.IsWellFormed) : (string (String.ofList n.chars)).IsNormal := by
  obtain ⟨c, cs, hc, hfirst⟩ := Numeral.exists_chars hn
  have hlt : c.toNat < 0x41 := by
    rcases hfirst with rfl | hdigit
    · decide
    · exact Text.toNat_lt_of_isDigit hdigit
  exact isNormal_of_lt (String.toList_ofList.trans hc) hlt

/-- The text of a finite number is no reserved word. -/
theorem isNormal_display (x : Binary64.Finite) : (string (String.ofList x.display)).IsNormal := by
  rw [x.display_eq_chars]
  exact isNormal_chars x.isWellFormed_numeral

theorem ofWord_eq (s : String) : ofWord s = if lowerText s = "null" then null else
    if lowerText s = "true" ∨ lowerText s = "false" then string (lowerText s) else string s := rfl

/-- The words for the booleans are normal in lower case. -/
theorem isNormal_word {word : String} (h : word = "true" ∨ word = "false") : (string word).IsNormal := by
  rcases h with rfl | rfl
  · exact ⟨by decide +kernel, by decide +kernel⟩
  · exact ⟨by decide +kernel, by decide +kernel⟩

theorem isNormal_ofWord (s : String) : (ofWord s).IsNormal := by
  rw [ofWord_eq]
  split
  case isTrue => trivial
  case isFalse hnull =>
    split
    case isTrue hword => exact isNormal_word hword
    case isFalse hword =>
      refine ⟨hnull, fun word hmem h => absurd (h ▸ ?_) hword⟩
      simpa [h] using hmem

/-- The text of a regular value is no reserved word in another case. -/
theorem isNormal_of_toText? (hv : v.IsRegular) (h : v.toText? = some w) : w.IsNormal := by
  cases v with
  | number x =>
    cases x with
    | finite x =>
      cases h
      exact isNormal_display x
    | infinite negative => cases hv
    | nan => cases hv
  | boolean b =>
    cases h
    cases b
    · exact isNormal_word (.inr rfl)
    · exact isNormal_word (.inl rfl)
  | string s =>
    cases h
    exact isNormal_ofWord s
  | date d =>
    cases h
    obtain ⟨raw, hr⟩ := hv
    obtain ⟨s, hs, -⟩ := Date.exists_read_eq_date_iff.mp ⟨d, hr⟩
    obtain ⟨c, cs, hc, hd⟩ := s.exists_digit
    rw [Date.raw_of_read hr]
    exact isNormal_of_lt (hs.symm.trans hc) (Text.toNat_lt_of_isDigit hd)
  | _ => cases h

/-- The text of a number is not blank. -/
theorem allBlank_display (x : Binary64) : Text.allBlank x.display = false := by
  cases x with
  | finite x =>
    obtain ⟨c, cs, hd, hc⟩ := x.exists_display
    have hblank : Text.isBlank c = false := by
      rcases hc with rfl | hc
      · decide
      · exact Text.isBlank_of_isDigit hc
    rw [Binary64.display, hd, Text.allBlank, List.all_cons, hblank, Bool.false_and]
  | infinite negative => cases negative <;> decide
  | nan => decide

/-! ## Casts -/

theorem elim_eq_ok {o : Option Value} {e : CastError}
    (h : o.elim (Except.error e) Except.ok = Except.ok w) : o = some w := by
  cases o with
  | none => cases h
  | some v =>
    cases h
    rfl

/-- What is cast is null, or it is converted. -/
theorem eq_null_or_of_castTo (h : v.castTo target role = .ok w) : w = .null ∨ v.convert target = .ok w := by
  unfold castTo at h
  split at h
  · cases h
    exact .inl rfl
  · split at h
    · exact .inr h
    · cases h

theorem dateOfText_cases {s : String} (h : dateOfText s = .ok w) :
    w = .null ∨ ∃ d, Date.read s = .ok (some d) ∧ w = .date d := by
  unfold dateOfText at h
  split at h <;> cases h
  · rename_i d hd
    exact .inr ⟨d, hd, rfl⟩
  · exact .inl rfl

/-- What is converted to a date is null, a date that was given, or a date that was read. -/
theorem toDate_cases (h : v.toDate = .ok w) :
    w = .null ∨ (∃ d, v = .date d ∧ w = .date d) ∨ ∃ s d, Date.read s = .ok (some d) ∧ w = .date d := by
  cases v with
  | date d =>
    cases h
    exact .inr (.inl ⟨d, rfl, rfl⟩)
  | number x => exact (dateOfText_cases h).imp_right fun ⟨d, hd⟩ => .inr ⟨_, d, hd⟩
  | string s => exact (dateOfText_cases h).imp_right fun ⟨d, hd⟩ => .inr ⟨_, d, hd⟩
  | _ => cases h

theorem fits_of_toText? (h : v.toText? = some w) : w.fits .string = true := by
  cases v with
  | string s =>
    cases h
    exact fits_ofWord s
  | number | boolean | date =>
    cases h
    rfl
  | _ => cases h

/-- A cast gives null or a value of its type. -/
theorem fits_castTo (h : v.castTo target role = .ok w) : w.fits target = true := by
  rcases eq_null_or_of_castTo h with rfl | h
  · exact fits_null target
  · cases target with
    | any => exact fits_any w
    | boolean =>
      obtain ⟨b, -, rfl⟩ := Option.map_eq_some_iff.mp (elim_eq_ok h)
      rfl
    | number =>
      obtain ⟨x, -, rfl⟩ := Option.map_eq_some_iff.mp (elim_eq_ok h)
      rfl
    | string => exact fits_of_toText? (elim_eq_ok h)
    | date =>
      rcases toDate_cases h with rfl | ⟨d, -, rfl⟩ | ⟨s, d, -, rfl⟩
      · rfl
      · rfl
      · rfl

/-- No text that a regular value is cast to is a reserved word in another case. -/
theorem isNormal_castTo (hv : v.IsRegular) (h : v.castTo .string role = .ok w) : w.IsNormal := by
  rcases eq_null_or_of_castTo h with rfl | h
  · trivial
  · exact isNormal_of_toText? hv (elim_eq_ok h)

/-- A null, a boolean and a text are regular. -/
theorem isRegular_of_fits (ht : target = .boolean ∨ target = .string) (h : v.fits target = true) :
    v.IsRegular := by
  cases v with
  | number | date => rcases ht with rfl | rfl <;> cases h
  | _ => trivial

/-- A cast of a regular value is regular, unless it reads a number. -/
theorem isRegular_castTo (hv : v.IsRegular) (ht : target = .number → v.fits .number = true)
    (h : v.castTo target role = .ok w) : w.IsRegular := by
  have hf := fits_castTo h
  cases target with
  | boolean => exact isRegular_of_fits (.inl rfl) hf
  | string => exact isRegular_of_fits (.inr rfl) hf
  | any =>
    rcases eq_null_or_of_castTo h with rfl | h
    · trivial
    · cases h
      exact hv
  | date =>
    rcases eq_null_or_of_castTo h with rfl | h
    · trivial
    · rcases toDate_cases h with rfl | ⟨d, rfl, rfl⟩ | ⟨s, d, hd, rfl⟩
      · trivial
      · exact hv
      · exact ⟨s, hd⟩
  | number =>
    rcases eq_null_or_of_castTo h with rfl | h
    · trivial
    · have hfits := ht rfl
      cases v with
      | number x =>
        cases h
        exact hv
      | null => cases h
      | _ => cases hfits

/-! ## Values of a type by their own form -/

theorem fits_type (v : Value) : v.fits v.type = true := by
  cases v <;> rfl

theorem ofWord_of_isNormal {s : String} (h : (string s).IsNormal) : ofWord s = string s := by
  obtain ⟨hnull, hword⟩ := h
  rw [ofWord_eq, if_neg hnull]
  split
  case isTrue hlower => rw [← hword (lowerText s) (by simpa using hlower) rfl]
  case isFalse => rfl

/-- A cast to the type that a value has by its own form changes nothing but words in another case. -/
theorem castTo_type (ht : v.type ≠ .any) (hv : v.IsNormal) : v.castTo v.type role = .ok v := by
  cases v with
  | boolean | number => rfl
  | string s =>
    have hs := isNullLike_string_eq_false_iff.mpr (ne_null_of_isNormal hv)
    rw [castTo_eq_convert hs (by simp [type, sourcesOf]), type, convert, toText?, ofWord_of_isNormal hv]
    rfl
  | null | date | array | object => exact absurd rfl ht

/-- A text is cast to itself if and only if it is no reserved word in another case, nor the word `null`. -/
theorem castTo_string_eq_ok_iff {s : String} :
    (string s).castTo .string role = .ok (string s) ↔ (string s).IsNormal :=
  ⟨isNormal_castTo trivial, castTo_type (v := string s) nofun⟩

end FormLang.Value
