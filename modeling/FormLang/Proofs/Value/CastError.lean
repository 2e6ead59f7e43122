import FormLang.Proofs.Value.Fits

/-!
# Why casts fail

Every type takes values of every kind, apart from booleans where a date is wanted
(`type_not_mem_sourcesOf_iff`). So a cast to a declared type fails in one of three ways
(`castTo_error_cases`): for such a boolean, for a text or a number that is no date, and for a value that
does not stand for one of the type. The first two are told from the value: `castTo_unsupported_iff` says when a
cast fails in the first way, `castTo_date_error_iff` when in the second one.
-/

namespace FormLang.Value

variable {v : Value} {target : ValueType} {role : CastRole} {e : CastError}

theorem type_not_mem_sourcesOf_iff :
    v.type ∉ sourcesOf target ↔ target = .date ∧ ∃ b, v = .boolean b := by
  cases target <;> cases v <;> simp [sourcesOf, type]

theorem elim_eq_error {o : Option Value} {e e' : CastError}
    (h : o.elim (Except.error e') Except.ok = Except.error e) : e = e' := by
  cases o with
  | none =>
    cases h
    rfl
  | some v => cases h

theorem dateOfText_error {s : String} (h : dateOfText s = .error e) : ∃ r, e = .date r := by
  unfold dateOfText at h
  split at h <;> cases h
  exact ⟨_, rfl⟩

/-- A value that is converted in vain is unexpected, or its text is no date. -/
theorem convert_error_cases (h : v.convert target = .error e) :
    e = .unexpected v target ∨ target = .date ∧ ∃ r, e = .date r := by
  cases target with
  | any => cases h
  | boolean | string | number => exact .inl (elim_eq_error h)
  | date =>
    cases v with
    | date d => cases h
    | number x => exact .inr ⟨rfl, dateOfText_error h⟩
    | string s => exact .inr ⟨rfl, dateOfText_error h⟩
    | null | boolean | array | object =>
      cases h
      exact .inl rfl

/-- The ways in which a cast to a declared type fails. -/
theorem castTo_error_cases (h : v.castTo target role = .error e) :
    (target = .date ∧ (∃ b, v = .boolean b) ∧ e = .unsupported role v target) ∨
      e = .unexpected v target ∨ target = .date ∧ ∃ r, e = .date r := by
  unfold castTo at h
  split at h
  · cases h
  · split at h
    · exact .inr (convert_error_cases h)
    · rename_i hm
      cases h
      obtain ⟨ht, hb⟩ := type_not_mem_sourcesOf_iff.mp hm
      exact .inl ⟨ht, hb, rfl⟩

/-! ## Values of a kind that is not taken -/

theorem castTo_unsupported_iff :
    v.castTo target role = .error (.unsupported role v target) ↔ target = .date ∧ ∃ b, v = .boolean b := by
  constructor
  · intro h
    rcases castTo_error_cases h with ⟨ht, hb, -⟩ | h | ⟨-, r, h⟩
    · exact ⟨ht, hb⟩
    · cases h
    · cases h
  · rintro ⟨rfl, b, rfl⟩
    rfl

/-- What a cast prepares makes a difference only to a value of a kind that the type does not take. -/
theorem castTo_congr_role (h : ¬(target = .date ∧ ∃ b, v = .boolean b)) (role role' : CastRole) :
    v.castTo target role = v.castTo target role' := by
  have hmem : v.type ∈ sourcesOf target :=
    Decidable.byContradiction fun hmem => h (type_not_mem_sourcesOf_iff.mp hmem)
  rw [castTo, castTo, if_pos hmem, if_pos hmem]

/-! ## Values that are never refused -/

theorem exists_castTo (h : v = .null ∨ v = .string "null" ∨ target = .any) (role : CastRole) :
    ∃ w, v.castTo target role = .ok w := by
  rcases h with rfl | rfl | rfl
  · exact ⟨.null, rfl⟩
  · exact ⟨.null, rfl⟩
  · obtain ⟨w, hw, -⟩ := castTo_of_fits role (fits_any v)
    exact ⟨w, hw⟩

/-! ## Texts that are no dates -/

/-- The text that is read if a date is made of a value: that of a number, or a text other than the word `null`. -/
def dateText? : Value → Option String
  | .number x => some (String.ofList x.display)
  | .string s => if s = "null" then none else some s
  | _ => none

theorem dateText?_string {s : String} (h : s ≠ "null") : (string s).dateText? = some s := if_neg h

theorem dateOfText_eq_error_iff {s : String} {r : Date.ReadError} :
    dateOfText s = .error (.date r) ↔ Date.read s = .error r := by
  unfold dateOfText
  split
  all_goals
    rename_i h
    simp [h]

/-- A date is made of a value by reading its text. -/
theorem castTo_date_of_dateText? {text : String} (h : v.dateText? = some text) :
    v.castTo .date role = dateOfText text := by
  cases v with
  | number x =>
    cases h
    rfl
  | string s =>
    have hs : s ≠ "null" := by
      rintro rfl
      cases h
    rw [dateText?_string hs] at h
    cases h
    exact castTo_eq_convert (isNullLike_string_eq_false_iff.mpr hs) (by simp [type, sourcesOf])
  | _ => cases h

/-- A cast fails because of a text that is no date if and only if a date is wanted and the text of the value is
no date. -/
theorem castTo_date_error_iff {r : Date.ReadError} :
    v.castTo target role = .error (.date r) ↔
      target = .date ∧ ∃ text, v.dateText? = some text ∧ Date.read text = .error r := by
  constructor
  · intro h
    have ht : target = .date := by
      rcases castTo_error_cases h with ⟨-, -, h⟩ | h | ⟨ht, -⟩
      · cases h
      · cases h
      · exact ht
    subst ht
    refine ⟨rfl, ?_⟩
    cases hd : v.dateText? with
    | some text =>
      rw [castTo_date_of_dateText? hd] at h
      exact ⟨text, rfl, dateOfText_eq_error_iff.mp h⟩
    | none =>
      cases v with
      | string s =>
        by_cases hs : s = "null"
        · subst hs
          cases h
        · rw [dateText?_string hs] at hd
          cases hd
      | number => cases hd
      | _ => cases h
  · rintro ⟨rfl, text, hd, hr⟩
    rw [castTo_date_of_dateText? hd]
    exact dateOfText_eq_error_iff.mpr hr

/-! ## Casts to the type of a place -/

/-- A cast fails because no type is declared, or in one of the ways in which a cast to a type fails. -/
theorem cast_error_cases {target : Option ValueType} (h : v.cast target role = .error e) :
    target = none ∧ e = .noType ∨ ∃ t, target = some t ∧ v.castTo t role = .error e := by
  cases target with
  | none =>
    cases h
    exact .inl ⟨rfl, rfl⟩
  | some t => exact .inr ⟨t, rfl, h⟩

end FormLang.Value
