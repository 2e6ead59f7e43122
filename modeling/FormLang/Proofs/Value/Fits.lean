import FormLang.Value.Cast

/-!
# Values of a declared type

A value fits a type if it is null or a value of that type; every value fits `any`. A value that fits a
type can be cast to it, and the result fits again (`castTo_of_fits`).
-/

namespace FormLang.Value

/-- Whether a value is null or a value of a declared type. -/
def fits : ValueType → Value → Bool
  | .any, _ | _, .null => true
  | .boolean, .boolean _ | .string, .string _ | .number, .number _ | .date, .date _ => true
  | _, _ => false

@[simp] theorem fits_any (v : Value) : v.fits .any = true := by simp [fits]

@[simp] theorem fits_null (target : ValueType) : null.fits target = true := by
  cases target <;> rfl

theorem fits_ofWord (s : String) : (ofWord s).fits .string = true := by
  simp only [ofWord]
  split
  · rfl
  · split <;> rfl

theorem isNullLike_string_eq_false_iff {s : String} : (string s).isNullLike = false ↔ s ≠ "null" :=
  beq_eq_false_iff_ne

/-- A value that is not like null, and of a kind that a type takes, is converted to it. -/
theorem castTo_eq_convert {target : ValueType} {role : CastRole} {v : Value} (hn : v.isNullLike = false)
    (ht : v.type ∈ sourcesOf target) : v.castTo target role = v.convert target := by
  rw [castTo, if_neg (Bool.not_eq_true _ ▸ hn), if_pos ht]

/-- Every type that a value fits takes values of its kind. -/
theorem type_mem_sourcesOf {target : ValueType} {v : Value} (h : v.fits target = true)
    (hn : v.isNullLike = false) : v.type ∈ sourcesOf target := by
  cases target <;> cases v <;> simp_all [fits, sourcesOf, type, isNullLike]

/-- A value that fits a type can be converted to it. -/
theorem convert_of_fits {target : ValueType} {v : Value} (h : v.fits target = true)
    (hn : v.isNullLike = false) :
    ∃ w, v.convert target = .ok w ∧ w.fits target = true := by
  cases target with
  | any => exact ⟨v, rfl, fits_any v⟩
  | string =>
    cases v with
    | string s => exact ⟨ofWord s, rfl, fits_ofWord s⟩
    | null => simp [isNullLike] at hn
    | _ => simp [fits] at h
  | boolean | number | date =>
    cases v with
    | null => simp [isNullLike] at hn
    | _ => first | exact ⟨_, rfl, rfl⟩ | simp [fits] at h

/-- A value that fits a type can be cast to it, and the result fits again. -/
theorem castTo_of_fits {target : ValueType} {v : Value} (role : CastRole)
    (h : v.fits target = true) : ∃ w, v.castTo target role = .ok w ∧ w.fits target = true := by
  by_cases hn : v.isNullLike = true
  · exact ⟨.null, by simp [castTo, hn], fits_null target⟩
  · rw [Bool.not_eq_true] at hn
    obtain ⟨w, hw, hf⟩ := convert_of_fits h hn
    exact ⟨w, by simp [castTo, hn, type_mem_sourcesOf h hn, hw], hf⟩

end FormLang.Value
