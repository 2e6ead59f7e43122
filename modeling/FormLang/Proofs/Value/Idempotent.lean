import FormLang.Proofs.Value.Regular

/-!
# Casting twice

What a cast gives is cast to itself by the same type (`castTo_self`), whatever is prepared by the cast. There
is one exception: a number that is not finite becomes the text `null`, and the next cast makes null of it.
`cast_twice` says so of every value whose date, if it is one, was read from a text.
-/

namespace FormLang.Value

/-- A date was read from a text. -/
def IsRead : Value → Prop
  | .date d => ∃ raw, Date.read raw = .ok (some d)
  | _ => True

/-- A number that no text can show is to become a text. -/
def IsUnshown (target : ValueType) (v : Value) : Prop :=
  target = .string ∧ ∃ x : Binary64, v = .number x ∧ x.isFinite = false

variable {v w : Value} {target : ValueType} {role role' : CastRole}

theorem isRegular_of_isRead (hv : v.IsRead) (hx : ∀ x, v = .number x → x.isFinite = true) :
    v.IsRegular := by
  cases v with
  | number x => exact hx x rfl
  | date d => exact hv
  | _ => trivial

/-- What a cast prepares matters for its errors only. -/
theorem castTo_role (role' : CastRole) (h : v.castTo target role = .ok w) : v.castTo target role' = .ok w := by
  unfold castTo at h ⊢
  split
  case isTrue hn => rwa [if_pos hn] at h
  case isFalse hn =>
    rw [if_neg hn] at h
    split
    case isTrue hm => rwa [if_pos hm] at h
    case isFalse hm =>
      rw [if_neg hm] at h
      cases h

/-- The values that fit a type are null, the values that have the type by their own form, and dates. -/
theorem fits_cases (ht : target ≠ .any) (hf : w.fits target = true) :
    w = .null ∨ w.type = target ∨ target = .date ∧ ∃ d, w = .date d := by
  cases target <;> cases w <;> simp_all [fits, type]

/-- A value of a type is cast to itself, if it is no reserved word in another case. -/
theorem castTo_self (ht : target ≠ .any) (hf : w.fits target = true) (hw : target = .string → w.IsNormal) :
    w.castTo target role = .ok w := by
  rcases fits_cases ht hf with rfl | rfl | ⟨rfl, d, rfl⟩
  · rfl
  · have hn : w.IsNormal := by
      cases w with
      | string s => exact hw rfl
      | _ => trivial
    exact castTo_type ht hn
  · rfl

/-- Where any value may stand, a value stays as it is, apart from the word `null`. -/
theorem castTo_any_cases (h : v.castTo .any role = .ok w) :
    v = .string "null" ∧ w = .null ∨ v ≠ .string "null" ∧ w = v := by
  unfold castTo at h
  split at h
  case isTrue hn =>
    cases h
    cases v with
    | null => exact .inr ⟨nofun, rfl⟩
    | string s => exact .inl ⟨by rw [eq_of_beq hn], rfl⟩
    | _ => cases hn
  case isFalse hn =>
    split at h <;> cases h
    exact .inr ⟨fun hs => hn (hs ▸ rfl), rfl⟩

/-- A cast where any value may stand makes no difference to the cast that follows. -/
theorem castTo_of_castTo_any (h : v.castTo .any role = .ok w) (role' : CastRole) :
    w.castTo target role' = v.castTo target role' := by
  rcases castTo_any_cases h with ⟨rfl, rfl⟩ | ⟨-, rfl⟩
  · rfl
  · rfl

/-- What a cast gives is cast to itself by the same type, unless it stands for a number that is not finite. -/
theorem castTo_castTo (hv : v.IsRead) (hu : ¬v.IsUnshown target) (h : v.castTo target role = .ok w) :
    w.castTo target role' = .ok w := by
  by_cases ht : target = .any
  · subst ht
    rcases castTo_any_cases h with ⟨-, rfl⟩ | ⟨-, rfl⟩
    · rfl
    · exact castTo_role role' h
  · refine castTo_self ht (fits_castTo h) ?_
    rintro rfl
    have hx : ∀ x, v = .number x → x.isFinite = true := by
      rintro x rfl
      rw [← Bool.not_eq_false]
      exact fun hx => hu ⟨rfl, x, rfl, hx⟩
    exact isNormal_castTo (isRegular_of_isRead hv hx) h

/-- A number that is not finite becomes the word `null` as a text, and this word becomes null. -/
theorem castTo_isUnshown (hu : v.IsUnshown target) (h : v.castTo target role = .ok w) :
    w = .string "null" ∧ ∀ role', w.castTo target role' = .ok .null := by
  obtain ⟨rfl, x, rfl, hx⟩ := hu
  have hn : (number x).castTo .string role = .ok (.string "null") := by
    rw [castTo_eq_convert rfl (by simp [type, sourcesOf]), convert, toText?, hx]
    rfl
  obtain rfl := Except.ok.inj (hn.symm.trans h)
  exact ⟨rfl, fun _ => rfl⟩

/-- A cast gives null or a value of its type, which is the value itself where any value may stand, unless it
is the word `null`. Casting again changes nothing, whatever the casts prepare, with one exception: a number
that is not finite becomes the word `null` as a text, and then null. -/
theorem cast_twice (hv : v.IsRead) (h : v.cast (some target) role = .ok w) :
    w.fits target = true ∧
      (target = .any → v = .string "null" ∧ w = .null ∨ v ≠ .string "null" ∧ w = v) ∧
      (¬v.IsUnshown target → ∀ role', w.cast (some target) role' = .ok w) ∧
      (v.IsUnshown target → w = .string "null" ∧ ∀ role', w.cast (some target) role' = .ok .null) := by
  refine ⟨fits_castTo h, ?_, fun hu role' => castTo_castTo hv hu h, fun hu => castTo_isUnshown hu h⟩
  rintro rfl
  exact castTo_any_cases h

/-- A day that was read from a text becomes this text, and the text stays as it is. -/
theorem day_cast_twice :
    ∃ d, Date.read "2021-06-01" = .ok (some d) ∧
      (date d).cast (some .string) .argument = .ok (string "2021-06-01") ∧
      (string "2021-06-01").cast (some .string) .result = .ok (string "2021-06-01") := by
  obtain ⟨d, hd⟩ : ∃ d, Date.read "2021-06-01" = .ok (some d) := ⟨_, rfl⟩
  have hc : (date d).cast (some .string) .argument = .ok (string "2021-06-01") := by
    change Except.ok (string d.raw) = _
    rw [Date.raw_of_read hd]
  obtain ⟨-, -, htwice, -⟩ := cast_twice (v := date d) ⟨_, hd⟩ hc
  exact ⟨d, hd, hc, htwice (by rintro ⟨-, _, hx, -⟩; cases hx) .result⟩

end FormLang.Value
