import FormLang.Proofs.Expr.Evaluation
import FormLang.Proofs.Value.CastError

/-!
# Casts inside an expression

A cast at a path of an expression fails for one of three reasons, and the kind of its error tells which of them it is
(`kind_cast_cases`). Two of the reasons can be told from the value and the type: a boolean is never made a date, and the
text of a value may be no date. Everything else that fails is a value that is not expected where the type is wanted. What
the cast prepares, an argument or a result, is seen in errors of the first kind only (`cast_classified`).
-/

namespace FormLang

/-- The kind of the error about a value of a kind that a type never takes. -/
def CastRole.unsupportedKind : CastRole → ErrorKind
  | .argument => .unknownArgumentType
  | .result => .unknownSourceType

theorem kind_cast_unsupported (role : CastRole) (v : Value) (target : ValueType) :
    (Cause.cast (.unsupported role v target)).kind = role.unsupportedKind := by
  cases role <;> rfl

variable {root : Json} {path : Path} {v : Value} {target : ValueType} {role : CastRole} {e : CastError}

/-! ## Kinds -/

/-- The kind of an error tells in which way a cast fails. -/
theorem kind_cast_cases (h : v.castTo target role = .error e) :
    e = .unsupported role v target ∧ (Cause.cast e).kind = role.unsupportedKind ∨
      (∃ r, e = .date r) ∧ (Cause.cast e).kind = .runtime ∨
      e = .unexpected v target ∧ (Cause.cast e).kind = .unexpectedType := by
  rcases Value.castTo_error_cases h with ⟨-, -, rfl⟩ | rfl | ⟨-, r, rfl⟩
  · exact .inl ⟨rfl, kind_cast_unsupported role v target⟩
  · exact .inr (.inr ⟨rfl, rfl⟩)
  · exact .inr (.inl ⟨⟨r, rfl⟩, rfl⟩)

theorem eq_unsupported_of_kind (h : v.castTo target role = .error e)
    (hk : (Cause.cast e).kind = role.unsupportedKind) : e = .unsupported role v target := by
  rcases kind_cast_cases h with ⟨he, -⟩ | ⟨-, hk'⟩ | ⟨-, hk'⟩
  · exact he
  · cases role <;> cases hk'.symm.trans hk
  · cases role <;> cases hk'.symm.trans hk

theorem eq_date_of_kind (h : v.castTo target role = .error e) (hk : (Cause.cast e).kind = .runtime) :
    ∃ r, e = .date r := by
  rcases kind_cast_cases h with ⟨-, hk'⟩ | ⟨he, -⟩ | ⟨-, hk'⟩
  · cases role <;> cases hk'.symm.trans hk
  · exact he
  · cases hk'.symm.trans hk

/-! ## Casts at a path -/

theorem inside_castAt_eq_error_iff {e : EvalError} :
    ((Expr.castAt path role (some target) v).inside root).outcome = .error e ↔
      ∃ reason, v.castTo target role = .error reason ∧ e = ⟨.cast reason, root, path⟩ := by
  rw [Expr.outcome_inside_castAt]
  cases v.castTo target role <;> simp [eq_comm]

/-- A cast fails because of the kind of the value if and only if a boolean is to become a date. -/
theorem exists_unsupported_iff (root : Json) (path : Path) (target : ValueType) (v : Value) (role : CastRole) :
    (∃ e, ((Expr.castAt path role (some target) v).inside root).outcome = .error e ∧
      e.cause.kind = role.unsupportedKind) ↔ target = .date ∧ ∃ b, v = .boolean b := by
  simp only [inside_castAt_eq_error_iff]
  constructor
  · rintro ⟨_, ⟨reason, h, rfl⟩, hk⟩
    rw [eq_unsupported_of_kind h hk] at h
    exact Value.castTo_unsupported_iff.mp h
  · intro h
    exact ⟨_, ⟨_, Value.castTo_unsupported_iff.mpr h, rfl⟩, kind_cast_unsupported role v target⟩

/-- A cast fails with a runtime error if and only if a date is wanted and the text of the value is no date. -/
theorem exists_runtime_iff (root : Json) (path : Path) (target : ValueType) (v : Value) (role : CastRole) :
    (∃ e, ((Expr.castAt path role (some target) v).inside root).outcome = .error e ∧ e.cause.kind = .runtime) ↔
      target = .date ∧ ∃ text r, v.dateText? = some text ∧ Date.read text = .error r := by
  simp only [inside_castAt_eq_error_iff]
  constructor
  · rintro ⟨_, ⟨reason, h, rfl⟩, hk⟩
    obtain ⟨r, rfl⟩ := eq_date_of_kind h hk
    obtain ⟨ht, text, htext, hr⟩ := Value.castTo_date_error_iff.mp h
    exact ⟨ht, text, r, htext, hr⟩
  · rintro ⟨ht, text, r, htext, hr⟩
    exact ⟨_, ⟨_, Value.castTo_date_error_iff.mpr ⟨ht, text, htext, hr⟩, rfl⟩, rfl⟩

/-- What the cast prepares makes a difference if and only if a boolean is to become a date. -/
theorem inside_castAt_role_iff (root : Json) (path : Path) (target : ValueType) (v : Value) :
    ((Expr.castAt path .argument (some target) v).inside root).outcome =
      ((Expr.castAt path .result (some target) v).inside root).outcome ↔
        ¬(target = .date ∧ ∃ b, v = .boolean b) := by
  rw [Expr.outcome_inside_castAt, Expr.outcome_inside_castAt]
  refine ⟨fun h hb => ?_, fun h => by rw [Value.castTo_congr_role h .argument .result]⟩
  rw [Value.castTo_unsupported_iff.mpr hb, Value.castTo_unsupported_iff.mpr hb] at h
  cases h

/-- How a cast fails at a path of an expression. Its error is about a kind of value that is not taken if and only if a
boolean is to become a date; it is a runtime error if and only if a date is wanted and the text of a number, or a text
that is not the word `null`, is no date; and else it says that the value is not expected where this type is wanted. Null,
the word `null` and values of which any type will do are always cast, and what a cast prepares makes a difference in the
first case only. -/
theorem cast_classified (root : Json) (path : Path) (target : ValueType) (v : Value) :
    let cast (role : CastRole) := ((Expr.castAt path role (some target) v).inside root).outcome
    (∀ role,
      ((∃ e, cast role = .error e ∧ e.cause.kind = role.unsupportedKind) ↔ target = .date ∧ ∃ b, v = .boolean b) ∧
      ((∃ e, cast role = .error e ∧ e.cause.kind = .runtime) ↔
        target = .date ∧ ∃ text r, v.dateText? = some text ∧ Date.read text = .error r) ∧
      ∀ e, cast role = .error e → e.root = root ∧ e.path = path ∧
        e.cause.kind ≠ .unknownTargetType ∧ e.cause.kind ≠ .tooDeep ∧
        (e.cause.kind = role.unsupportedKind ∨ e.cause.kind = .runtime ∨
          e.cause.kind = .unexpectedType ∧ e.cause = .cast (.unexpected v target))) ∧
    (v = .null ∨ v = .string "null" ∨ target = .any → ∀ role, ∃ w, cast role = .ok w) ∧
    (cast .argument = cast .result ↔ ¬(target = .date ∧ ∃ b, v = .boolean b)) := by
  intro cast
  refine ⟨fun role => ⟨exists_unsupported_iff root path target v role, exists_runtime_iff root path target v role,
    fun e he => ?_⟩, fun h role => ?_, inside_castAt_role_iff root path target v⟩
  · obtain ⟨reason, h, rfl⟩ := inside_castAt_eq_error_iff.mp he
    refine ⟨rfl, rfl, ?_⟩
    rcases kind_cast_cases h with ⟨-, hk⟩ | ⟨-, hk⟩ | ⟨hr, hk⟩
    · rw [hk]
      cases role <;> exact ⟨nofun, nofun, .inl rfl⟩
    · rw [hk]
      exact ⟨nofun, nofun, .inr (.inl rfl)⟩
    · rw [hk, hr]
      exact ⟨nofun, nofun, .inr (.inr ⟨rfl, rfl⟩)⟩
  · obtain ⟨w, hw⟩ := Value.exists_castTo h role
    refine ⟨w, ?_⟩
    rw [show cast role = _ from Expr.outcome_inside_castAt root path role target v, hw]
    rfl

/-- A boolean is no date, as an argument and as a result; a day that does not exist is no date either, and a numeral with
a power of ten is no number. The word `null` becomes null. -/
theorem true_and_days_classified :
    let root := Json.call .formatDate [.bool true]
    let cast (role : CastRole) (target : ValueType) (v : Value) :=
      ((Expr.castAt [1] role (some target) v).inside root).outcome
    let unexpected : Cause := .cast (.unexpected (.string "1e3") .number)
    cast .argument .date (.boolean true) ≠ cast .result .date (.boolean true) ∧
      (∃ e, cast .argument .date (.boolean true) = .error e ∧ e.cause.kind = .unknownArgumentType) ∧
      (∃ e, cast .result .date (.boolean true) = .error e ∧ e.cause.kind = .unknownSourceType) ∧
      (∃ e, cast .result .date (.string "2023-02-29") = .error e ∧ e.cause.kind = .runtime) ∧
      cast .result .number (.string "1e3") = .error ⟨unexpected, root, [1]⟩ ∧
      unexpected.kind ≠ .unknownTargetType ∧ unexpected.kind ≠ .tooDeep ∧
      (unexpected.kind = .unknownSourceType ∨ unexpected.kind = .runtime ∨
        unexpected.kind = .unexpectedType ∧ unexpected = .cast (.unexpected (.string "1e3") .number)) ∧
      ∃ w, cast .argument .boolean (.string "null") = .ok w := by
  intro root cast unexpected
  obtain ⟨hbool, -, hrole⟩ := cast_classified root [1] .date (.boolean true)
  obtain ⟨hday, -, -⟩ := cast_classified root [1] .date (.string "2023-02-29")
  obtain ⟨hnumeral, -, -⟩ := cast_classified root [1] .number (.string "1e3")
  obtain ⟨-, hnull, -⟩ := cast_classified root [1] .boolean (.string "null")
  have hdate : ValueType.date = .date ∧ ∃ b, Value.boolean true = .boolean b := ⟨rfl, true, rfl⟩
  have herror : cast .result .number (.string "1e3") = .error ⟨unexpected, root, [1]⟩ := rfl
  obtain ⟨-, -, htype, hdeep, hkind⟩ := (hnumeral .result).2.2 _ herror
  exact ⟨fun h => hrole.mp h hdate, (hbool .argument).1.mpr hdate, (hbool .result).1.mpr hdate,
    (hday .result).2.1.mpr ⟨rfl, "2023-02-29", .invalidDate "2023-02-29", rfl, rfl⟩, herror, htype, hdeep, hkind,
    hnull (.inr (.inl rfl)) .argument⟩

end FormLang
