import FormLang.Proofs.Expr.Evaluation
import FormLang.Proofs.Value.Regular

/-!
# Return types

The value of a whole expression is cast to the return type unless it has that type by its own form; a
value on its own is always cast. The two differ on texts that a cast to texts changes, and on nothing
else:

* `evaluate_none`: without a default, the value of an expression is cast as the return type asks;
* `outcome_castResult`: that cast gives what the cast of a value on its own gives, if the value is normal;
* `castResult_rewritten`: a text that a cast changes stays as it is if a text is wanted.

`evaluate_returnType` says this of whole evaluations: it compares those that differ in the return type only.
-/

namespace FormLang

/-! ## Casts of a value on its own -/

theorem castValue_eq (target : ValueType) (v : Value) :
    castValue target v = (v.castTo target .result).mapError fun e => ⟨.cast e, .null, []⟩ :=
  Expr.outcome_inside_castAt .null [] .result target v

/-- A text that its own cast to texts changes. -/
def Value.IsRewritten (v : Value) : Prop := ∃ s, v = .string s ∧ castValue .string v ≠ .ok v

namespace Value

variable {v : Value} {s : String}

theorem isRewritten_string : (string s).IsRewritten ↔ ¬(string s).IsNormal := by
  have hcast : castValue .string (string s) = .ok (string s) ↔ (string s).IsNormal := by
    rw [castValue_eq, Except.mapError_eq_ok_iff, castTo_string_eq_ok_iff]
  rw [← hcast]
  exact ⟨fun ⟨_, _, hc⟩ => hc, fun hc => ⟨s, rfl, hc⟩⟩

/-- The texts that a cast changes are the words `null` in any case, and `true` and `false` unless they are in
lower case. -/
theorem isRewritten_string_iff : (string s).IsRewritten ↔
    lowerText s = "null" ∨ (lowerText s = "true" ∨ lowerText s = "false") ∧ s ≠ lowerText s := by
  rw [isRewritten_string, IsNormal, not_and_or, not_not]
  refine or_congr_right ?_
  simp only [List.mem_cons, List.not_mem_nil, or_false, forall_eq_or_imp, forall_eq]
  grind

theorem isNormal_of_not_isRewritten (h : ¬v.IsRewritten) : v.IsNormal := by
  cases v with
  | string s => exact not_not.mp (mt isRewritten_string.mpr h)
  | _ => trivial

end Value

namespace Expr

variable {target : ValueType} {v : Value}

/-! ## Casts to the return type -/

theorem castResult_any (v : Value) : castResult .any v = pure v := if_pos (.inl rfl)

theorem castResult_type (v : Value) : castResult v.type v = pure v := if_pos (.inr rfl)

theorem outcome_castResult_of_ne (ht : target ≠ .any) (hv : v.type ≠ target) :
    (castResult target v).outcome = (v.castTo target .result).mapError fun e => ⟨.cast e, []⟩ := by
  rw [castResult, if_neg (by simp [ht, hv]), castAt, Run.outcome_ofExcept]
  rfl

/-- The cast to the return type is the cast of a value on its own, unless a cast changes the text that is
wanted. -/
theorem outcome_castResult (ht : target ≠ .any) (hv : target = .string → ¬v.IsRewritten) :
    (castResult target v).outcome = (v.castTo target .result).mapError fun e => ⟨.cast e, []⟩ := by
  by_cases h : v.type = target
  · subst h
    have hn : v.IsNormal := by
      cases v with
      | string s => exact Value.isNormal_of_not_isRewritten (hv rfl)
      | _ => trivial
    rw [castResult_type, Value.castTo_type ht hn]
    rfl
  · exact outcome_castResult_of_ne ht h

/-- A text stays as it is if a text is wanted, even if a cast would change it. -/
theorem castResult_rewritten (h : v.IsRewritten) : castResult .string v = pure v := by
  obtain ⟨s, rfl, -⟩ := h
  exact castResult_type (.string s)

/-- What is cast to the return type fits it. -/
theorem fits_castResult {w : Value} (h : (castResult target v).outcome = .ok w) : w.fits target = true := by
  by_cases ht : target = .any
  · rw [ht]
    exact Value.fits_any w
  · by_cases hv : v.type = target
    · subst hv
      rw [castResult_type] at h
      cases h
      exact Value.fits_type v
    · rw [outcome_castResult_of_ne ht hv, Except.mapError_eq_ok_iff] at h
      exact Value.fits_castTo h

end Expr

/-! ## Whole evaluations -/

/-- Without a default, the value of an expression is cast as the return type asks. -/
theorem evaluate_none (env : Environment) (options : Options) (root : Json) :
    evaluate env { options with default := none } root =
      (Expr.evalNode env options.limit [] root >>= Expr.castResult options.returnType).inside root :=
  evaluate_of_default_eq_none rfl env root

section

variable {env : Environment} {options : Options} {root : Json}

/-- If an expression fails, so does its evaluation, whatever the return type. -/
theorem outcome_none_of_error {failure : Failure}
    (h : (Expr.evalNode env options.limit [] root).outcome = .error failure) (target : ValueType) :
    (evaluate env { options with default := none, returnType := target } root).outcome =
      .error (failure.inside root) := by
  have hrun := evaluate_none env { options with returnType := target } root
  rw [hrun, Run.inside, Run.outcome_bind, h]
  rfl

/-- If an expression has a value, its evaluation casts it. -/
theorem outcome_none_of_ok {v : Value} (h : (Expr.evalNode env options.limit [] root).outcome = .ok v)
    (target : ValueType) :
    (evaluate env { options with default := none, returnType := target } root).outcome =
      (Expr.castResult target v).outcome.mapError (·.inside root) := by
  have hrun := evaluate_none env { options with returnType := target } root
  rw [hrun, Run.inside, Run.outcome_bind, h]
  rfl

end

/-- Of two evaluations without a default, one of which asks for any value and the other for a type, both fail
in the same way, or the value of the first, cast on its own, is that of the second, or the error of that cast
is the error of the second at the root. Only a text that is the word `null` in any case, or `true` or `false`
not in lower case, is left as it is if a text is wanted. A value of the second always fits the type. -/
theorem evaluate_returnType (env : Environment) (options : Options) (root : Json) {target : ValueType}
    (ht : target ≠ .any) :
    let outcome (t : ValueType) :=
      (evaluate env { options with default := none, returnType := t } root).outcome
    (∀ e, outcome .any = .error e → outcome target = .error e) ∧
    (∀ u, outcome .any = .ok u →
      (target = .string ∧ u.IsRewritten → outcome target = .ok u) ∧
      (¬(target = .string ∧ u.IsRewritten) →
        (∀ w, castValue target u = .ok w → outcome target = .ok w) ∧
        ∀ e, castValue target u = .error e → outcome target = .error ⟨e.cause, root, []⟩)) ∧
    (∀ s, (Value.string s).IsRewritten ↔ Value.lowerText s = "null" ∨
      (Value.lowerText s = "true" ∨ Value.lowerText s = "false") ∧ s ≠ Value.lowerText s) ∧
    ∀ v, outcome target = .ok v → v.fits target = true := by
  intro outcome
  cases h : (Expr.evalNode env options.limit [] root).outcome with
  | error failure =>
    have hfail (t : ValueType) : outcome t = .error (failure.inside root) := outcome_none_of_error h t
    rw [hfail, hfail]
    refine ⟨fun _ he => he, fun u hu => ?_, fun s => Value.isRewritten_string_iff, fun v hv => ?_⟩
    · cases hu
    · cases hv
  | ok u =>
    have hcast (t : ValueType) : outcome t = (Expr.castResult t u).outcome.mapError (·.inside root) :=
      outcome_none_of_ok h t
    have hany : outcome .any = .ok u := by
      rw [hcast, Expr.castResult_any]
      rfl
    rw [hany, hcast]
    refine ⟨fun e he => ?_, ?_, fun s => Value.isRewritten_string_iff, fun v hv => ?_⟩
    · cases he
    · rintro _ ⟨⟩
      refine ⟨?_, fun hu => ?_⟩
      · rintro ⟨rfl, hu⟩
        rw [Expr.castResult_rewritten hu]
        rfl
      · rw [Expr.outcome_castResult ht fun hs hr => hu ⟨hs, hr⟩, castValue_eq]
        cases u.castTo target .result with
        | ok w =>
          refine ⟨fun _ hw => hw, fun e he => ?_⟩
          cases he
        | error e =>
          refine ⟨fun w hw => ?_, ?_⟩
          · cases hw
          · rintro _ ⟨⟩
            rfl
    · exact Expr.fits_castResult (Except.mapError_eq_ok_iff.mp hv)

/-- A word in upper case that is found in a data model stays as it is if a text is wanted, and a cast of it on
its own gives the word in lower case. -/
theorem word_kept_as_text :
    let env : Environment := { sources := { formData := fun _ _ => .ok (some (.string "TRUE")) } }
    let root := Json.call .dataModel [.string "answer"]
    ValueType.string ≠ .any ∧ (evaluate env { returnType := .string } root).outcome = .ok (.string "TRUE") ∧
      castValue .string (.string "TRUE") = .ok (.string "true") := by
  intro env root
  have hword : castValue .string (.string "TRUE") = .ok (.string "true") := by
    have hlower : Value.lowerText "TRUE" = "true" := by decide +kernel
    rw [castValue_eq, Value.castTo, if_neg (by decide), if_pos (by decide), Value.convert, Value.toText?,
      Value.ofWord_eq, hlower]
    rfl
  have ht : ValueType.string ≠ .any := by decide
  have hrewritten : (Value.string "TRUE").IsRewritten := by
    refine ⟨"TRUE", rfl, ?_⟩
    rw [hword]
    simp
  obtain ⟨-, hvalue, -, -⟩ := evaluate_returnType env {} root ht
  exact ⟨ht, (hvalue (.string "TRUE") rfl).1 ⟨rfl, hrewritten⟩, hword⟩

end FormLang
