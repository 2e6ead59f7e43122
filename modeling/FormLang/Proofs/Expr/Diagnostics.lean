import FormLang.Expr.Diagnostic
import FormLang.Proofs.Expr.Recovery

/-!
# What is told of calls and failures

A call warns of its arguments if and only if it is a link that is null (`isSome_warning?_iff`). With a default, a
failing evaluation tells the same of its calls as without one, and last of all it reports the failure
(`diagnostics_of_recovered`).
-/

namespace FormLang

open Calls.Lookup (linkWarning?)

variable {f : Builtin} {args : Arguments} {env : Environment} {options : Options} {root : Json}

theorem isSome_linkWarning?_iff (target : String) (f : Builtin) :
    (linkWarning? target f args).isSome ↔ args.text? 0 = none ∨ args.text? 1 = none := by
  unfold linkWarning?
  cases args.text? 0 <;> cases args.text? 1 <;> simp

theorem call_linkToComponent_eq_null_iff :
    Builtin.linkToComponent.call env args = .ok .null ↔ args.text? 0 = none ∨ args.text? 1 = none := by
  change Calls.Lookup.linkToComponent env.sources args = _ ↔ _
  unfold Calls.Lookup.linkToComponent
  cases args.text? 0 with
  | none => simp
  | some text =>
    cases args.text? 1 with
    | none => simp
    | some id => cases hpage : env.sources.componentPage id <;> simp [hpage]

theorem call_linkToPage_eq_null_iff :
    Builtin.linkToPage.call env args = .ok .null ↔ args.text? 0 = none ∨ args.text? 1 = none := by
  change Except.ok (Calls.Lookup.linkToPage env.sources args) = _ ↔ _
  unfold Calls.Lookup.linkToPage
  cases args.text? 0 <;> cases args.text? 1 <;> simp

/-- The calls that warn are the links that are null. -/
theorem isSome_warning?_iff :
    (f.warning? args).isSome ↔ (f = .linkToComponent ∨ f = .linkToPage) ∧ f.call env args = .ok .null := by
  cases f with
  | linkToComponent =>
    exact (isSome_linkWarning?_iff "Component" .linkToComponent).trans
      (call_linkToComponent_eq_null_iff.symm.trans (and_iff_right (.inl rfl)).symm)
  | linkToPage =>
    exact (isSome_linkWarning?_iff "Page" .linkToPage).trans
      (call_linkToPage_eq_null_iff.symm.trans (and_iff_right (.inr rfl)).symm)
  | _ => exact iff_of_false nofun (by simp)

theorem evalNode_ne_null_of_error {e : EvalError}
    (h : (evaluate env { options with default := none } root).outcome = .error e) :
    (Expr.evalNode env options.limit [] root).outcome ≠ .ok .null := by
  intro hnull
  rw [evaluate_none_of_null hnull] at h
  cases h

/-- With a default, a failing evaluation tells the same of its calls, and then reports the failure. -/
theorem diagnostics_of_recovered {e : EvalError} (default : Value)
    (h : (evaluate env { options with default := none } root).outcome = .error e) :
    (evaluate env { options with default := some default } root).diagnostics =
      (evaluate env { options with default := none } root).diagnostics ++
        [Recovery.diagnostic ⟨e, options.intro, default⟩] := by
  have hnone : (evaluate env { options with default := none } root).recovered = [] := by
    rw [evaluate_none]
    rfl
  rw [evaluate_some_of_ne_null default (evalNode_ne_null_of_error h), Evaluation.recover_of_error h]
  simp only [Evaluation.diagnostics, hnone, List.map_nil, List.append_nil, List.map_cons]

end FormLang
