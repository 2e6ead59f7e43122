import FormLang.Proofs.Expr.Failures
import FormLang.Proofs.Expr.Underline

/-!
# Where errors arise

Every failure lies at a path to an argument of the evaluated node (`Fails.isArgument`), and the cast of
the whole value fails at the root (`exists_of_finish`). So the error of an evaluation is about the
expression that is evaluated, its path is no longer than the limit and leads to one of its arguments,
and every report on it underlines this argument (`error_at_argument`).
-/

namespace FormLang

namespace Expr

variable {env : Environment} {options : Options}

/-- From the evaluated node, the path of a failure leads to an argument. -/
theorem Fails.isArgument {limit : Nat} {path : Path} {node : Json} {failure : Failure}
    (h : Fails env limit path node failure) :
    ∃ q : Path, failure.path = path ++ q ∧ q.IsArgument node := by
  induction h with
  | @argument path f args i arg failure _ hi _ _ ih =>
    obtain ⟨q, hq, ha⟩ := ih
    refine ⟨(i + 1) :: q, by simp [hq], ?_⟩
    exact Path.isArgument_call_iff.mpr ⟨i, arg, rfl, hi, ha⟩
  | @argumentCast path f args i arg _ _ _ hi =>
    exact ⟨[i + 1], rfl, Path.isArgument_call_iff.mpr ⟨i, arg, rfl, hi, Path.isArgument_nil arg⟩⟩
  | @tooDeep path node | @literal path node =>
    exact ⟨[], by simp, Path.isArgument_nil node⟩
  | @call path f args => exact ⟨[], by simp, Path.isArgument_nil _⟩

/-- A failure of an argument lies at the argument or below it. -/
theorem path_of_evalArgument {limit : Nat} {path : Path} {f : Builtin} {i : Nat} {node : Json} {failure : Failure}
    (h : (evalArgument env limit path f i node).outcome = .error failure) :
    ∃ q, failure.path = path ++ (i + 1) :: q := by
  rw [evalArgument, Run.outcome_bind, Except.bind_eq_error_iff] at h
  rcases h with h | ⟨v, -, h⟩
  · by_cases he : isExpression node = true
    · rw [evalNode_expression he] at h
      obtain ⟨q, hq, -⟩ := (fails_of_eval h).isArgument
      exact ⟨q, by simp [hq]⟩
    · rw [evalNode_literal (by simpa using he)] at h
      cases h
  · obtain ⟨e, -, rfl⟩ := castAt_eq_error_iff.mp h
    exact ⟨[], rfl⟩

/-- A failure of a whole evaluation lies at a path to an argument, and not below the limit. -/
theorem isArgument_of_evaluateStrictly {root : Json} {failure : Failure}
    (h : (evaluateStrictly env options root).outcome = .error failure) :
    failure.path.length ≤ options.limit ∧ failure.path.IsArgument root := by
  rw [evaluateStrictly, Run.outcome_bind, Except.bind_eq_error_iff] at h
  rcases h with h | ⟨v, -, h⟩
  · by_cases he : isExpression root = true
    · rw [evalNode_expression he] at h
      have hf := fails_of_eval h
      obtain ⟨q, hq, ha⟩ := hf.isArgument
      rw [List.nil_append] at hq
      exact ⟨hf.length_le (Nat.zero_le _), hq ▸ ha⟩
    · rw [evalNode_literal (by simpa using he)] at h
      cases h
  · obtain ⟨e, rfl⟩ := exists_of_finish h
    exact ⟨Nat.zero_le _, Path.isArgument_nil root⟩

end Expr

variable {env : Environment} {options : Options} {root : Json} {e : EvalError}

/-- An error that is not replaced by a default is a failure of the evaluation. -/
theorem exists_failure_of_evaluate (h : (evaluate env options root).outcome = .error e) :
    ∃ failure, (Expr.evaluateStrictly env options root).outcome = .error failure ∧
      e = failure.inside root := by
  dsimp only [evaluate] at h
  split at h
  · cases h
  · rw [Run.inside] at h
    cases hs : (Expr.evaluateStrictly env options root).outcome with
    | ok v => simp [hs] at h
    | error failure =>
      rw [hs] at h
      exact ⟨failure, rfl, (Except.error.inj h).symm⟩

/-- The error of an evaluation is about its expression, at an argument that is not deeper than the
limit, and every report on it underlines this argument. -/
theorem error_at_argument (h : (evaluate env options root).outcome = .error e) :
    e.root = root ∧ e.path.length ≤ options.limit ∧ e.path.IsArgument root ∧
      ∃ node, e.path.node? root = some node ∧
        ∀ intro, Underlines (e.report intro) root e.path node := by
  obtain ⟨failure, hf, rfl⟩ := exists_failure_of_evaluate h
  obtain ⟨hl, ha⟩ := Expr.isArgument_of_evaluateStrictly hf
  obtain ⟨node, hn⟩ := ha.exists_node
  exact ⟨rfl, hl, ha, node, hn, fun intro => report_underlines hn intro _⟩

/-- A report on `"maybe"` inside another call underlines it, also behind a letter of two bytes. -/
theorem not_maybe_underlined :
    let root := Json.call .concat [.string "ä", .call .not [.string "maybe"]]
    ∃ e, (evaluate {} {} root).outcome = .error e ∧ e.path = [2, 1] ∧
      ∀ intro, Underlines (e.report intro) root [2, 1] (.string "maybe") := by
  intro root
  let e : EvalError := ⟨.cast (.unexpected (.string "maybe") .boolean), root, [2, 1]⟩
  have he : (evaluate {} {} root).outcome = .error e := rfl
  obtain ⟨-, -, -, node, hn, hu⟩ := error_at_argument he
  cases hn
  exact ⟨e, he, rfl, hu⟩

end FormLang
