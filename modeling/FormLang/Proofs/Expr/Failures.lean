import FormLang.Proofs.Expr.Evaluation

/-!
# How evaluations fail

`Expr.Fails` lists the ways in which the evaluation of a node fails, each with the cause and the path
of its failure; a failure in an argument that is itself an expression is a failure of the whole call.
Every failure arises in one of these ways (`fails_of_eval`), so what is true of all failures is proved
by induction on them: the depth limit that a failure names is the limit of the evaluation
(`Fails.limit_eq`), and no failure lies below it (`Fails.length_le`). The value of a whole expression can
fail once more, in its last cast (`exists_of_finish`).
-/

namespace FormLang.Expr

/-- How the evaluation of a node at a path fails. -/
inductive Fails (env : Environment) (limit : Nat) : Path → Json → Failure → Prop where
  | tooDeep {path : Path} {node : Json} (h : limit ≤ path.length) :
    Fails env limit path node ⟨.tooDeep limit, path⟩
  | literal {path : Path} {node : Json} (h : path.length < limit)
    (hn : isExpression node = false) : Fails env limit path node ⟨refusal node, path⟩
  /-- The evaluation of an argument fails. -/
  | argument {path : Path} {f : Builtin} {args : List Json} {i : Nat} {arg : Json}
    {failure : Failure} (h : path.length < limit) (hi : args[i]? = some arg)
    (he : isExpression arg = true) (fails : Fails env limit (path ++ [i + 1]) arg failure) :
    Fails env limit path (.call f args) failure
  /-- An argument has a value of which no value of the declared type can be made. -/
  | argumentCast {path : Path} {f : Builtin} {args : List Json} {i : Nat} {arg : Json}
    {raw : Value} {e : CastError} (h : path.length < limit) (hi : args[i]? = some arg)
    (hr : (evalNode env limit (path ++ [i + 1]) arg).outcome = .ok raw)
    (hc : raw.cast (f.signature.typeAt? i) .argument = .error e) :
    Fails env limit path (.call f args) ⟨.cast e, path ++ [i + 1]⟩
  /-- The function itself fails. -/
  | call {path : Path} {f : Builtin} {args : List Json} {values : List Value} {e : CallError}
    (h : path.length < limit)
    (hv : (evalArguments env limit path f 0 args).outcome = .ok values)
    (hc : f.call env values = .error e) : Fails env limit path (.call f args) ⟨.call e, path⟩

variable {env : Environment} {limit : Nat} {path : Path}

/-! ## Every failure arises so -/

theorem castAt_eq_error_iff {role : CastRole} {target : Option ValueType} {v : Value}
    {failure : Failure} : (castAt path role target v).outcome = .error failure ↔
      ∃ e, v.cast target role = .error e ∧ failure = ⟨.cast e, path⟩ := by
  cases h : v.cast target role <;> simp [castAt, h, eq_comm]

/-- The arguments fail with the failure of one of them. -/
theorem evalArgument_of_evalArguments {f : Builtin} {i : Nat} {nodes : List Json}
    {failure : Failure} (h : (evalArguments env limit path f i nodes).outcome = .error failure) :
    ∃ j arg, nodes[j]? = some arg ∧
      (evalArgument env limit path f (i + j) arg).outcome = .error failure := by
  induction nodes generalizing i with
  | nil => simp at h
  | cons node nodes ih =>
    rw [evalArguments_cons, Run.outcome_bind, Except.bind_eq_error_iff] at h
    rcases h with h | ⟨value, -, h⟩
    · exact ⟨0, node, rfl, h⟩
    · have hs : (evalArguments env limit path f (i + 1) nodes).outcome = .error failure := by
        simpa [Except.bind_eq_error_iff] using h
      obtain ⟨j, arg, hj, he⟩ := ih hs
      exact ⟨j + 1, arg, by simpa using hj, by rwa [show i + (j + 1) = i + 1 + j by omega]⟩

/-- Every failure of an evaluation arises in one of the ways that `Fails` lists. -/
theorem fails_of_eval {node : Json} {failure : Failure}
    (h : (eval env limit path node).outcome = .error failure) :
    Fails env limit path node failure := by
  induction node using expression_induction generalizing path failure with
  | literal node hn =>
    rcases Nat.lt_or_ge path.length limit with hl | hl
    · rw [eval_literal env hl hn] at h
      cases h
      exact .literal hl hn
    · rw [eval_tooDeep hl] at h
      cases h
      exact .tooDeep hl
  | call f args ih =>
    rcases Nat.lt_or_ge path.length limit with hl | hl
    · rw [eval_call hl, Run.outcome_bind, Except.bind_eq_error_iff] at h
      rcases h with h | ⟨values, hv, h⟩
      · obtain ⟨i, arg, hi, h⟩ := evalArgument_of_evalArguments h
        rw [Nat.zero_add, evalArgument, Run.outcome_bind, Except.bind_eq_error_iff] at h
        rcases h with h | ⟨raw, hr, h⟩
        · by_cases he : isExpression arg = true
          · rw [evalNode_expression he] at h
            exact .argument hl hi he (ih arg (List.mem_of_getElem? hi) h)
          · rw [evalNode_literal (by simpa using he)] at h
            cases h
        · obtain ⟨e, hc, rfl⟩ := castAt_eq_error_iff.mp h
          exact .argumentCast hl hi hr hc
      · rcases callAt_cases env path f values with ⟨e, hc, he⟩ | ⟨_, _, -, -, -, he⟩ <;>
          rw [he] at h <;> cases h
        exact .call hl hv hc
    · rw [eval_tooDeep hl] at h
      cases h
      exact .tooDeep hl

/-- The value of a whole expression fails only in its cast to the return type. -/
theorem castResult_of_finish {options : Options} {v : Value} {failure : Failure}
    (h : (finish options v).outcome = .error failure) :
    (castResult options.returnType v).outcome = .error failure := by
  unfold finish at h
  split at h
  · split at h
    · cases h
    · exact h
  · exact h

/-- The cast to the return type fails as the cast to this type does, and at the root. -/
theorem exists_of_castResult {target : ValueType} {v : Value} {failure : Failure}
    (h : (castResult target v).outcome = .error failure) :
    ∃ e, v.castTo target .result = .error e ∧ failure = ⟨.cast e, []⟩ := by
  unfold castResult at h
  split at h
  · cases h
  · exact castAt_eq_error_iff.mp h

/-- The value of a whole expression fails only if it cannot be cast, and then at the root. -/
theorem exists_of_finish {options : Options} {v : Value} {failure : Failure}
    (h : (finish options v).outcome = .error failure) : ∃ e, failure = ⟨.cast e, []⟩ := by
  obtain ⟨e, -, hf⟩ := exists_of_castResult (castResult_of_finish h)
  exact ⟨e, hf⟩

/-! ## Consequences -/

namespace Fails

/-- A failure for depth names the limit of the evaluation. -/
theorem limit_eq {node : Json} {q : Path} {n : Nat}
    (h : Fails env limit path node ⟨.tooDeep n, q⟩) : n = limit := by
  generalize hf : (⟨.tooDeep n, q⟩ : Failure) = failure at h
  induction h with
  | tooDeep => cases hf; rfl
  | @literal _ node => rcases refusal_cases node with hr | ⟨name, hr⟩ <;> simp [hr] at hf
  | argument _ _ _ _ ih => exact ih hf
  | _ => cases hf

/-- No failure lies below the limit. -/
theorem length_le {node : Json} {failure : Failure} (h : Fails env limit path node failure)
    (hp : path.length ≤ limit) : failure.path.length ≤ limit := by
  induction h with
  | argument h _ _ _ ih => exact ih (by simp; omega)
  | argumentCast h => simp; omega
  | _ => exact hp

end Fails

end FormLang.Expr
