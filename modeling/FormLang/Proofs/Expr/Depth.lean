import FormLang.Proofs.Expr.Attribution
import FormLang.Proofs.Expr.Relocation

/-!
# The depth limit

The limit is compared with the number of calls that are nested in an expression (`Json.nesting`), and
the comparison is exact:

* `Fails.limit_lt_nesting`: a failure for depth needs more nested calls than the limit allows;
* `nesting_le_of_evalNode`: a value needs no more than that, since all arguments are evaluated;
* `Fails.length_eq`: a failure for depth lies exactly at the limit;
* `eval_raises`: a higher limit changes nothing but failures for depth.

`evaluate_depth` says all this of whole evaluations.
-/

namespace FormLang

namespace Json

mutual

/-- How many calls are nested in a node. -/
def nesting : Json → Nat
  | .array (.string name :: args) =>
    if (Builtin.ofName? name).isSome then 1 + argumentNesting args else 0
  | _ => 0

/-- The greatest number of calls nested in an argument. -/
def argumentNesting : List Json → Nat
  | [] => 0
  | arg :: args => max (nesting arg) (argumentNesting args)

end

@[simp] theorem nesting_call (f : Builtin) (args : List Json) :
    nesting (.call f args) = 1 + argumentNesting args := by
  simp [nesting]

theorem nesting_literal {node : Json} (h : isExpression node = false) : nesting node = 0 := by
  unfold nesting
  split
  · rename_i name args
    have hf : (Builtin.ofName? name).isSome = false := by simpa [isExpression] using h
    simp [hf]
  · rfl

theorem argumentNesting_le_iff {args : List Json} {n : Nat} :
    argumentNesting args ≤ n ↔ ∀ arg ∈ args, nesting arg ≤ n := by
  induction args with
  | nil => simp [argumentNesting]
  | cons arg args ih => rw [argumentNesting, Nat.max_le, ih, List.forall_mem_cons]

theorem nesting_lt_call {f : Builtin} {args : List Json} {arg : Json} (h : arg ∈ args) :
    nesting arg < nesting (.call f args) := by
  have ha := argumentNesting_le_iff.mp (Nat.le_refl (argumentNesting args)) arg h
  rw [nesting_call]
  omega

end Json

theorem Cause.kind_cast_ne (e : CastError) : (Cause.cast e).kind ≠ .tooDeep := by
  simp [kind_eq_tooDeep_iff]

namespace Expr

variable {env : Environment} {limit : Nat}

/-! ## Failures for depth -/

/-- An expression fails for depth only if more calls are nested in it than the limit allows. -/
theorem Fails.limit_lt_nesting {path : Path} {node : Json} {failure : Failure}
    (h : Fails env limit path node failure) (hk : failure.cause.kind = .tooDeep)
    (he : isExpression node = true) : limit < path.length + node.nesting := by
  induction h with
  | @tooDeep path node hl =>
    obtain ⟨f, args, rfl⟩ := isExpression_iff.mp he
    rw [Json.nesting_call]
    omega
  | literal _ hn => simp [hn] at he
  | @argument path f args i arg failure _ hi ha _ ih =>
    have hlt := Json.nesting_lt_call (f := f) (List.mem_of_getElem? hi)
    have hd := ih hk ha
    rw [List.length_append, List.length_singleton] at hd
    omega
  | @argumentCast _ _ _ _ _ _ e => exact absurd hk (Cause.kind_cast_ne e)
  | call => cases hk

/-- A failure for depth lies exactly at the limit. -/
theorem Fails.length_eq {path : Path} {node : Json} {failure : Failure}
    (h : Fails env limit path node failure) (hk : failure.cause.kind = .tooDeep)
    (hp : path.length ≤ limit) : failure.path.length = limit := by
  induction h with
  | tooDeep hl => exact Nat.le_antisymm hp hl
  | @literal _ node =>
    rcases refusal_cases node with hr | ⟨name, hr⟩ <;> rw [hr] at hk <;> cases hk
  | argument hl _ _ _ ih => exact ih hk (by simp; omega)
  | @argumentCast _ _ _ _ _ _ e => exact absurd hk (Cause.kind_cast_ne e)
  | call => cases hk

/-! ## Values -/

/-- If arguments have values, each of them has one. -/
theorem evalArgument_eq_ok {path : Path} {f : Builtin} {i : Nat} {args : List Json}
    {values : List Value} (h : (evalArguments env limit path f i args).outcome = .ok values) :
    ∀ arg ∈ args, ∃ j raw, (evalNode env limit (path ++ [j]) arg).outcome = .ok raw := by
  induction args generalizing i values with
  | nil => simp
  | cons arg args ih =>
    simp only [evalArguments_cons, evalArgument, Run.outcome_bind, Except.bind_eq_ok_iff] at h
    obtain ⟨value, ⟨raw, hr, -⟩, rest, hs, -⟩ := h
    exact List.forall_mem_cons.mpr ⟨⟨_, raw, hr⟩, ih hs⟩

/-- What has a value has no more nested calls than the limit allows. -/
theorem nesting_le_of_evalNode {path : Path} {node : Json} {v : Value} (hp : path.length ≤ limit)
    (h : (evalNode env limit path node).outcome = .ok v) : path.length + node.nesting ≤ limit := by
  induction node using expression_induction generalizing path v with
  | literal node hn => rwa [Json.nesting_literal hn]
  | call f args ih =>
    rw [evalNode_expression (isExpression_call f args)] at h
    rcases Nat.lt_or_ge path.length limit with hl | hl
    · rw [eval_call hl, Run.outcome_bind, Except.bind_eq_ok_iff] at h
      obtain ⟨values, hv, -⟩ := h
      have ha : Json.argumentNesting args ≤ limit - (path.length + 1) := by
        refine Json.argumentNesting_le_iff.mpr fun arg harg => ?_
        obtain ⟨j, raw, hr⟩ := evalArgument_eq_ok hv arg harg
        have hd := ih arg harg (by simp; omega) hr
        rw [List.length_append, List.length_singleton] at hd
        omega
      rw [Json.nesting_call]
      omega
    · rw [eval_tooDeep hl] at h
      cases h

end Expr

/-! ## Higher limits -/

/-- A run ends with a failure for depth. -/
def Run.IsTooDeep {α : Type} (r : Run α) : Prop :=
  ∃ failure, r.outcome = .error failure ∧ failure.cause.kind = .tooDeep

/-- A run with a higher limit goes as it did before, unless it failed for depth. -/
def Run.Raises {α : Type} (r r' : Run α) : Prop := r.IsTooDeep ∨ r' = r

theorem Run.Raises.refl {α : Type} (r : Run α) : r.Raises r := .inr rfl

/-- Runs one after another go as before, if each of them does. -/
theorem Run.Raises.bind {α β : Type} {r r' : Run α} {next next' : α → Run β} (hr : r.Raises r')
    (hn : ∀ a, (next a).Raises (next' a)) : (r >>= next).Raises (r' >>= next') := by
  rcases hr with ⟨failure, hf, hk⟩ | rfl
  · exact .inl ⟨failure, by simp [hf, Except.bind], hk⟩
  · cases h : r'.outcome with
    | error failure =>
      rw [bind_of_error h, bind_of_error h]
      exact .refl _
    | ok a =>
      rw [bind_of_ok h, bind_of_ok h]
      rcases hn a with ⟨failure, hf, hk⟩ | ha
      · exact .inl ⟨failure, hf, hk⟩
      · rw [ha]
        exact .refl _

namespace Expr

variable {env : Environment} {limit limit' : Nat}

/-- A node goes as before with a higher limit, if it does as an expression. -/
theorem evalNode_raises {path : Path} {node : Json}
    (h : (eval env limit path node).Raises (eval env limit' path node)) :
    (evalNode env limit path node).Raises (evalNode env limit' path node) := by
  by_cases he : isExpression node = true
  · rwa [evalNode_expression he, evalNode_expression he]
  · rw [Bool.not_eq_true] at he
    rw [evalNode_literal he, evalNode_literal he]
    exact .refl _

/-- Arguments go as before with a higher limit, if each of them does. -/
theorem evalArguments_raises {path : Path} {f : Builtin} {i : Nat} {args : List Json}
    (h : ∀ arg ∈ args, ∀ path, (eval env limit path arg).Raises (eval env limit' path arg)) :
    (evalArguments env limit path f i args).Raises (evalArguments env limit' path f i args) := by
  induction args generalizing i with
  | nil =>
    rw [evalArguments_nil, evalArguments_nil]
    exact .refl _
  | cons arg args ih =>
    have hn := evalNode_raises (h arg (by simp) (path ++ [i + 1]))
    rw [evalArguments_cons, evalArguments_cons]
    refine .bind (hn.bind fun raw => .refl _) fun value => ?_
    exact .bind (ih fun arg ha => h arg (List.mem_cons_of_mem _ ha)) fun values => .refl _

/-- A node goes as before with a higher limit. -/
theorem eval_raises (env : Environment) (h : limit ≤ limit') (path : Path) (node : Json) :
    (eval env limit path node).Raises (eval env limit' path node) := by
  induction node using expression_induction generalizing path with
  | literal node hn =>
    rcases Nat.lt_or_ge path.length limit with hl | hl
    · rw [eval_literal env hl hn, eval_literal env (by omega) hn]
      exact .refl _
    · rw [eval_tooDeep hl]
      exact .inl ⟨_, rfl, rfl⟩
  | call f args ih =>
    rcases Nat.lt_or_ge path.length limit with hl | hl
    · rw [eval_call hl, eval_call (by omega)]
      exact .bind (evalArguments_raises ih) fun values => .refl _
    · rw [eval_tooDeep hl]
      exact .inl ⟨_, rfl, rfl⟩

variable {options : Options} {root : Json}

theorem kind_of_finish {v : Value} {failure : Failure}
    (h : (finish options v).outcome = .error failure) : failure.cause.kind ≠ .tooDeep := by
  obtain ⟨e, rfl⟩ := exists_of_finish h
  exact Cause.kind_cast_ne e

/-- A whole evaluation goes as before with a higher limit. -/
theorem evaluateStrictly_raises (env : Environment) (h : options.limit ≤ limit') (root : Json) :
    (evaluateStrictly env options root).Raises
      (evaluateStrictly env { options with limit := limit' } root) := by
  exact (evalNode_raises (eval_raises env h [] root)).bind fun v => .refl _

/-- A whole evaluation fails for depth only if the expression itself does. -/
theorem fails_of_isTooDeep {failure : Failure}
    (h : (evaluateStrictly env options root).outcome = .error failure)
    (hk : failure.cause.kind = .tooDeep) :
    isExpression root = true ∧ Fails env options.limit [] root failure := by
  rw [evaluateStrictly, Run.outcome_bind, Except.bind_eq_error_iff] at h
  rcases h with h | ⟨v, -, h⟩
  · by_cases he : isExpression root = true
    · rw [evalNode_expression he] at h
      exact ⟨he, fails_of_eval h⟩
    · rw [evalNode_literal (by simpa using he)] at h
      cases h
  · exact absurd hk (kind_of_finish h)

end Expr

/-! ## Whole evaluations -/

/-- A whole evaluation fails for depth. -/
def Evaluation.IsTooDeep (x : Evaluation) : Prop :=
  ∃ e, x.outcome = .error e ∧ e.cause.kind = .tooDeep

variable {options : Options}

theorem Run.isTooDeep_inside_iff {r : Run Value} {root : Json} :
    (r.inside root).IsTooDeep ↔ r.IsTooDeep := by
  unfold Evaluation.IsTooDeep IsTooDeep inside
  cases r.outcome with
  | ok v => simp
  | error failure => simp [Failure.inside]

/-- Without a default, an evaluation fails for depth only if more calls are nested in the expression
than the limit allows, and then it has no value; the failure names the limit and lies exactly there.
Else a higher limit changes neither the events nor the outcome. -/
theorem evaluate_depth (env : Environment) (h : options.default = none) (root : Json) :
    (root.nesting ≤ options.limit → ¬(evaluate env options root).IsTooDeep) ∧
    (options.limit < root.nesting → ∃ e, (evaluate env options root).outcome = .error e) ∧
    (∀ e, (evaluate env options root).outcome = .error e → e.cause.kind = .tooDeep →
      e.cause = .tooDeep options.limit ∧ e.path.length = options.limit) ∧
    ∀ limit', options.limit ≤ limit' → ¬(evaluate env options root).IsTooDeep →
      evaluate env { options with limit := limit' } root = evaluate env options root := by
  refine ⟨fun hl he => ?_, fun hl => ?_, fun e he hk => ?_, fun limit' hl hd => ?_⟩
  · rw [evaluate_of_default_eq_none h, Run.isTooDeep_inside_iff] at he
    obtain ⟨failure, hf, hk⟩ := he
    obtain ⟨hr, hf⟩ := Expr.fails_of_isTooDeep hf hk
    have hlt := hf.limit_lt_nesting hk hr
    rw [List.length_nil] at hlt
    omega
  · rw [evaluate_of_default_eq_none h]
    cases ho : (Expr.evaluateStrictly env options root).outcome with
    | error failure => exact ⟨failure.inside root, by simp [Run.inside, ho]⟩
    | ok v =>
      rw [Expr.evaluateStrictly, Run.outcome_bind, Except.bind_eq_ok_iff] at ho
      obtain ⟨w, hw, -⟩ := ho
      have hle := Expr.nesting_le_of_evalNode (Nat.zero_le _) hw
      rw [List.length_nil] at hle
      omega
  · obtain ⟨failure, hf, rfl⟩ := exists_failure_of_evaluate he
    obtain ⟨-, hf⟩ := Expr.fails_of_isTooDeep hf hk
    obtain ⟨n, hn⟩ := Cause.kind_eq_tooDeep_iff.mp hk
    obtain ⟨cause, path⟩ := failure
    obtain rfl : cause = .tooDeep n := hn
    obtain rfl := hf.limit_eq
    exact ⟨rfl, hf.length_eq hk (Nat.zero_le _)⟩
  · have hr := Expr.evaluateStrictly_raises env hl root
    rw [evaluate_of_default_eq_none h, Run.isTooDeep_inside_iff] at hd
    rw [evaluate_of_default_eq_none h, evaluate_of_default_eq_none (by exact h)]
    rw [hr.resolve_left hd]

/-- Four calls nested in one another, one of them behind a literal, fail for depth under the limit three
and give the same value under the limit four as under the default one. -/
theorem not_and_depth :
    let root := Json.call .not [.call .not [.call .and [.bool true, .call .not [.bool false]]]]
    let e : EvalError := ⟨.tooDeep 3, root, [1, 1, 2]⟩
    (evaluate {} { limit := 3 } root).outcome = .error e ∧ e.path.length = 3 ∧
      ¬(evaluate {} { limit := 4 } root).IsTooDeep ∧
      evaluate {} {} root = evaluate {} { limit := 4 } root := by
  intro root e
  have hn : root.nesting = 4 := rfl
  have he : (evaluate {} { limit := 3 } root).outcome = .error e := rfl
  have three := evaluate_depth {} (show ({ limit := 3 } : Options).default = none from rfl) root
  have four := evaluate_depth {} (show ({ limit := 4 } : Options).default = none from rfl) root
  have hd := four.1 (Nat.le_of_eq hn)
  exact ⟨he, (three.2.2.1 e he rfl).2, hd, four.2.2.2 defaultLimit (by decide) hd⟩

end FormLang
