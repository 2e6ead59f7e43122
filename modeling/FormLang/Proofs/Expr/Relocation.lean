import FormLang.Proofs.Expr.Failures

/-!
# Evaluating a part of an expression alone

An expression evaluates at a path inside a larger one as it evaluates alone, with a limit that is lower
by the length of the path: all paths of its run are prolonged at their start (`Run.under`), and only
a failure for depth names another limit (`eval_under`). `Relocated` says what that means for the
outcome, and `eval_relocated` states both for the events and the outcome.
-/

namespace FormLang

variable {α β : Type}

/-! ## Runs below a path -/

/-- An event as it is recorded below a path. -/
def Event.under (p : Path) : Event → Event
  | .before path f args => .before (p ++ path) f args
  | .after path f args result => .after (p ++ path) f args result

/-- A cause as it arises some levels further down, where the limit counts from the root. -/
def Cause.under (levels : Nat) : Cause → Cause
  | .tooDeep limit => .tooDeep (levels + limit)
  | cause => cause

theorem Cause.kind_eq_tooDeep_iff {cause : Cause} :
    cause.kind = .tooDeep ↔ ∃ n, cause = .tooDeep n := by
  constructor
  · intro h
    unfold kind at h
    split at h <;> cases h
    exact ⟨_, rfl⟩
  · rintro ⟨n, rfl⟩
    rfl

/-- The limit matters to failures for depth only. -/
theorem Cause.under_of_kind_ne {cause : Cause} (h : cause.kind ≠ .tooDeep) (levels : Nat) :
    cause.under levels = cause := by
  unfold under
  split
  · exact absurd rfl h
  · rfl

/-- A failure as it arises below a path. -/
def Failure.under (p : Path) (failure : Failure) : Failure :=
  ⟨failure.cause.under p.length, p ++ failure.path⟩

/-- A run as it goes below a path. -/
def Run.under (p : Path) (r : Run α) : Run α :=
  ⟨r.events.map (·.under p), r.outcome.mapError (·.under p)⟩

namespace Run

variable (p : Path)

@[simp] theorem under_pure (a : α) : (pure a : Run α).under p = pure a := rfl

@[simp] theorem under_emit (event : Event) : (emit event).under p = emit (event.under p) := rfl

@[simp] theorem under_fail (path : Path) (cause : Cause) :
    (fail path cause : Run α).under p = fail (p ++ path) (cause.under p.length) := rfl

theorem under_ofExcept {ε : Type} (path : Path) {toCause : ε → Cause} (x : Except ε α)
    (h : ∀ e, (toCause e).under p.length = toCause e) :
    (ofExcept path toCause x).under p = ofExcept (p ++ path) toCause x := by
  cases x with
  | ok a => rfl
  | error e => simp [ofExcept, h]

@[simp] theorem under_bind (r : Run α) (next : α → Run β) :
    (r >>= next).under p = r.under p >>= fun a => (next a).under p := by
  cases h : r.outcome with
  | error failure =>
    have hu : (r.under p).outcome = .error (failure.under p) := by simp [under, h]
    rw [bind_of_error h, bind_of_error hu]
    simp [under]
  | ok a =>
    have hu : (r.under p).outcome = .ok a := by simp [under, h]
    rw [bind_of_ok h, bind_of_ok hu]
    simp [under]

end Run

/-! ## Evaluations below a path -/

namespace Expr

variable {env : Environment} {limit : Nat}

theorem castAt_under (p path : Path) (role : CastRole) (target : Option ValueType) (v : Value) :
    castAt (p ++ path) role target v = (castAt path role target v).under p := by
  rw [castAt, castAt, Run.under_ofExcept p path _ fun _ => rfl]

theorem callAt_under (p path : Path) (f : Builtin) (args : List Value) :
    callAt env (p ++ path) f args = (callAt env path f args).under p := by
  have hc : Run.ofExcept (p ++ path) .call (f.call env args) =
      (Run.ofExcept path .call (f.call env args)).under p :=
    (Run.under_ofExcept p path _ fun _ => rfl).symm
  simp only [callAt, Run.under_bind, Run.under_emit, Run.under_pure, castAt_under, hc, Event.under]

theorem refusal_under (levels : Nat) (node : Json) :
    (refusal node).under levels = refusal node := by
  rcases refusal_cases node with h | ⟨name, h⟩ <;> rw [h] <;> rfl

/-- The arguments are evaluated below a path as they are alone, if each of them is. -/
theorem evalArguments_under {p path : Path} {f : Builtin} {i : Nat} {args : List Json}
    (h : ∀ arg ∈ args, ∀ path,
      eval env (p.length + limit) (p ++ path) arg = (eval env limit path arg).under p) :
    evalArguments env (p.length + limit) (p ++ path) f i args =
      (evalArguments env limit path f i args).under p := by
  induction args generalizing i with
  | nil => simp
  | cons arg args ih =>
    have ha : evalNode env (p.length + limit) (p ++ (path ++ [i + 1])) arg =
        (evalNode env limit (path ++ [i + 1]) arg).under p := by
      by_cases he : isExpression arg = true
      · rw [evalNode_expression he, evalNode_expression he, h arg (by simp)]
      · rw [Bool.not_eq_true] at he
        rw [evalNode_literal he, evalNode_literal he, Run.under_pure]
    have hs := ih (i := i + 1) fun arg ha => h arg (List.mem_cons_of_mem _ ha)
    simp only [evalArguments_cons, evalArgument, Run.under_bind, Run.under_pure, List.append_assoc,
      ha, castAt_under, hs]

/-- Below a path, a node is evaluated as it is alone. -/
theorem eval_under (p path : Path) (node : Json) :
    eval env (p.length + limit) (p ++ path) node = (eval env limit path node).under p := by
  induction node using expression_induction generalizing path with
  | literal node hn =>
    rcases Nat.lt_or_ge path.length limit with hl | hl
    · rw [eval_literal env hl hn, eval_literal env (by simpa using hl) hn, Run.under_fail,
        refusal_under]
    · rw [eval_tooDeep hl, eval_tooDeep (by simpa using hl)]
      rfl
  | call f args ih =>
    rcases Nat.lt_or_ge path.length limit with hl | hl
    · rw [eval_call hl, eval_call (by simpa using hl), Run.under_bind, evalArguments_under ih]
      congr 1
      funext values
      exact callAt_under p path f values
    · rw [eval_tooDeep hl, eval_tooDeep (by simpa using hl)]
      rfl

/-- Also a literal has below a path the value that it has alone. -/
theorem evalNode_under (p path : Path) (node : Json) :
    evalNode env (p.length + limit) (p ++ path) node = (evalNode env limit path node).under p := by
  by_cases h : isExpression node = true
  · rw [evalNode_expression h, evalNode_expression h, eval_under]
  · rw [Bool.not_eq_true] at h
    rw [evalNode_literal h, evalNode_literal h, Run.under_pure]

/-- What the outcome alone means for the outcome below a path of another expression. -/
inductive Relocated (limit : Nat) (p : Path) (node root : Json) :
    Except EvalError Value → Except EvalError Value → Prop where
  | value (v : Value) : Relocated limit p node root (.ok v) (.ok v)
  | error {cause : Cause} {path : Path} (h : cause.kind ≠ .tooDeep) :
    Relocated limit p node root (.error ⟨cause, node, path⟩) (.error ⟨cause, root, p ++ path⟩)
  | tooDeep {path : Path} :
    Relocated limit p node root (.error ⟨.tooDeep (limit - p.length), node, path⟩)
      (.error ⟨.tooDeep limit, root, p ++ path⟩)

/-- A run alone and the same run below a path end in outcomes that correspond, if failures for depth
name the limit. -/
theorem relocated_of_under {run : Run Value} {limit : Nat} {p : Path} (node root : Json)
    (hp : p.length ≤ limit)
    (hl : ∀ n q, run.outcome = .error ⟨.tooDeep n, q⟩ → n = limit - p.length) :
    Relocated limit p node root (run.inside node).outcome ((run.under p).inside root).outcome := by
  simp only [Run.inside, Run.under]
  cases h : run.outcome with
  | ok v => exact .value v
  | error failure =>
    obtain ⟨cause, q⟩ := failure
    simp only [Except.mapError_error, Failure.inside, Failure.under]
    by_cases hk : cause.kind = .tooDeep
    · obtain ⟨n, rfl⟩ := Cause.kind_eq_tooDeep_iff.mp hk
      obtain rfl := hl n q h
      rw [Cause.under, Nat.add_sub_cancel' hp]
      exact .tooDeep
    · rw [Cause.under_of_kind_ne hk]
      exact .error hk

/-- An expression inside another one evaluates as it evaluates alone: with the same events but for
their paths, to the same value or with the same cause at the same place. -/
theorem eval_relocated (env : Environment) (limit : Nat) (p : Path) (node root : Json) :
    let alone := (eval env (limit - p.length) [] node).inside node
    let inside := (eval env limit p node).inside root
    inside.events = alone.events.map (·.under p) ∧
      Relocated limit p node root alone.outcome inside.outcome := by
  intro alone inside
  rcases Nat.le_total p.length limit with hp | hp
  · have hu : eval env limit p node = (eval env (limit - p.length) [] node).under p := by
      rw [← eval_under, List.append_nil, Nat.add_sub_cancel' hp]
    have hi : inside = ((eval env (limit - p.length) [] node).under p).inside root := by
      rw [← hu]
    rw [hi]
    exact ⟨rfl, relocated_of_under node root hp fun n q h => (fails_of_eval h).limit_eq⟩
  · have ha : alone = (Run.fail [] (.tooDeep (limit - p.length))).inside node :=
      congrArg (·.inside node) (eval_tooDeep (by simp [hp]) node)
    have hi : inside = (Run.fail p (.tooDeep limit)).inside root :=
      congrArg (·.inside root) (eval_tooDeep hp node)
    rw [ha, hi]
    refine ⟨rfl, ?_⟩
    have h : Relocated limit p node root (.error ⟨.tooDeep (limit - p.length), node, []⟩)
        (.error ⟨.tooDeep limit, root, p ++ []⟩) := .tooDeep
    rwa [List.append_nil] at h

end Expr

end FormLang
