import FormLang.Proofs.Expr.CallOrder

/-!
# What a run records

A call that ends is recorded twice in a row, at its start and at its end (`FinishedCall.events`). A run
follows an order of calls (`Run.Follows`) if it makes them one after the other, all of them if it ends
with a value; if it fails, it stops between two calls, or else in a function that itself fails, whose
start is then the last event. An evaluation follows the order of the calls in its expression, and these
are all that it can reach (`eval_makes_calls_in_order`).
-/

namespace FormLang

/-- A call that has ended. -/
structure FinishedCall where
  path : Path
  function : Builtin
  args : List Value
  result : Value

namespace FinishedCall

/-- Where the call stands in the expression, and which function it calls. -/
def site (c : FinishedCall) : Path × Builtin := (c.path, c.function)

/-- What is recorded of the call. -/
def events (c : FinishedCall) : List Event :=
  [.before c.path c.function c.args, .after c.path c.function c.args c.result]

/-- The result is what the function gives for the arguments, cast to its declared type. -/
def IsCorrect (env : Environment) (c : FinishedCall) : Prop :=
  ∃ raw, c.function.call env c.args = .ok raw ∧
    raw.cast (some c.function.signature.result) .result = .ok c.result

end FinishedCall

/-- How a run can go that makes calls in a given order. -/
inductive Run.Follows {α : Type} (env : Environment) (order : List (Path × Builtin)) :
    Run α → Prop where
  /-- All calls are made, and the run ends with a value. -/
  | ends (calls : List FinishedCall) {a : α} (hc : ∀ c ∈ calls, c.IsCorrect env)
    (ho : calls.map (·.site) = order) : Follows env order ⟨calls.flatMap (·.events), .ok a⟩
  /-- The run fails between two calls. -/
  | stops (calls : List FinishedCall) {failure : Failure} (hc : ∀ c ∈ calls, c.IsCorrect env)
    (ho : calls.map (·.site) <+: order) (hf : ∀ e, failure.cause ≠ .call e) :
    Follows env order ⟨calls.flatMap (·.events), .error failure⟩
  /-- The run fails in the next call. -/
  | breaks (calls : List FinishedCall) {path : Path} {f : Builtin} {args : List Value}
    {e : CallError} (hc : ∀ c ∈ calls, c.IsCorrect env)
    (ho : calls.map (·.site) ++ [(path, f)] <+: order) (hf : f.call env args = .error e) :
    Follows env order
      ⟨calls.flatMap (·.events) ++ [.before path f args], .error ⟨.call e, path⟩⟩

namespace Run.Follows

variable {α β : Type} {env : Environment} {order order' : List (Path × Builtin)}

theorem pure (a : α) : (Pure.pure a : Run α).Follows env [] :=
  .ends [] (by simp) rfl

theorem fail {path : Path} {cause : Cause} (h : ∀ e, cause ≠ .call e) :
    (Run.fail path cause : Run α).Follows env order :=
  .stops [] (by simp) List.nil_prefix h

/-- Calls that were made before come before those of the rest of the run. -/
theorem after {calls : List FinishedCall} (hc : ∀ c ∈ calls, c.IsCorrect env)
    (ho : calls.map (·.site) = order) {r : Run α} (hr : r.Follows env order') :
    (⟨calls.flatMap (·.events) ++ r.events, r.outcome⟩ : Run α).Follows env (order ++ order') := by
  subst ho
  cases hr with
  | ends calls' hc' ho' =>
    rw [← List.flatMap_append]
    exact .ends _ (List.forall_mem_append.mpr ⟨hc, hc'⟩) (by simp [ho'])
  | stops calls' hc' ho' hf =>
    rw [← List.flatMap_append]
    refine .stops _ (List.forall_mem_append.mpr ⟨hc, hc'⟩) ?_ hf
    rw [List.map_append]
    exact (List.prefix_append_right_inj _).mpr ho'
  | breaks calls' hc' ho' hf =>
    rw [← List.append_assoc, ← List.flatMap_append]
    refine .breaks _ (List.forall_mem_append.mpr ⟨hc, hc'⟩) ?_ hf
    rw [List.map_append, List.append_assoc]
    exact (List.prefix_append_right_inj _).mpr ho'

/-- A run that is followed by another makes the calls of both, unless it fails. -/
theorem bind {r : Run α} {next : α → Run β} (hr : r.Follows env order)
    (hn : ∀ a, (next a).Follows env order') : (r >>= next).Follows env (order ++ order') := by
  cases hr with
  | ends calls hc ho =>
    rw [Run.bind_of_ok rfl]
    exact after hc ho (hn _)
  | stops calls hc ho hf =>
    rw [Run.bind_of_error rfl]
    exact .stops calls hc (ho.trans (List.prefix_append _ _)) hf
  | breaks calls hc ho hf =>
    rw [Run.bind_of_error rfl]
    exact .breaks calls hc (ho.trans (List.prefix_append _ _)) hf

end Run.Follows

namespace Expr

variable {env : Environment} {limit : Nat}

theorem castAt_follows (path : Path) (role : CastRole) (target : Option ValueType) (v : Value) :
    (castAt path role target v).Follows env [] := by
  rw [castAt]
  cases v.cast target role with
  | ok w => exact .pure w
  | error e => exact .fail fun _ => by simp

theorem callAt_follows (path : Path) (f : Builtin) (args : List Value) :
    (callAt env path f args).Follows env [(path, f)] := by
  rcases callAt_cases env path f args with ⟨e, hc, he⟩ | ⟨raw, result, hc, hr, -, he⟩ <;> rw [he]
  · exact .breaks [] (by simp) List.prefix_rfl hc
  · exact .ends [⟨path, f, args, result⟩] (by simpa using ⟨raw, hc, hr⟩) rfl

/-- Arguments follow their order, if each of them does. -/
theorem evalArguments_follows {path : Path} {f : Builtin} {i : Nat} {args : List Json}
    (h : ∀ arg ∈ args, ∀ path, (eval env limit path arg).Follows env (callOrder path arg)) :
    (evalArguments env limit path f i args).Follows env (argumentOrder path i args) := by
  induction args generalizing i with
  | nil =>
    rw [evalArguments_nil, argumentOrder_nil]
    exact .pure []
  | cons arg args ih =>
    have hn : (evalNode env limit (path ++ [i + 1]) arg).Follows env
        (callOrder (path ++ [i + 1]) arg) := by
      by_cases he : isExpression arg = true
      · rw [evalNode_expression he]
        exact h arg (by simp) _
      · rw [Bool.not_eq_true] at he
        rw [evalNode_literal he, callOrder_literal _ he]
        exact .pure _
    have ha : (evalArgument env limit path f i arg).Follows env
        (callOrder (path ++ [i + 1]) arg ++ []) :=
      hn.bind fun raw => castAt_follows ..
    have hs := ih (i := i + 1) fun arg ha => h arg (List.mem_cons_of_mem _ ha)
    rw [List.append_nil] at ha
    rw [evalArguments_cons, argumentOrder_cons]
    refine ha.bind fun value => ?_
    have hp := hs.bind fun values => Run.Follows.pure (value :: values)
    rwa [List.append_nil] at hp

/-- Every evaluation follows the order of the calls in its expression. -/
theorem follows_of_eval (env : Environment) (limit : Nat) (path : Path) (node : Json) :
    (eval env limit path node).Follows env (callOrder path node) := by
  induction node using expression_induction generalizing path with
  | literal node hn =>
    rcases Nat.lt_or_ge path.length limit with hl | hl
    · rw [eval_literal env hl hn]
      rcases refusal_cases node with h | ⟨name, h⟩ <;> rw [h] <;> exact .fail fun _ => by simp
    · rw [eval_tooDeep hl]
      exact .fail fun _ => by simp
  | call f args ih =>
    rcases Nat.lt_or_ge path.length limit with hl | hl
    · rw [eval_call hl, callOrder_call]
      exact (evalArguments_follows ih).bind fun values => callAt_follows ..
    · rw [eval_tooDeep hl]
      exact .fail fun _ => by simp

/-- An evaluation makes its calls in their order. They are all the calls that paths to arguments lead
to, and each of them is made once at most. -/
theorem eval_makes_calls_in_order (env : Environment) (limit : Nat) (path : Path) (node : Json) :
    (eval env limit path node).Follows env (callOrder path node) ∧
      ((callOrder path node).map Prod.fst).Nodup ∧
      ∀ p f, (p, f) ∈ callOrder path node ↔
        ∃ q args, p = path ++ q ∧ q.IsArgument node ∧ Path.node? q node = some (.call f args) :=
  ⟨follows_of_eval env limit path node, nodup_callOrder path node, fun _ _ => mem_callOrder_iff⟩

end Expr

end FormLang
