import FormLang.Expr.Evaluate
import FormLang.Proofs.Calls.Results

/-!
# How evaluations go

What one step of an evaluation does, said once for each of its functions, so that no later proof opens
their definitions:

* `expression_induction`: a property of literals, and of calls if it holds of their arguments, holds of
  all nodes;
* `eval_tooDeep`, `eval_literal`, `eval_call`: the three ways in which an evaluation starts;
* `evalArguments_cons`: the arguments are evaluated one after the other (`evalArgument`);
* `callAt_cases`: a call fails after its start is recorded, or its start and its end are recorded;
* `evaluate_of_default_eq_none`: without a default, a whole evaluation is a run and its final cast.
-/

namespace FormLang

namespace Builtin

@[simp] theorem ofName?_name (f : Builtin) : ofName? f.name = some f := by cases f <;> decide

theorem name_of_ofName? {name : String} {f : Builtin} (h : ofName? name = some f) :
    f.name = name := by
  simpa using List.find?_some h

theorem name_injective {f g : Builtin} (h : f.name = g.name) : f = g := by
  have hs : some f = some g := by rw [← ofName?_name f, h, ofName?_name]
  exact Option.some.inj hs

end Builtin

/-- The expression that calls a function with arguments. -/
abbrev Json.call (f : Builtin) (args : List Json) : Json := .array (.string f.name :: args)

theorem Json.call_inj {f g : Builtin} {args args' : List Json} :
    Json.call f args = .call g args' ↔ f = g ∧ args = args' := by
  constructor
  · intro h
    simp only [Json.array.injEq, List.cons.injEq, Json.string.injEq] at h
    exact ⟨Builtin.name_injective h.1, h.2⟩
  · rintro ⟨rfl, rfl⟩
    rfl

@[simp] theorem isExpression_call (f : Builtin) (args : List Json) :
    isExpression (.call f args) = true := by
  simp [isExpression]

/-- The expressions are the calls. -/
theorem isExpression_iff {node : Json} : isExpression node = true ↔ ∃ f args, node = .call f args := by
  constructor
  · intro h
    unfold isExpression at h
    split at h
    · rename_i name args
      obtain ⟨f, hf⟩ := Option.isSome_iff_exists.mp h
      rw [← Builtin.name_of_ofName? hf]
      exact ⟨f, args, rfl⟩
    · cases h
  · rintro ⟨f, args, rfl⟩
    exact isExpression_call f args

/-- What holds of every literal, and of a call if it holds of its arguments, holds of every node. -/
@[elab_as_elim]
theorem expression_induction {P : Json → Prop} (node : Json)
    (literal : ∀ node, isExpression node = false → P node)
    (call : ∀ f args, (∀ arg ∈ args, P arg) → P (.call f args)) : P node := by
  -- Fields of objects are never evaluated, so nothing is to be shown of them.
  refine @Json.rec P (fun items => ∀ item ∈ items, P item) (fun _ => True) (fun _ => True)
    (literal _ rfl) (fun _ => literal _ rfl) (fun _ => literal _ rfl) (fun _ => literal _ rfl)
    (fun items ih => ?_) (fun _ _ => literal _ rfl) (by simp) (fun item items ih ihs => ?_) trivial
    (fun _ _ _ _ => trivial) (fun _ _ _ => trivial) node
  · by_cases h : isExpression (.array items) = true
    · obtain ⟨f, args, hf⟩ := isExpression_iff.mp h
      cases hf
      exact call f args fun arg ha => ih arg (List.mem_cons_of_mem _ ha)
    · exact literal _ (by simpa using h)
  · exact List.forall_mem_cons.mpr ⟨ih, ihs⟩

namespace Expr

variable {env : Environment} {limit : Nat} {path : Path}

/-! ## Nodes -/

theorem evalNode_expression {node : Json} (h : isExpression node = true) :
    evalNode env limit path node = eval env limit path node := by
  simp [evalNode, h]

theorem evalNode_literal {node : Json} (h : isExpression node = false) :
    evalNode env limit path node = pure (Value.ofJson node) := by
  simp [evalNode, h]

/-- Below the limit nothing is evaluated. -/
theorem eval_tooDeep (h : limit ≤ path.length) (node : Json) :
    eval env limit path node = .fail path (.tooDeep limit) := by
  unfold eval
  split <;> simp [h]

/-- Why a node that is no expression is not evaluated. -/
def refusal : Json → Cause
  | .array (.string name :: _) => .unknownFunction name
  | node => .notAnExpression node

theorem refusal_cases (node : Json) :
    refusal node = .notAnExpression node ∨ ∃ name, refusal node = .unknownFunction name := by
  unfold refusal
  split
  · exact .inr ⟨_, rfl⟩
  · exact .inl rfl

/-- What is no expression is not evaluated. -/
theorem eval_literal (env : Environment) {node : Json} (h : path.length < limit)
    (hn : isExpression node = false) : eval env limit path node = .fail path (refusal node) := by
  have h' : ¬limit ≤ path.length := by omega
  unfold eval refusal
  split
  · rename_i name args
    have hf : Builtin.ofName? name = none := by simpa [isExpression] using hn
    simp [h', hf]
  · simp [h']

/-- A call evaluates its arguments, and then calls the function. -/
theorem eval_call (h : path.length < limit) (f : Builtin) (args : List Json) :
    eval env limit path (.call f args) =
      evalArguments env limit path f 0 args >>= callAt env path f := by
  have h' : ¬limit ≤ path.length := by omega
  rw [eval, if_neg h', Builtin.ofName?_name]

/-! ## Arguments -/

/-- Evaluates the argument of a function at an index, and casts it. -/
def evalArgument (env : Environment) (limit : Nat) (path : Path) (f : Builtin) (i : Nat)
    (node : Json) : Run Value := do
  let raw ← evalNode env limit (path ++ [i + 1]) node
  castAt (path ++ [i + 1]) .argument (f.signature.typeAt? i) raw

@[simp] theorem evalArguments_nil (f : Builtin) (i : Nat) :
    evalArguments env limit path f i [] = pure [] := by
  rw [evalArguments]

/-- The arguments are evaluated from left to right. -/
theorem evalArguments_cons (f : Builtin) (i : Nat) (node : Json) (nodes : List Json) :
    evalArguments env limit path f i (node :: nodes) = (do
      let value ← evalArgument env limit path f i node
      let values ← evalArguments env limit path f (i + 1) nodes
      pure (value :: values)) := by
  rw [evalArgument, Run.bind_assoc, evalArguments]
  by_cases h : isExpression node = true
  · rw [if_pos h, evalNode_expression h]
  · rw [if_neg h, evalNode_literal (by simpa using h)]

/-! ## Calls -/

/-- A call fails after its start is recorded, or its start and its end are recorded. -/
theorem callAt_cases (env : Environment) (path : Path) (f : Builtin) (args : List Value) :
    (∃ e, f.call env args = .error e ∧
      callAt env path f args = ⟨[.before path f args], .error ⟨.call e, path⟩⟩) ∨
    ∃ raw result, f.call env args = .ok raw ∧
      raw.cast (some f.signature.result) .result = .ok result ∧
      result.fits f.signature.result = true ∧
      callAt env path f args =
        ⟨[.before path f args, .after path f args result], .ok result⟩ := by
  cases h : f.call env args with
  | error e =>
    refine .inl ⟨e, rfl, ?_⟩
    simp only [callAt, h]
    rfl
  | ok raw =>
    obtain ⟨result, hc, hf⟩ := Builtin.cast_of_call h
    have hr : castAt path .result (some f.signature.result) raw = .done result := by
      rw [castAt, hc]
      rfl
    refine .inr ⟨raw, result, rfl, hc, hf, ?_⟩
    simp only [callAt, h]
    change (do
      Run.emit (.before path f args)
      let result ← castAt path .result (some f.signature.result) raw
      Run.emit (.after path f args result)
      pure result) = _
    rw [hr]
    rfl

/-! ## Values of calls -/

/-- A call of a function that gives a value casts it to the declared type of the result. -/
theorem outcome_callAt {f : Builtin} {values : List Value} {raw v : Value} (hcall : f.call env values = .ok raw)
    (hcast : raw.castTo f.signature.result .result = .ok v) : (callAt env path f values).outcome = .ok v := by
  rcases callAt_cases env path f values with ⟨e, he, -⟩ | ⟨raw', result, hr, hc, -, h⟩
  · rw [hcall] at he
    cases he
  · obtain rfl := Except.ok.inj (hcall.symm.trans hr)
    obtain rfl := Except.ok.inj (hcast.symm.trans hc)
    rw [h]

/-- A call fails at its path if the function does. -/
theorem outcome_callAt_error {f : Builtin} {values : List Value} {e : CallError} (h : f.call env values = .error e) :
    (callAt env path f values).outcome = .error ⟨.call e, path⟩ := by
  rcases callAt_cases env path f values with ⟨e', he, hcall⟩ | ⟨raw, result, hr, -⟩
  · obtain rfl := Except.error.inj (h.symm.trans he)
    rw [hcall]
  · rw [h] at hr
    cases hr

/-- If the arguments of a call have values and the function gives one for them, it is cast to the declared
type of the result. -/
theorem outcome_eval_call (hl : path.length < limit) {f : Builtin} {args : List Json} {values : List Value}
    {raw v : Value} (hargs : (evalArguments env limit path f 0 args).outcome = .ok values)
    (hcall : f.call env values = .ok raw) (hcast : raw.castTo f.signature.result .result = .ok v) :
    (eval env limit path (.call f args)).outcome = .ok v := by
  rw [eval_call hl, Run.outcome_bind, hargs]
  exact outcome_callAt hcall hcast

/-- A call of a function that never fails ends like its arguments. -/
theorem outcome_eval_map (hl : path.length < limit) {f : Builtin} {result : List Value → Value}
    (hcall : ∀ values, ∃ raw, f.call env values = .ok raw ∧
      raw.castTo f.signature.result .result = .ok (result values)) (args : List Json) :
    (eval env limit path (.call f args)).outcome =
      (evalArguments env limit path f 0 args).outcome.map result := by
  rw [eval_call hl, Run.outcome_bind]
  cases (evalArguments env limit path f 0 args).outcome with
  | error failure => rfl
  | ok values =>
    obtain ⟨raw, hraw, hcast⟩ := hcall values
    exact outcome_callAt hraw hcast

/-- A call fails if its arguments do. -/
theorem outcome_eval_call_error (hl : path.length < limit) {f : Builtin} {args : List Json} {failure : Failure}
    (hargs : (evalArguments env limit path f 0 args).outcome = .error failure) :
    (eval env limit path (.call f args)).outcome = .error failure := by
  rw [eval_call hl, Run.outcome_bind, hargs]
  rfl

/-- A call at the limit fails where it stands. -/
theorem outcome_evalNode_tooDeep (hl : limit ≤ path.length) (f : Builtin) (args : List Json) :
    (evalNode env limit path (.call f args)).outcome = .error ⟨.tooDeep limit, path⟩ := by
  rw [evalNode_expression (isExpression_call ..), eval_tooDeep hl]
  rfl

/-- A function is called alike with arguments that end alike. -/
theorem outcome_evalNode_congr {f : Builtin} {args args' : List Json}
    (h : (evalArguments env limit path f 0 args).outcome = (evalArguments env limit path f 0 args').outcome) :
    (evalNode env limit path (.call f args)).outcome = (evalNode env limit path (.call f args')).outcome := by
  rcases Nat.lt_or_ge path.length limit with hl | hl
  · rw [evalNode_expression (isExpression_call ..), evalNode_expression (isExpression_call ..), eval_call hl,
      eval_call hl, Run.outcome_bind, Run.outcome_bind, h]
  · rw [outcome_evalNode_tooDeep hl, outcome_evalNode_tooDeep hl]

theorem outcome_evalArguments_nil (f : Builtin) (i : Nat) :
    (evalArguments env limit path f i []).outcome = .ok [] := by
  rw [evalArguments_nil]
  rfl

theorem outcome_evalArguments_cons {f : Builtin} {i : Nat} {node : Json} {nodes : List Json} {v : Value}
    {values : List Value} (h : (evalArgument env limit path f i node).outcome = .ok v)
    (hs : (evalArguments env limit path f (i + 1) nodes).outcome = .ok values) :
    (evalArguments env limit path f i (node :: nodes)).outcome = .ok (v :: values) := by
  simp [evalArguments_cons, h, hs, Except.bind]

theorem outcome_evalArguments_singleton (f : Builtin) (i : Nat) (node : Json) :
    (evalArguments env limit path f i [node]).outcome =
      (evalArgument env limit path f i node).outcome.map fun v => [v] := by
  rw [evalArguments_cons, evalArguments_nil, Run.outcome_bind]
  cases (evalArgument env limit path f i node).outcome <;> rfl

theorem outcome_evalArgument {f : Builtin} {i : Nat} {node : Json} {target : ValueType} {raw v : Value}
    (h : (evalNode env limit (path ++ [i + 1]) node).outcome = .ok raw)
    (ht : f.signature.typeAt? i = some target) (hcast : raw.castTo target .argument = .ok v) :
    (evalArgument env limit path f i node).outcome = .ok v := by
  have hat : (castAt (path ++ [i + 1]) .argument (some target) raw).outcome = .ok v := by
    rw [castAt, Value.cast, hcast]
    rfl
  rw [evalArgument, Run.outcome_bind, h, ht]
  exact hat

/-- An argument fails if its node does. -/
theorem outcome_evalArgument_error {f : Builtin} {i : Nat} {node : Json} {failure : Failure}
    (h : (evalNode env limit (path ++ [i + 1]) node).outcome = .error failure) :
    (evalArgument env limit path f i node).outcome = .error failure := by
  rw [evalArgument, Run.outcome_bind, h]
  rfl

/-- A function of two arguments of one type, called with two nodes that have values. -/
theorem outcome_evalNode_pair (hl : path.length < limit) {f : Builtin} {target : ValueType} {a b : Json}
    {x y u w raw v : Value}
    (hf : f.signature.typeAt? 0 = some target ∧ f.signature.typeAt? 1 = some target)
    (ha : (evalNode env limit (path ++ [1]) a).outcome = .ok x ∧ x.castTo target .argument = .ok u)
    (hb : (evalNode env limit (path ++ [2]) b).outcome = .ok y ∧ y.castTo target .argument = .ok w)
    (hcall : f.call env [u, w] = .ok raw) (hcast : raw.castTo f.signature.result .result = .ok v) :
    (evalNode env limit path (.call f [a, b])).outcome = .ok v := by
  rw [evalNode_expression (isExpression_call ..)]
  have hsecond : (evalArguments env limit path f 1 [b]).outcome = .ok [w] :=
    outcome_evalArguments_cons (outcome_evalArgument hb.1 hf.2 hb.2) (outcome_evalArguments_nil f 2)
  have hargs : (evalArguments env limit path f 0 [a, b]).outcome = .ok [u, w] :=
    outcome_evalArguments_cons (outcome_evalArgument ha.1 hf.1 ha.2) hsecond
  exact outcome_eval_call hl hargs hcall hcast

/-! ## Whole expressions -/

/-- A cast fails with an error at its path that is about the whole expression. -/
theorem outcome_inside_castAt (root : Json) (path : Path) (role : CastRole) (target : ValueType) (v : Value) :
    ((castAt path role (some target) v).inside root).outcome =
      (v.castTo target role).mapError fun e => ⟨.cast e, root, path⟩ := by
  rw [Run.inside, castAt, Run.outcome_ofExcept, Value.cast]
  cases v.castTo target role <;> rfl

theorem events_castResult (returnType : ValueType) (v : Value) :
    (castResult returnType v).events = [] := by
  unfold castResult castAt
  split
  · rfl
  · cases v.cast (some returnType) .result <;> rfl

/-- Nothing is recorded of what is done with the value of the whole expression. -/
theorem events_finish (options : Options) (v : Value) : (finish options v).events = [] := by
  unfold finish
  split
  · split
    · rfl
    · exact events_castResult ..
  · exact events_castResult ..

end Expr

variable {env : Environment} {options : Options} {root : Json}

/-- A run that ends with a value is the evaluation. -/
theorem evaluate_of_ok {v : Value} (h : (Expr.evaluateStrictly env options root).outcome = .ok v) :
    (evaluate env options root).outcome = .ok v ∧ (evaluate env options root).recovered = [] := by
  simp [evaluate, h, Run.inside]

/-- A run that fails is an evaluation that fails, or ends with the default. -/
theorem evaluate_of_error {failure : Failure} (h : (Expr.evaluateStrictly env options root).outcome = .error failure) :
    (evaluate env options root).outcome = options.default.elim (.error (failure.inside root)) .ok ∧
      (evaluate env options root).recovered =
        (options.default.map fun default => ⟨failure.inside root, options.intro, default⟩).toList := by
  unfold evaluate
  cases hd : options.default <;> simp [h, Run.inside]

/-- Without a default, an evaluation is its run. -/
theorem evaluate_of_default_eq_none (h : options.default = none) (env : Environment) (root : Json) :
    evaluate env options root = (Expr.evaluateStrictly env options root).inside root := by
  unfold evaluate
  simp only [h]
  split
  · rename_i hd
    cases hd
  · rfl

/-- A value of the return type by its own form, or of any type if any value is wanted, is what a whole
evaluation gives, whatever the default. -/
theorem outcome_evaluate_of_type {v : Value}
    (h : (Expr.evalNode env options.limit [] root).outcome = .ok v) (hv : v.isNull = false)
    (ht : options.returnType = .any ∨ v.type = options.returnType) :
    (evaluate env options root).outcome = .ok v := by
  have hfinish : Expr.finish options v = pure v := by
    unfold Expr.finish
    rw [hv, Expr.castResult, if_pos ht]
    cases options.default <;> rfl
  have hrun : (Expr.evaluateStrictly env options root).outcome = .ok v := by
    rw [Expr.evaluateStrictly, Run.outcome_bind, h]
    change (Expr.finish options v).outcome = .ok v
    rw [hfinish]
    rfl
  exact (evaluate_of_ok hrun).1

end FormLang
