import FormLang.Proofs.Expr.Attribution
import FormLang.Proofs.Expr.Relocation

/-!
# Negated connectives

A negated conjunction evaluates like the disjunction of the negated arguments, and a negated disjunction like their
conjunction. Arguments stand two levels deep in both expressions, at positions that are exchanged (`Path.exchange`), so
each of them goes alike in both but for its path (`Expr.outcome_evalNode_exchange`). All arguments are evaluated from
left to right, so the first one that fails is the same (`Expr.outcome_evalArguments_negated`), and if none fails the
values are dual (`IsDual.connects_negation`). `evaluate_negated_connective` says this of whole evaluations, and asks for
an argument: a limit of one stops the connective inside the negation, but not one that has no arguments.
-/

namespace FormLang

/-! ## Duality -/

/-- Conjunction and disjunction are dual to each other. -/
inductive IsDual : Builtin → Builtin → Prop where
  | and_or : IsDual .and .or
  | or_and : IsDual .or .and

/-- Whether the values of the arguments make a connective true. -/
def Builtin.connects (f : Builtin) (values : List Value) : Bool :=
  if f = .and then values.all Calls.Logical.isTrue else values.any Calls.Logical.isTrue

/-- The negation of a value. Anything but a boolean counts as false. -/
def Value.negation (v : Value) : Value := .boolean (!Calls.Logical.isTrue v)

/-- The expression that negates another one. -/
abbrev Json.negated (node : Json) : Json := .call .not [node]

namespace IsDual

variable {f g : Builtin}

theorem symm (h : IsDual f g) : IsDual g f := by
  cases h <;> constructor

theorem typeAt?_eq (h : IsDual f g) (i : Nat) : f.signature.typeAt? i = some .boolean := by
  rcases i with _ | _ | i <;> cases h <;> rfl

theorem exists_call (h : IsDual f g) (env : Environment) (values : List Value) :
    ∃ raw, f.call env values = .ok raw ∧
      raw.castTo f.signature.result .result = .ok (.boolean (f.connects values)) := by
  cases h <;> exact ⟨_, rfl, rfl⟩

/-- Negated values make the dual of a connective true where the values make the connective false. -/
theorem connects_negation (h : IsDual f g) (values : List Value) :
    g.connects (values.map Value.negation) = !f.connects values := by
  cases h <;> simp [Builtin.connects, Value.negation, Calls.Logical.isTrue, Function.comp_def,
    List.not_all_eq_any_not, List.not_any_eq_all_not]

end IsDual

/-! ## Exchanged positions -/

/-- A path with its first two positions exchanged. -/
def Path.exchange : Path → Path
  | i :: j :: path => j :: i :: path
  | path => path

/-- A failure at the path with its first two positions exchanged. -/
def Failure.exchange (failure : Failure) : Failure := ⟨failure.cause, failure.path.exchange⟩

namespace Expr

variable {env : Environment} {limit : Nat}

/-- Two levels deep, a node ends alike at exchanged positions. -/
theorem outcome_evalNode_exchange (hl : 2 ≤ limit) (i j : Nat) (node : Json) :
    (evalNode env limit [j, i] node).outcome = (evalNode env limit [i, j] node).outcome.mapError Failure.exchange := by
  obtain ⟨levels, rfl⟩ := Nat.exists_eq_add_of_le hl
  have hunder (k l : Nat) : (evalNode env (2 + levels) [k, l] node).outcome =
      (evalNode env levels [] node).outcome.mapError (·.under [k, l]) :=
    congrArg Run.outcome (evalNode_under [k, l] [] node)
  rw [hunder, hunder]
  cases (evalNode env levels [] node).outcome <;> rfl

theorem outcome_castAt_exchange (i j : Nat) (role : CastRole) (target : Option ValueType) (v : Value) :
    (castAt [j, i] role target v).outcome = (castAt [i, j] role target v).outcome.mapError Failure.exchange := by
  rw [castAt, castAt, Run.outcome_ofExcept, Run.outcome_ofExcept]
  cases v.cast target role <;> rfl

/-- The only argument of a call that is the argument of another one ends like the argument of the only argument. -/
theorem outcome_evalArgument_exchange (hl : 2 ≤ limit) {f g : Builtin} {i j : Nat}
    (htype : f.signature.typeAt? i = g.signature.typeAt? j) (node : Json) :
    (evalArgument env limit [i + 1] g j node).outcome =
      (evalArgument env limit [j + 1] f i node).outcome.mapError Failure.exchange := by
  simp only [evalArgument, Run.outcome_bind, List.singleton_append, htype, outcome_castAt_exchange (j + 1) (i + 1),
    outcome_evalNode_exchange hl (j + 1) (i + 1), Except.bind_mapError]

/-! ## Negated arguments -/

/-- A negation ends with the negated value of its argument. -/
theorem outcome_eval_negated {path : Path} (hl : path.length < limit) (node : Json) :
    (eval env limit path node.negated).outcome =
      (evalArgument env limit path .not 0 node).outcome.map Value.negation := by
  have hcall : ∀ values, ∃ raw, Builtin.not.call env values = .ok raw ∧
      raw.castTo Builtin.not.signature.result .result = .ok (Arguments.value values 0).negation :=
    fun values => ⟨_, rfl, rfl⟩
  rw [outcome_eval_map hl hcall, outcome_evalArguments_singleton]
  cases (evalArgument env limit path .not 0 node).outcome <;> rfl

variable {f g : Builtin}

/-- A negated argument of a connective ends like the argument of the dual connective, negated. -/
theorem outcome_evalArgument_negated (hl : 2 ≤ limit) (h : IsDual f g) (i : Nat) (node : Json) :
    (evalArgument env limit [] g i node.negated).outcome =
      ((evalArgument env limit [1] f i node).outcome.mapError Failure.exchange).map Value.negation := by
  have hnode : (evalNode env limit [i + 1] node.negated).outcome =
      ((evalArgument env limit [1] f i node).outcome.mapError Failure.exchange).map Value.negation := by
    rw [evalNode_expression (isExpression_call ..), outcome_eval_negated (show 1 < limit by omega),
      outcome_evalArgument_exchange hl (h.typeAt?_eq i)]
  cases harg : (evalArgument env limit [1] f i node).outcome with
  | ok v =>
    rw [harg] at hnode
    exact outcome_evalArgument hnode (h.symm.typeAt?_eq i) rfl
  | error failure =>
    rw [harg] at hnode
    exact outcome_evalArgument_error hnode

/-- Negated arguments end like the arguments of the dual connective, negated one by one. -/
theorem outcome_evalArguments_negated (hl : 2 ≤ limit) (h : IsDual f g) (i : Nat) (args : List Json) :
    (evalArguments env limit [] g i (args.map Json.negated)).outcome =
      ((evalArguments env limit [1] f i args).outcome.mapError Failure.exchange).map (List.map Value.negation) := by
  induction args generalizing i with
  | nil => simp [Except.map]
  | cons arg args ih =>
    simp only [List.map_cons, evalArguments_cons, Run.outcome_bind, outcome_evalArgument_negated hl h, ih]
    cases (evalArgument env limit [1] f i arg).outcome with
    | error failure => rfl
    | ok v => cases (evalArguments env limit [1] f (i + 1) args).outcome <;> rfl

/-- A negated connective ends like the arguments of the connective. -/
theorem outcome_eval_negated_connective (hl : 2 ≤ limit) (h : IsDual f g) (args : List Json) :
    (eval env limit [] (Json.call f args).negated).outcome =
      (evalArguments env limit [1] f 0 args).outcome.map fun values => .boolean (!f.connects values) := by
  have hinner : ([1] : Path).length < limit := show 1 < limit by omega
  have hnode : (evalNode env limit [1] (.call f args)).outcome =
      (evalArguments env limit [1] f 0 args).outcome.map fun values => .boolean (f.connects values) := by
    rw [evalNode_expression (isExpression_call ..), outcome_eval_map hinner (h.exists_call env)]
  rw [outcome_eval_negated (show 0 < limit by omega), evalArgument, Run.outcome_bind, List.nil_append, hnode]
  cases (evalArguments env limit [1] f 0 args).outcome <;> rfl

/-- The connective of negated arguments ends like the negated dual connective, but for exchanged positions. -/
theorem outcome_eval_connective_negated (hl : 2 ≤ limit) (h : IsDual f g) (args : List Json) :
    (eval env limit [] (.call g (args.map Json.negated))).outcome =
      (eval env limit [] (Json.call f args).negated).outcome.mapError Failure.exchange := by
  have houter : ([] : Path).length < limit := show 0 < limit by omega
  rw [outcome_eval_map houter (h.symm.exists_call env), outcome_evalArguments_negated hl h,
    outcome_eval_negated_connective hl h]
  cases (evalArguments env limit [1] f 0 args).outcome with
  | error failure => rfl
  | ok values => simp [Except.map, h.connects_negation]

/-- A failure of a negated connective lies at an argument of the connective, or below it. -/
theorem path_of_negated_connective (hl : 2 ≤ limit) (h : IsDual f g) {args : List Json} {failure : Failure}
    (he : (eval env limit [] (Json.call f args).negated).outcome = .error failure) :
    ∃ i path, (1 ≤ i ∧ i ≤ args.length) ∧ failure.path = 1 :: i :: path := by
  rw [outcome_eval_negated_connective hl h, Except.map_eq_error_iff] at he
  obtain ⟨j, arg, hj, harg⟩ := evalArgument_of_evalArguments he
  obtain ⟨path, hpath⟩ := path_of_evalArgument harg
  obtain ⟨hlength, -⟩ := List.getElem?_eq_some_iff.mp hj
  exact ⟨0 + j + 1, path, by omega, hpath⟩

/-- With a limit of one, a call fails at its first argument if that is a call. -/
theorem outcome_eval_inner_tooDeep (f g : Builtin) (args nodes : List Json) :
    (eval env 1 [] (.call f (.call g args :: nodes))).outcome = .error ⟨.tooDeep 1, [1]⟩ := by
  have hnode : (evalNode env 1 [1] (.call g args)).outcome = .error ⟨.tooDeep 1, [1]⟩ :=
    outcome_evalNode_tooDeep (Nat.le_refl 1) g args
  refine outcome_eval_call_error Nat.zero_lt_one ?_
  rw [evalArguments_cons, Run.outcome_bind, outcome_evalArgument_error hnode]
  rfl

end Expr

/-! ## Whole evaluations -/

/-- How two evaluations correspond if the arguments at `[1][i]` in one expression stand at `[i][1]` in the other. -/
inductive Mirrored (limit count : Nat) (left right : Json) :
    Except EvalError Value → Except EvalError Value → Prop where
  /-- Both have the same value. -/
  | value (v : Value) : Mirrored limit count left right (.ok v) (.ok v)
  /-- Both fail for the same reason, at the same argument or below it. -/
  | argument {cause : Cause} {i : Nat} {path : Path} (hi : 1 ≤ i ∧ i ≤ count) :
    Mirrored limit count left right (.error ⟨cause, left, 1 :: i :: path⟩) (.error ⟨cause, right, i :: 1 :: path⟩)
  /-- The value that both have cannot be cast to the return type. -/
  | result (e : CastError) :
    Mirrored limit count left right (.error ⟨.cast e, left, []⟩) (.error ⟨.cast e, right, []⟩)
  /-- The limit stops the first call inside. -/
  | inner (h : limit = 1) :
    Mirrored limit count left right (.error ⟨.tooDeep 1, left, [1]⟩) (.error ⟨.tooDeep 1, right, [1]⟩)
  /-- The limit stops the whole call. -/
  | outer (h : limit = 0) :
    Mirrored limit count left right (.error ⟨.tooDeep 0, left, []⟩) (.error ⟨.tooDeep 0, right, []⟩)

/-- Without a default, the evaluation of a call casts the value of the call. -/
theorem outcome_evaluate_call (env : Environment) {options : Options} (hd : options.default = none) (f : Builtin)
    (args : List Json) :
    (evaluate env options (.call f args)).outcome =
      ((Expr.eval env options.limit [] (.call f args)).outcome.bind fun v => (Expr.finish options v).outcome).mapError
        (·.inside (.call f args)) := by
  rw [evaluate_of_default_eq_none hd, Run.inside, Expr.evaluateStrictly, Run.outcome_bind,
    Expr.evalNode_expression (isExpression_call f args)]

/-- The negation of a connective and the dual connective of the negated arguments have the same value, or both fail for
the same reason: at the same argument, unless the limit or the return type stops all calls alike. -/
theorem evaluate_negated_connective (env : Environment) {options : Options} (hd : options.default = none)
    {f g : Builtin} (h : IsDual f g) {args : List Json} (hne : args ≠ []) :
    let left := (Json.call f args).negated
    let right := Json.call g (args.map Json.negated)
    Mirrored options.limit args.length left right (evaluate env options left).outcome
      (evaluate env options right).outcome := by
  intro left right
  rw [outcome_evaluate_call env hd, outcome_evaluate_call env hd]
  obtain hl | hl | hl : options.limit = 0 ∨ options.limit = 1 ∨ 2 ≤ options.limit := by omega
  · rw [hl, Expr.eval_tooDeep (Nat.le_refl 0), Expr.eval_tooDeep (Nat.le_refl 0)]
    exact .outer rfl
  · obtain ⟨arg, others, rfl⟩ := List.exists_cons_of_ne_nil hne
    rw [hl, Expr.outcome_eval_inner_tooDeep, List.map_cons, Expr.outcome_eval_inner_tooDeep]
    exact .inner rfl
  · rw [Expr.outcome_eval_connective_negated hl h]
    cases hleft : (Expr.eval env options.limit [] left).outcome with
    | ok v =>
      show Mirrored _ _ _ _ ((Expr.finish options v).outcome.mapError _) ((Expr.finish options v).outcome.mapError _)
      cases hfinish : (Expr.finish options v).outcome with
      | ok w => exact .value w
      | error failure =>
        obtain ⟨e, rfl⟩ := Expr.exists_of_finish hfinish
        exact .result e
    | error failure =>
      obtain ⟨cause, path⟩ := failure
      obtain ⟨i, path, hi, rfl⟩ := Expr.path_of_negated_connective hl h hleft
      exact .argument hi

/-- Null counts as false in both expressions, and the text `"maybe"` behind it, which is no boolean, fails in both. -/
theorem evaluate_not_and_maybe :
    let args := [Json.null, Json.negated (.string "maybe")]
    let left := (Json.call .and args).negated
    let right := Json.call .or (args.map Json.negated)
    let cause := Cause.cast (.unexpected (.string "maybe") .boolean)
    args ≠ [] ∧ ({} : Options).default = none ∧
      (evaluate {} {} left).outcome = .error ⟨cause, left, [1, 2, 1]⟩ ∧
      (evaluate {} {} right).outcome = .error ⟨cause, right, [2, 1, 1]⟩ := by
  intro args left right cause
  have hne : args ≠ [] := List.cons_ne_nil _ _
  have hleft : (evaluate {} {} left).outcome = .error ⟨cause, left, [1, 2, 1]⟩ := rfl
  have hmirrored : Mirrored defaultLimit args.length left right (evaluate {} {} left).outcome
      (evaluate {} {} right).outcome :=
    evaluate_negated_connective {} (show ({} : Options).default = none from rfl) .and_or hne
  refine ⟨hne, rfl, hleft, ?_⟩
  rw [hleft] at hmirrored
  clear_value cause
  generalize (evaluate {} {} right).outcome = outcome at hmirrored ⊢
  cases hmirrored with
  | argument hi => rfl

end FormLang
