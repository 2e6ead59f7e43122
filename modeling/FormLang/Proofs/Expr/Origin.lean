import FormLang.Proofs.Calls.Family
import FormLang.Proofs.Expr.Attribution
import FormLang.Proofs.Value.CastError

/-!
# What errors of each kind are about

A failure of a whole evaluation arises in one of four ways: a call lies as deep as the limit, an argument
cannot be cast, a function fails, or the value of the whole expression cannot be cast to the return type
(`Expr.Origin`, `Expr.origin_of_evaluateStrictly`). The results of functions can always be cast, and no
function is called that its family does not implement, so the kind of an error says much about its path
(`EvalError.IsAttributed`). `evaluate_attributed` states this for every error that an evaluation ends with
or recovers from.
-/

namespace FormLang

/-! ## Declared types -/

/-- A type that is declared for a place is the type of a parameter. -/
theorem Signature.exists_parameter {s : Signature} {i : Nat} {t : ValueType} (h : s.typeAt? i = some t) :
    ∃ p ∈ s.parameters, p.type = t := by
  obtain ⟨p, hp, ht⟩ := Option.map_eq_some_iff.mp h
  refine ⟨p, ?_, ht⟩
  rcases Option.or_eq_some_iff.mp hp with hp | ⟨-, hp⟩
  · exact List.mem_of_getElem? hp
  · exact List.mem_of_getLast? (Option.filter_eq_some_iff.mp hp).1

/-- Dates are declared for nothing but the first argument of `formatDate`. -/
theorem Builtin.eq_formatDate_of_date {f : Builtin} {i : Nat} (h : f.signature.typeAt? i = some .date) :
    f = .formatDate ∧ i = 0 := by
  have hf : f = .formatDate := by
    obtain ⟨p, hp, ht⟩ := Signature.exists_parameter h
    cases f with
    | formatDate => rfl
    | _ => exact absurd ht ((by decide : ∀ q ∈ _, Parameter.type q ≠ .date) p hp)
  subst hf
  refine ⟨rfl, ?_⟩
  match i, h with
  | 0, _ => rfl
  | 1, h => cases h
  | i + 2, h => cases h

/-! ## Origins -/

namespace Expr

/-- Where a failure of a whole evaluation comes from. -/
inductive Origin (env : Environment) (options : Options) (root : Json) : Failure → Prop where
  | depth (path : Path) : Origin env options root ⟨.tooDeep options.limit, path⟩
  /-- The value of an argument cannot be cast. -/
  | argument {path : Path} {f : Builtin} {args : List Json} {i : Nat} {arg : Json} {raw : Value}
    {e : CastError} (hf : path.node? root = some (.call f args)) (hi : args[i]? = some arg)
    (hr : (evalNode env options.limit (path ++ [i + 1]) arg).outcome = .ok raw)
    (hc : raw.cast (f.signature.typeAt? i) .argument = .error e) :
    Origin env options root ⟨.cast e, path ++ [i + 1]⟩
  /-- A function fails for the values of its arguments. -/
  | call {path : Path} {f : Builtin} {args : List Json} {values : List Value} {e : CallError}
    (hf : path.node? root = some (.call f args))
    (hv : (evalArguments env options.limit path f 0 args).outcome = .ok values)
    (hc : f.call env values = .error e) : Origin env options root ⟨.call e, path⟩
  /-- The value of the whole expression cannot be cast. -/
  | result {v : Value} {e : CastError} (hv : (evalNode env options.limit [] root).outcome = .ok v)
    (hc : (castResult options.returnType v).outcome = .error ⟨.cast e, []⟩) :
    Origin env options root ⟨.cast e, []⟩

variable {env : Environment} {options : Options} {root : Json}

/-- The failure of a node that a path leads to has an origin. -/
theorem Fails.origin {path : Path} {node : Json} {failure : Failure}
    (h : Fails env options.limit path node failure) (hn : path.node? root = some node)
    (he : isExpression node = true) : Origin env options root failure := by
  induction h with
  | tooDeep => exact .depth _
  | literal _ hl => simp [hl] at he
  | @argument path f args i arg _ _ hi ha _ ih =>
    refine ih ?_ ha
    rw [Path.node?_append, hn, Option.bind_some, Path.node?_call, hi, Option.bind_some, Path.node?_nil]
  | argumentCast _ hi hr hc => exact .argument hn hi hr hc
  | call _ hv hc => exact .call hn hv hc

/-- Every failure of a whole evaluation has an origin. -/
theorem origin_of_evaluateStrictly {failure : Failure}
    (h : (evaluateStrictly env options root).outcome = .error failure) : Origin env options root failure := by
  rw [evaluateStrictly, Run.outcome_bind, Except.bind_eq_error_iff] at h
  rcases h with h | ⟨v, hv, h⟩
  · by_cases he : isExpression root = true
    · rw [evalNode_expression he] at h
      exact (fails_of_eval h).origin (Path.node?_nil root) he
    · rw [evalNode_literal (by simpa using he)] at h
      cases h
  · have hc := castResult_of_finish h
    obtain ⟨e, rfl⟩ := exists_of_finish h
    exact .result hv hc

end Expr

/-! ## Kinds -/

/-- What the kind of an error says of its path, and of the value that was cast there. -/
structure EvalError.IsAttributed (env : Environment) (options : Options) (root : Json) (e : EvalError) :
    Prop where
  /-- A type is missing where the called function declares none for an argument. -/
  noType : e.cause.kind = .unknownTargetType → ∃ (path : Path) (f : Builtin) (args : List Json) (i : Nat),
    path.node? root = some (.call f args) ∧ i < args.length ∧ e.path = path ++ [i + 1] ∧
    f.signature.typeAt? i = none
  /-- The argument that is of the wrong kind is a boolean that is to be formatted as a date. -/
  argument : e.cause.kind = .unknownArgumentType →
    ∃ (path : Path) (arg : Json) (args : List Json) (b : Bool),
    path.node? root = some (.call .formatDate (arg :: args)) ∧ e.path = path ++ [1] ∧
    (Expr.evalNode env options.limit e.path arg).outcome = .ok (.boolean b)
  /-- The result that is of the wrong kind is a boolean that is the value of the whole expression. -/
  result : e.cause.kind = .unknownSourceType → e.path = [] ∧ options.returnType = .date ∧
    ∃ b, (Expr.evalNode env options.limit [] root).outcome = .ok (.boolean b)
  /-- What is unexpected at the root is the value of the whole expression. -/
  unexpected : e.cause.kind = .unexpectedType → e.path = [] →
    ∃ v, (Expr.evalNode env options.limit [] root).outcome = .ok v ∧
      (Expr.castResult options.returnType v).outcome = .error ⟨e.cause, []⟩

/-- A cause that stands for a mistake of the evaluation itself: a function that its family does not implement,
a function that does not exist, or a node that is no expression. -/
def Cause.IsInternal : Cause → Prop
  | .call (.foreign _ _) | .unknownFunction _ | .notAnExpression _ => True
  | _ => False

namespace Expr.Origin

variable {env : Environment} {options : Options} {root : Json} {failure : Failure}

/-- The origin of an error shows in its kind. -/
theorem isAttributed (h : Origin env options root failure) :
    (failure.inside root).IsAttributed env options root := by
  cases h with
  | depth | call => exact ⟨nofun, nofun, nofun, nofun⟩
  | @argument path f args i arg raw e hf hi hr hc =>
    have hlt : i < args.length := (List.getElem?_eq_some_iff.mp hi).1
    rcases Value.cast_error_cases hc with ⟨ht, rfl⟩ | ⟨t, ht, hc⟩
    · exact ⟨fun _ => ⟨path, f, args, i, hf, hlt, rfl, ht⟩, nofun, nofun, nofun⟩
    · rcases Value.castTo_error_cases hc with ⟨rfl, ⟨b, rfl⟩, rfl⟩ | rfl | ⟨-, r, rfl⟩
      · obtain ⟨rfl, rfl⟩ := Builtin.eq_formatDate_of_date ht
        cases args with
        | nil => cases hi
        | cons _ args =>
          cases hi
          exact ⟨nofun, fun _ => ⟨path, arg, args, b, hf, rfl, hr⟩, nofun, nofun⟩
      · exact ⟨nofun, nofun, nofun, fun _ hp => absurd hp (by simp [Failure.inside])⟩
      · exact ⟨nofun, nofun, nofun, nofun⟩
  | @result v e hv hc =>
    obtain ⟨e', hct, he⟩ := exists_of_castResult hc
    cases he
    rcases Value.castTo_error_cases hct with ⟨ht, ⟨b, rfl⟩, rfl⟩ | rfl | ⟨-, r, rfl⟩
    · exact ⟨nofun, nofun, fun _ => ⟨rfl, ht, b, hv⟩, nofun⟩
    · exact ⟨nofun, nofun, nofun, fun _ _ => ⟨v, hv, hc⟩⟩
    · exact ⟨nofun, nofun, nofun, nofun⟩

/-- The evaluation itself makes no mistake. -/
theorem not_isInternal (h : Origin env options root failure) : ¬failure.cause.IsInternal := by
  cases h with
  | depth | argument | result => nofun
  | @call _ f _ values e _ _ hc =>
    cases e with
    | foreign family g => exact absurd hc (f.call_ne_foreign g family env values)
    | _ => nofun

end Expr.Origin

/-! ## Errors -/

/-- An error that an evaluation ends with, or that it recovers from. -/
def Evaluation.HasError (x : Evaluation) (e : EvalError) : Prop :=
  x.outcome = .error e ∨ ∃ r ∈ x.recovered, r.error = e

variable {env : Environment} {options : Options} {root : Json} {e : EvalError}

/-- An error that an evaluation ends with, or recovers from, is a failure of its run. -/
theorem exists_failure_of_hasError (h : (evaluate env options root).HasError e) :
    ∃ failure, (Expr.evaluateStrictly env options root).outcome = .error failure ∧
      e = failure.inside root := by
  rcases h with h | ⟨r, hr, rfl⟩
  · exact exists_failure_of_evaluate h
  · dsimp only [evaluate] at hr
    split at hr
    · rename_i failure _ hf _
      obtain rfl := List.mem_singleton.mp hr
      exact ⟨failure, hf, rfl⟩
    · cases hr

/-- Of every error of an evaluation, even if a default takes its place, the kind says where it arose: a type
is missing only for an argument for which the called function declares none; an argument is of a wrong kind
only if it is a boolean to be formatted as a date; a result is of a wrong kind only if it is the boolean of
the whole expression and a date is wanted; and what is unexpected at the root is the value of the whole
expression. No error is a mistake of the evaluation itself, and the value of a call can always be cast to the
declared type. -/
theorem evaluate_attributed (env : Environment) (options : Options) (root : Json) :
    (∀ e, (evaluate env options root).HasError e →
      e.IsAttributed env options root ∧ ¬e.cause.IsInternal) ∧
    ∀ (f : Builtin) (env : Environment) (args : Arguments) (v : Value), f.call env args = .ok v →
      ∀ role, ∃ w, v.cast (some f.signature.result) role = .ok w := by
  refine ⟨fun e he => ?_, fun f env args v hv role => ?_⟩
  · obtain ⟨failure, hf, rfl⟩ := exists_failure_of_hasError he
    have ho := Expr.origin_of_evaluateStrictly hf
    exact ⟨ho.isAttributed, ho.not_isInternal⟩
  · obtain ⟨w, hw, -⟩ := Value.castTo_of_fits role (Builtin.call_fits hv)
    exact ⟨w, hw⟩

/-- A negation that is formatted as a date is found there, and its value is a boolean. -/
theorem formatDate_not_attributed :
    let root := Json.call .concat [.call .formatDate [.call .not [.bool true]]]
    let e : EvalError := ⟨.cast (.unsupported .argument (.boolean false) .date), root, [1, 1]⟩
    (evaluate {} {} root).HasError e ∧ ∃ (path : Path) (arg : Json) (args : List Json) (b : Bool),
      path.node? root = some (.call .formatDate (arg :: args)) ∧ [1, 1] = path ++ [1] ∧
        (Expr.evalNode {} defaultLimit [1, 1] arg).outcome = .ok (.boolean b) := by
  intro root e
  have he : (evaluate {} {} root).HasError e := .inl rfl
  obtain ⟨ha, -⟩ := (evaluate_attributed {} {} root).1 e he
  exact ⟨he, ha.argument rfl⟩

end FormLang
