import FormLang.Proofs.Calls.Omitted
import FormLang.Proofs.Expr.Replacement

/-!
# Null literals at the end of a call

A null literal is cast to null wherever a type is declared (`Expr.outcome_evalArguments_nulls`), so null literals at the
end of a call put nulls at the end of its arguments (`Expr.outcome_evalArguments_append_nulls`). No function but the
conjunction sees them there, and the call ends as it does without them (`Expr.outcome_evalNode_append_nulls`); a
conjunction that has a value becomes false (`Expr.outcome_evalNode_and_append_nulls`). `evaluate_append_nulls` says this
of whole evaluations.
-/

namespace FormLang

namespace Signature

variable {s : Signature} {m n : Nat}

/-- A signature declares types for a number of arguments. -/
def Declares (s : Signature) (n : Nat) : Prop := ∀ m, s.maxArguments? = some m → n ≤ m

theorem Declares.mono (h : s.Declares n) (hm : m ≤ n) : s.Declares m :=
  fun most hmost => Nat.le_trans hm (h most hmost)

theorem declares_of_le (hm : s.maxArguments? = some m) (hn : n ≤ m) : s.Declares n := by
  intro most hmost
  obtain rfl := Option.some.inj (hm.symm.trans hmost)
  exact hn

theorem declares_of_maxArguments?_eq_none (h : s.maxArguments? = none) (n : Nat) : s.Declares n := by
  intro most hmost
  rw [h] at hmost
  cases hmost

/-- Each of the arguments that a signature declares types for has a type. -/
theorem Declares.exists_typeAt? {i : Nat} (h : s.Declares (i + 1)) : ∃ t, s.typeAt? i = some t := by
  unfold typeAt?
  cases hr : s.repeated? with
  | some p => exact ⟨_, by rw [Option.or_some, Option.map_some]⟩
  | none =>
    have hi : i < s.parameters.length := h _ (by simp [maxArguments?, hr])
    exact ⟨_, by rw [List.getElem?_eq_getElem hi, Option.some_or, Option.map_some]⟩

end Signature

namespace Expr

variable {env : Environment} {limit : Nat} {path : Path} {f : Builtin}

/-! ## Arguments -/

/-- The first of two lists of arguments is evaluated before the second. -/
theorem outcome_evalArguments_append (f : Builtin) (i : Nat) (args args' : List Json) :
    (evalArguments env limit path f i (args ++ args')).outcome =
      (evalArguments env limit path f i args).outcome.bind fun values =>
        (evalArguments env limit path f (i + args.length) args').outcome.map (values ++ ·) := by
  induction args generalizing i with
  | nil =>
    rw [outcome_evalArguments_nil]
    change (evalArguments env limit path f i args').outcome = (evalArguments env limit path f i args').outcome.map id
    cases (evalArguments env limit path f i args').outcome <;> rfl
  | cons arg args ih =>
    have hi : i + 1 + args.length = i + (arg :: args).length := by simp; omega
    simp only [List.cons_append, evalArguments_cons, Run.outcome_bind, ih, hi]
    cases (evalArgument env limit path f i arg).outcome with
    | error failure => rfl
    | ok v =>
      cases (evalArguments env limit path f (i + 1) args).outcome with
      | error failure => rfl
      | ok values => cases (evalArguments env limit path f (i + (arg :: args).length) args').outcome <;> rfl

/-- Null literals give nulls, as far as types are declared for them. -/
theorem outcome_evalArguments_nulls {i n : Nat} (h : f.signature.Declares (i + n)) :
    (evalArguments env limit path f i (List.replicate n .null)).outcome = .ok (List.replicate n .null) := by
  induction n generalizing i with
  | zero => exact outcome_evalArguments_nil f i
  | succ n ih =>
    obtain ⟨t, ht⟩ := (h.mono (show i + 1 ≤ i + (n + 1) by omega)).exists_typeAt?
    have hliteral : (evalNode env limit (path ++ [i + 1]) .null).outcome = .ok .null := by
      rw [evalNode_literal rfl]
      rfl
    exact outcome_evalArguments_cons (outcome_evalArgument hliteral ht rfl) (ih (h.mono (by omega)))

theorem outcome_evalArguments_append_nulls {args : List Json} {n : Nat} (h : f.signature.Declares (args.length + n)) :
    (evalArguments env limit path f 0 (args ++ List.replicate n .null)).outcome =
      (evalArguments env limit path f 0 args).outcome.map (· ++ List.replicate n .null) := by
  rw [outcome_evalArguments_append, outcome_evalArguments_nulls (by simpa using h)]
  rfl

/-! ## Calls -/

/-- A call ends alike with arguments for which the function gives the same. -/
theorem outcome_callAt_congr {values values' : List Value} (h : f.call env values = f.call env values') :
    (callAt env path f values).outcome = (callAt env path f values').outcome := by
  simp only [callAt, Run.outcome_bind, h]
  rfl

/-- No call of a function but the conjunction ends differently for null literals at its end. -/
theorem outcome_evalNode_append_nulls (hf : f ≠ .and) {args : List Json} {n : Nat}
    (h : f.signature.Declares (args.length + n)) :
    (evalNode env limit path (.call f (args ++ List.replicate n .null))).outcome =
      (evalNode env limit path (.call f args)).outcome := by
  rw [evalNode_expression (isExpression_call ..), evalNode_expression (isExpression_call ..)]
  rcases Nat.lt_or_ge path.length limit with hl | hl
  · rw [eval_call hl, eval_call hl, Run.outcome_bind, Run.outcome_bind, outcome_evalArguments_append_nulls h]
    cases (evalArguments env limit path f 0 args).outcome with
    | error failure => rfl
    | ok values => exact outcome_callAt_congr (f.call_append_nulls hf env values n)
  · rw [eval_tooDeep hl, eval_tooDeep hl]

/-- A conjunction has a value if its arguments do: whether all of them are true. -/
theorem outcome_eval_and (hl : path.length < limit) (args : List Json) :
    (eval env limit path (.call .and args)).outcome = (evalArguments env limit path .and 0 args).outcome.map
      fun values => .boolean (values.all Calls.Logical.isTrue) :=
  outcome_eval_map hl (fun _ => ⟨_, rfl, rfl⟩) args

/-- A conjunction with null literals at its end fails as it does without them, and else it is false. -/
theorem outcome_evalNode_and_append_nulls (args : List Json) (n : Nat) :
    (evalNode env limit path (.call .and (args ++ List.replicate (n + 1) .null))).outcome =
      (evalNode env limit path (.call .and args)).outcome.map fun _ => .boolean false := by
  rw [evalNode_expression (isExpression_call ..), evalNode_expression (isExpression_call ..)]
  rcases Nat.lt_or_ge path.length limit with hl | hl
  · have hnulls : (evalArguments env limit path .and 0 (args ++ List.replicate (n + 1) .null)).outcome =
        (evalArguments env limit path .and 0 args).outcome.map (· ++ List.replicate (n + 1) .null) :=
      outcome_evalArguments_append_nulls (Signature.declares_of_maxArguments?_eq_none rfl _)
    rw [outcome_eval_and hl, outcome_eval_and hl, hnulls]
    cases (evalArguments env limit path .and 0 args).outcome with
    | error failure => rfl
    | ok values => simp [Except.map, Calls.Logical.isTrue]
  · rw [eval_tooDeep hl, eval_tooDeep hl]
    rfl

theorem exists_boolean_of_and {args : List Json} {v : Value}
    (h : (evalNode env limit path (.call .and args)).outcome = .ok v) : ∃ b, v = .boolean b := by
  rw [evalNode_expression (isExpression_call ..)] at h
  rcases Nat.lt_or_ge path.length limit with hl | hl
  · rw [outcome_eval_and hl] at h
    obtain ⟨values, -, rfl⟩ := Except.map_eq_ok_iff.mp h
    exact ⟨_, rfl⟩
  · rw [eval_tooDeep hl] at h
    cases h

/-! ## Results -/

/-- Either every boolean is cast to the return type, or none is. -/
theorem outcome_finish_boolean (options : Options) :
    (∀ b, (finish options (.boolean b)).outcome =
      .ok (if options.returnType = .string then .string (if b then "true" else "false") else .boolean b)) ∨
    ∀ b, ∃ failure, (finish options (.boolean b)).outcome = .error failure := by
  have hfinish (b : Bool) : finish options (.boolean b) = castResult options.returnType (.boolean b) := by
    unfold finish
    cases options.default <;> rfl
  simp only [hfinish]
  cases options.returnType with
  | any | boolean | string => exact .inl fun b => rfl
  | number | date => exact .inr fun b => ⟨_, rfl⟩

/-- Null literals at its end change the value of a conjunction to false, as a value of the return type, but do not
change whether it has one. -/
theorem outcome_evaluateStrictly_and_append_nulls (env : Environment) (options : Options) (args : List Json) (n : Nat) :
    let plain := evaluateStrictly env options (.call .and args)
    let padded := evaluateStrictly env options (.call .and (args ++ List.replicate (n + 1) .null))
    (∀ v, plain.outcome = .ok v →
      padded.outcome = .ok (if options.returnType = .string then .string "false" else .boolean false)) ∧
    ∀ failure, plain.outcome = .error failure → ∃ failure', padded.outcome = .error failure' := by
  intro plain padded
  have hplain : plain.outcome = (evalNode env options.limit [] (.call .and args)).outcome.bind
      fun v => (finish options v).outcome := Run.outcome_bind ..
  have hpadded : padded.outcome = ((evalNode env options.limit [] (.call .and args)).outcome.map
      fun _ => .boolean false).bind fun v => (finish options v).outcome := by
    rw [← outcome_evalNode_and_append_nulls args n]
    exact Run.outcome_bind ..
  rw [hplain, hpadded]
  cases h : (evalNode env options.limit [] (.call .and args)).outcome with
  | error failure => exact ⟨nofun, fun _ _ => ⟨failure, rfl⟩⟩
  | ok v =>
    -- The value is a boolean, and the return type takes it if and only if it takes false.
    obtain ⟨b, rfl⟩ := exists_boolean_of_and h
    change (∀ v, (finish options (.boolean b)).outcome = .ok v → (finish options (.boolean false)).outcome = _) ∧
      ∀ failure, (finish options (.boolean b)).outcome = .error failure →
        ∃ failure', (finish options (.boolean false)).outcome = .error failure'
    rcases outcome_finish_boolean options with hvalue | hfails
    · refine ⟨fun _ _ => hvalue false, fun failure hfailure => ?_⟩
      rw [hvalue b] at hfailure
      cases hfailure
    · refine ⟨fun v hv => ?_, fun _ _ => hfails false⟩
      obtain ⟨failure, hfailure⟩ := hfails b
      rw [hfailure] at hv
      cases hv

end Expr

/-! ## Whole evaluations -/

/-- What becomes of the value of a conjunction with null literals at its end: false as a value of the return type, but
the default stays the default. -/
theorem outcome_evaluate_and_append_nulls {env : Environment} {options : Options} {args : List Json} {v : Value}
    (hv : (evaluate env options (.call .and args)).outcome = .ok v) (n : Nat) :
    let padded := evaluate env options (.call .and (args ++ List.replicate (n + 1) .null))
    ((evaluate env options (.call .and args)).recovered = [] →
      padded.outcome = .ok (if options.returnType = .string then .string "false" else .boolean false)) ∧
    ((evaluate env options (.call .and args)).recovered ≠ [] → padded.outcome = .ok v) := by
  intro padded
  obtain ⟨hvalue, hfails⟩ := Expr.outcome_evaluateStrictly_and_append_nulls env options args n
  cases h : (Expr.evaluateStrictly env options (.call .and args)).outcome with
  | ok w =>
    have hrecovered := (evaluate_of_ok h).2
    exact ⟨fun _ => (evaluate_of_ok (hvalue w h)).1, fun hne => absurd hrecovered hne⟩
  | error failure =>
    obtain ⟨failure', hpadded⟩ := hfails failure h
    obtain ⟨houtcome, hrecovered⟩ := evaluate_of_error h
    rw [houtcome] at hv
    -- Without a default the failure would be the outcome.
    cases hd : options.default with
    | none =>
      rw [hd] at hv
      cases hv
    | some default =>
      rw [hd] at hv hrecovered
      rw [(evaluate_of_error hpadded).1, hd, hrecovered]
      exact ⟨nofun, fun _ => hv⟩

/-- Arguments that are left out read as null: no call of a function with a greatest number of arguments changes its
value, or the reason and the place of its failure, if its arguments are filled up with null literals to any number up to
the greatest. Null literals at the end do not change a concatenation or a disjunction either; but they make every
conjunction that has a value false, and leave the default in the place of one that fails. -/
theorem evaluate_append_nulls (env : Environment) (options : Options) :
    (∀ f m args n, f.signature.maxArguments? = some m → args.length + n ≤ m →
      (evaluate env options (.call f args)).Agrees
        (evaluate env options (.call f (args ++ List.replicate n .null)))) ∧
    (∀ f args n, f = .concat ∨ f = .or →
      (evaluate env options (.call f args)).Agrees
        (evaluate env options (.call f (args ++ List.replicate n .null)))) ∧
    ∀ args n v, (evaluate env options (.call .and args)).outcome = .ok v →
      let padded := evaluate env options (.call .and (args ++ List.replicate (n + 1) .null))
      ((evaluate env options (.call .and args)).recovered = [] →
        padded.outcome = .ok (if options.returnType = .string then .string "false" else .boolean false)) ∧
      ((evaluate env options (.call .and args)).recovered ≠ [] → padded.outcome = .ok v) := by
  have hagrees {f : Builtin} (hne : f ≠ .and) {args : List Json} {n : Nat}
      (h : f.signature.Declares (args.length + n)) :
      (evaluate env options (.call f args)).Agrees
        (evaluate env options (.call f (args ++ List.replicate n .null))) :=
    agrees_of_outcome_eq (Expr.outcome_evalNode_append_nulls hne h).symm
  refine ⟨fun f m args n hm hn => ?_, fun f args n hf => ?_, fun args n v hv => ?_⟩
  · have hne : f ≠ .and := by
      rintro rfl
      cases hm
    exact hagrees hne (Signature.declares_of_le hm hn)
  · have hne : f ≠ .and := by
      rintro rfl
      cases hf <;> contradiction
    have hnone : f.signature.maxArguments? = none := Builtin.maxArguments?_eq_none_iff.mpr (hf.imp_right .inr)
    exact hagrees hne (Signature.declares_of_maxArguments?_eq_none hnone _)
  · exact outcome_evaluate_and_append_nulls hv n

/-- A null in the place of a key that is left out still stands for the default key, but behind a conjunction that is
true it makes it false. -/
theorem null_for_default_key :
    let env : Environment := { named := some ⟨[("unit", .string "km")], some "unit"⟩ }
    let options : Options := { returnType := .string }
    let lenient : Options := { default := some (.number .zero) }
    let choice := [Json.call .not [.null], .call .value []]
    let plain := Json.call .and [.bool true]
    let failing := Json.call .and [.string "maybe"]
    (Builtin.value.signature.maxArguments? = some 1 ∧ Builtin.ifElse.signature.maxArguments? = some 4) ∧
      (evaluate env options (.call .value [])).outcome = .ok (.string "km") ∧
      (evaluate env options (.call .value [])).Agrees (evaluate env options (.call .value [.null])) ∧
      (evaluate env options (.call .ifElse choice)).Agrees
        (evaluate env options (.call .ifElse (choice ++ [.null, .null]))) ∧
      (evaluate env options (.call .or [.string "maybe"])).Agrees
        (evaluate env options (.call .or [.string "maybe", .null])) ∧
      (evaluate env options plain).outcome = .ok (.string "true") ∧ (evaluate env options plain).recovered = [] ∧
      (evaluate env options (.call .and [.bool true, .null])).outcome = .ok (.string "false") ∧
      (evaluate env lenient failing).outcome = .ok (.number .zero) ∧ (evaluate env lenient failing).recovered ≠ [] ∧
      (evaluate env lenient (.call .and [.string "maybe", .null])).outcome = .ok (.number .zero) := by
  intro env options lenient choice plain failing
  have hplain : (evaluate env options plain).outcome = .ok (.string "true") := rfl
  have hfailing : (evaluate env lenient failing).outcome = .ok (.number .zero) := rfl
  have hrecovered : (evaluate env lenient failing).recovered ≠ [] := List.cons_ne_nil _ _
  obtain ⟨hfixed, hany, hand⟩ := evaluate_append_nulls env options
  obtain ⟨-, -, hlenient⟩ := evaluate_append_nulls env lenient
  exact ⟨⟨rfl, rfl⟩, rfl, hfixed .value 1 [] 1 rfl (by decide), hfixed .ifElse 4 choice 2 rfl (by decide),
    hany .or [.string "maybe"] 1 (.inr rfl), hplain, rfl, (hand [.bool true] 0 _ hplain).1 rfl, hfailing, hrecovered,
    (hlenient [.string "maybe"] 0 _ hfailing).2 hrecovered⟩

end FormLang
