import FormLang.Proofs.Expr.Evaluation

/-!
# Invariants of runs

A run satisfies an invariant if all its events do, and its value does (`Run.Satisfies`). To show it of all
evaluations it is enough to look at one argument and one call (`Expr.Step`): the rest is the same for every
invariant (`Expr.Step.satisfies_eval`, `Expr.Step.satisfies_evaluate`).
-/

namespace FormLang

/-- All events of a run have a property, and so does its value, if it ends with one. -/
structure Run.Satisfies {α : Type} (E : Event → Prop) (V : α → Prop) (r : Run α) : Prop where
  events : ∀ e ∈ r.events, E e
  value : ∀ a, r.outcome = .ok a → V a

namespace Run.Satisfies

variable {α β : Type} {E : Event → Prop} {V : α → Prop} {W : β → Prop}

theorem pure {a : α} (h : V a) : (Pure.pure a : Run α).Satisfies E V :=
  ⟨nofun, fun _ ha => by cases ha; exact h⟩

theorem fail (path : Path) (cause : Cause) : (Run.fail path cause : Run α).Satisfies E V :=
  ⟨nofun, nofun⟩

/-- Runs one after another satisfy an invariant, if each of them does. -/
theorem bind {r : Run α} {next : α → Run β} (hr : r.Satisfies E V)
    (hn : ∀ a, V a → (next a).Satisfies E W) : (r >>= next).Satisfies E W := by
  cases h : r.outcome with
  | error failure =>
    rw [bind_of_error h]
    exact ⟨hr.events, nofun⟩
  | ok a =>
    have ha := hn a (hr.value a h)
    rw [bind_of_ok h]
    exact ⟨List.forall_mem_append.mpr ⟨hr.events, ha.events⟩, ha.value⟩

end Run.Satisfies

namespace Expr

/-- One step preserves an invariant: literals satisfy it; the cast of an argument makes what `A` asks of
the arguments of a call; and what such a call records and gives satisfies it. -/
structure Step (env : Environment) (A : Builtin → Nat → Value → Prop) (E : Event → Prop)
    (V : Value → Prop) : Prop where
  literal : ∀ node, V (Value.ofJson node)
  argument : ∀ f i raw v, V raw → raw.cast (f.signature.typeAt? i) .argument = .ok v → A f i v
  before : ∀ path f args, (∀ i v, args[i]? = some v → A f i v) → E (.before path f args)
  after : ∀ path f args raw result, (∀ i v, args[i]? = some v → A f i v) →
    f.call env args = .ok raw → raw.cast (some f.signature.result) .result = .ok result →
    V result ∧ E (.after path f args result)

namespace Step

variable {env : Environment} {A : Builtin → Nat → Value → Prop} {E : Event → Prop}
  {V : Value → Prop} {limit : Nat} {path : Path}

theorem satisfies_castAt {role : CastRole} {target : Option ValueType} {raw : Value} {W : Value → Prop}
    (h : ∀ v, raw.cast target role = .ok v → W v) : (castAt path role target raw).Satisfies E W := by
  rw [castAt]
  cases hc : raw.cast target role with
  | ok v => exact .pure (h v hc)
  | error e => exact .fail ..

theorem satisfies_callAt (step : Step env A E V) {f : Builtin} {args : List Value}
    (h : ∀ i v, args[i]? = some v → A f i v) : (callAt env path f args).Satisfies E V := by
  have hb := step.before path f args h
  rcases callAt_cases env path f args with ⟨e, -, he⟩ | ⟨raw, result, hc, hr, -, he⟩
  · rw [he]
    exact ⟨by simpa using hb, nofun⟩
  · obtain ⟨hv, ha⟩ := step.after path f args raw result h hc hr
    rw [he]
    exact ⟨by simpa using ⟨hb, ha⟩, fun _ heq => by cases heq; exact hv⟩

theorem satisfies_evalNode (step : Step env A E V) {node : Json}
    (h : ∀ path, (eval env limit path node).Satisfies E V) (path : Path) :
    (evalNode env limit path node).Satisfies E V := by
  by_cases he : isExpression node = true
  · rw [evalNode_expression he]
    exact h path
  · rw [evalNode_literal (Bool.eq_false_iff.mpr he)]
    exact .pure (step.literal node)

/-- The arguments of a call satisfy what is asked of them, if each of them satisfies the invariant. -/
theorem satisfies_evalArguments (step : Step env A E V) {f : Builtin} {i : Nat} {args : List Json}
    (h : ∀ arg ∈ args, ∀ path, (eval env limit path arg).Satisfies E V) :
    (evalArguments env limit path f i args).Satisfies E fun values =>
      ∀ j v, values[j]? = some v → A f (i + j) v := by
  induction args generalizing i with
  | nil =>
    rw [evalArguments_nil]
    exact .pure nofun
  | cons arg args ih =>
    have harg : (evalArgument env limit path f i arg).Satisfies E (A f i) :=
      (step.satisfies_evalNode (h arg List.mem_cons_self) _).bind fun raw hraw =>
        satisfies_castAt fun v hv => step.argument f i raw v hraw hv
    rw [evalArguments_cons]
    refine harg.bind fun value hvalue => ?_
    refine (ih (i := i + 1) fun arg ha => h arg (List.mem_cons_of_mem _ ha)).bind fun values hvalues => ?_
    refine .pure fun j v hj => ?_
    cases j with
    | zero =>
      cases hj
      exact hvalue
    | succ j =>
      have := hvalues j v hj
      rwa [show i + (j + 1) = i + 1 + j by omega]

/-- Every evaluation satisfies an invariant that one step preserves. -/
theorem satisfies_eval (step : Step env A E V) (path : Path) (node : Json) :
    (eval env limit path node).Satisfies E V := by
  induction node using expression_induction generalizing path with
  | literal node hn =>
    rcases Nat.lt_or_ge path.length limit with hl | hl
    · rw [eval_literal env hl hn]
      exact .fail ..
    · rw [eval_tooDeep hl]
      exact .fail ..
  | call f args ih =>
    rcases Nat.lt_or_ge path.length limit with hl | hl
    · rw [eval_call hl]
      refine (step.satisfies_evalArguments ih).bind fun values hvalues => ?_
      exact step.satisfies_callAt fun i v hv => by simpa using hvalues i v hv
    · rw [eval_tooDeep hl]
      exact .fail ..

/-- What a whole evaluation records satisfies an invariant that one step preserves. -/
theorem satisfies_evaluate (step : Step env A E V) (options : Options) (root : Json) :
    ∀ e ∈ (evaluate env options root).events, E e := by
  have hrun : (evaluateStrictly env options root).Satisfies E fun _ => True := by
    refine (step.satisfies_evalNode (step.satisfies_eval · root) []).bind fun v _ => ⟨?_, fun _ _ => trivial⟩
    rw [events_finish]
    nofun
  unfold evaluate
  dsimp only
  split
  · exact hrun.events
  · exact hrun.events

end Step

end Expr

end FormLang
