import FormLang.Proofs.Expr.ReturnType

/-!
# Defaults

A default takes the place of an error, and of null:

* `evaluate_some_of_ne_null`: if the expression's own value is not null, the evaluation with a default is the
  evaluation without one in which the error, if there is one, is recovered (`Evaluation.recover`);
* `evaluate_some_of_null`: a value that is null is replaced before it is cast.

So a default changes nothing but failures and nulls (`evaluate_recovers`). The value is looked at before it is
cast to the return type, and a cast can make null of a text that is not null (`Value.Vanishes`,
`castResult_eq_null_iff`); such a null stays (`evaluate_some_ne_null_iff`, `blank_date_is_null`).
-/

namespace FormLang

namespace Value

variable {v : Value} {s : String} {target : ValueType} {role : CastRole}

/-! ## Casts to null -/

/-- A text that becomes null as a value of a type, though it is not null: the word `null`, unless a text or any
value is wanted, and a blank text as a date. -/
def Vanishes (target : ValueType) (v : Value) : Prop :=
  target ≠ .any ∧ target ≠ .string ∧
    ∃ s, v = .string s ∧ (s = "null" ∨ target = .date ∧ Text.allBlank s.toList = true)

theorem type_eq_string_iff : v.type = .string ↔ ∃ s, v = .string s := by
  cases v <;> simp [type]

theorem dateOfText_eq_null_iff : dateOfText s = .ok .null ↔ Text.allBlank s.toList = true := by
  rw [← Date.read_eq_none_iff, dateOfText]
  split <;> simp_all

theorem convert_ne_null (ht : target = .boolean ∨ target = .number) : v.convert target ≠ .ok .null := by
  intro h
  rcases ht with rfl | rfl
  · obtain ⟨_, -, hb⟩ := Option.map_eq_some_iff.mp (elim_eq_ok h)
    cases hb
  · obtain ⟨_, -, hx⟩ := Option.map_eq_some_iff.mp (elim_eq_ok h)
    cases hx

theorem toText?_ne_null (ht : v.type ≠ .string) : v.toText? ≠ some .null := by
  cases v with
  | string s => exact absurd rfl ht
  | _ => simp [toText?]

theorem toDate_ne_null (ht : v.type ≠ .string) : v.toDate ≠ .ok .null := by
  cases v with
  | string s => exact absurd rfl ht
  | number x =>
    intro h
    have hb := dateOfText_eq_null_iff.mp h
    rw [String.toList_ofList, allBlank_display] at hb
    cases hb
  | _ => nofun

/-- No cast makes null of anything but null and texts. -/
theorem castTo_ne_null (hv : v ≠ .null) (ht : v.type ≠ .string) : v.castTo target role ≠ .ok .null := by
  have hn : v.isNullLike = false := by
    cases v with
    | null => exact absurd rfl hv
    | string s => exact absurd rfl ht
    | _ => rfl
  intro h
  rw [castTo, if_neg (by simp [hn])] at h
  split at h
  case isFalse => cases h
  case isTrue =>
    cases target with
    | any => exact hv (Except.ok.inj h)
    | boolean => exact convert_ne_null (.inl rfl) h
    | number => exact convert_ne_null (.inr rfl) h
    | string => exact toText?_ne_null ht (elim_eq_ok h)
    | date => exact toDate_ne_null ht h

/-- The casts that make null of a text, unless a text or any value is wanted. -/
theorem castTo_string_eq_null_iff (ha : target ≠ .any) (hs : target ≠ .string) :
    (string s).castTo target role = .ok .null ↔ s = "null" ∨ target = .date ∧ Text.allBlank s.toList = true := by
  by_cases hn : s = "null"
  · subst hn
    exact ⟨fun _ => .inl rfl, fun _ => rfl⟩
  · have hsource : ValueType.string ∈ sourcesOf target := by cases target <;> decide
    rw [castTo_eq_convert (isNullLike_string_eq_false_iff.mpr hn) hsource]
    cases target with
    | any => exact absurd rfl ha
    | string => exact absurd rfl hs
    | boolean => simp [convert_ne_null (.inl rfl), hn]
    | number => simp [convert_ne_null (.inr rfl), hn]
    | date =>
      have hdate : (string s).convert .date = .ok .null ↔ _ := dateOfText_eq_null_iff
      simpa [hn] using hdate

end Value

namespace Expr

variable {target : ValueType} {v : Value}

theorem castResult_null : castResult target .null = pure .null := by
  unfold castResult
  split <;> rfl

/-- The values, other than null, of which the cast to a return type makes null. -/
theorem castResult_eq_null_iff (hv : v ≠ .null) :
    (castResult target v).outcome = .ok .null ↔ v.Vanishes target := by
  by_cases ha : target = .any
  · subst ha
    exact ⟨fun h => absurd (Except.ok.inj h) hv, fun h => absurd rfl h.1⟩
  · by_cases ht : v.type = target
    · subst ht
      rw [castResult_type]
      refine ⟨fun h => absurd (Except.ok.inj h) hv, ?_⟩
      rintro ⟨-, hs, s, rfl, -⟩
      exact absurd rfl hs
    · rw [outcome_castResult_of_ne ha ht, Except.mapError_eq_ok_iff]
      by_cases hs : v.type = .string
      · obtain ⟨s, rfl⟩ := Value.type_eq_string_iff.mp hs
        have hts : target ≠ .string := fun h => ht h.symm
        rw [Value.castTo_string_eq_null_iff ha hts]
        simp [Value.Vanishes, ha, hts]
      · refine ⟨fun h => absurd h (Value.castTo_ne_null hv hs), ?_⟩
        rintro ⟨-, -, s, rfl, -⟩
        exact absurd rfl hs

end Expr

/-! ## Recovery -/

/-- An evaluation with a default in place of its error, which is kept as recovered. -/
def Evaluation.recover (default : Value) (intro : Option String) (x : Evaluation) : Evaluation :=
  match x.outcome with
  | .ok _ => x
  | .error e => ⟨x.events, [⟨e, intro, default⟩], .ok default⟩

namespace Evaluation

variable {x : Evaluation} {default : Value} {intro : Option String}

theorem events_recover : (x.recover default intro).events = x.events := by
  unfold recover
  split <;> rfl

theorem recover_of_ok {v : Value} (h : x.outcome = .ok v) : x.recover default intro = x := by
  rw [recover, h]

theorem recover_of_error {e : EvalError} (h : x.outcome = .error e) :
    x.recover default intro = ⟨x.events, [⟨e, intro, default⟩], .ok default⟩ := by
  rw [recover, h]

/-- A recovered evaluation has the value that it had, or the default. -/
theorem outcome_recover : (x.recover default intro).outcome = .ok (x.outcome.toOption.getD default) := by
  unfold recover
  split
  · rename_i h
    rw [h]
    rfl
  · rename_i h
    rw [h]
    rfl

end Evaluation

section

variable {env : Environment} {options : Options} {root : Json}

/-- With a default, an evaluation is its run, recovered. -/
theorem evaluate_some (env : Environment) (options : Options) (default : Value) (root : Json) :
    evaluate env { options with default := some default } root =
      ((Expr.evaluateStrictly env { options with default := some default } root).inside root).recover
        default options.intro := by
  unfold evaluate Evaluation.recover Run.inside
  cases h : (Expr.evaluateStrictly env { options with default := some default } root).outcome <;>
    simp [h]

/-- A value that is null is replaced by the default before it is cast. -/
theorem evaluate_some_of_null (default : Value)
    (h : (Expr.evalNode env options.limit [] root).outcome = .ok .null) :
    evaluate env { options with default := some default } root =
      ⟨(Expr.evalNode env options.limit [] root).events, [], .ok default⟩ := by
  rw [evaluate_some, Expr.evaluateStrictly, Run.bind_of_ok h]
  simp [Expr.finish, Value.isNull, Run.inside, Evaluation.recover]

theorem evaluate_none_of_null (h : (Expr.evalNode env options.limit [] root).outcome = .ok .null) :
    evaluate env { options with default := none } root =
      ⟨(Expr.evalNode env options.limit [] root).events, [], .ok .null⟩ := by
  rw [evaluate_none, Run.bind_of_ok h, Expr.castResult_null]
  simp [Run.inside]

/-- Unless a value is null, the evaluation with a default is the one without it, recovered. -/
theorem evaluate_some_of_ne_null (default : Value)
    (h : (Expr.evalNode env options.limit [] root).outcome ≠ .ok .null) :
    evaluate env { options with default := some default } root =
      (evaluate env { options with default := none } root).recover default options.intro := by
  rw [evaluate_some, evaluate_none, Expr.evaluateStrictly]
  cases hv : (Expr.evalNode env options.limit [] root).outcome with
  | error failure => rw [Run.bind_of_error hv, Run.bind_of_error hv]
  | ok v =>
    have hnull : v.isNull = false := by
      cases v with
      | null => exact absurd hv h
      | _ => rfl
    rw [Run.bind_of_ok hv, Run.bind_of_ok hv]
    simp [Expr.finish, hnull]

end

/-- A default changes neither the events nor any value but null. It takes the place of an error, which is
recovered with it once; where null would be the value, nothing is recovered, and the value is the default or
still null. -/
theorem evaluate_recovers (env : Environment) (options : Options) (default : Value) (root : Json) :
    let strict := evaluate env { options with default := none } root
    let lenient := evaluate env { options with default := some default } root
    lenient.events = strict.events ∧ strict.recovered = [] ∧
      (∀ e, strict.outcome = .error e →
        lenient.outcome = .ok default ∧ lenient.recovered = [⟨e, options.intro, default⟩]) ∧
      (∀ v, strict.outcome = .ok v → v ≠ .null → lenient.outcome = .ok v ∧ lenient.recovered = []) ∧
      (strict.outcome = .ok .null →
        (lenient.outcome = .ok default ∨ lenient.outcome = .ok .null) ∧ lenient.recovered = []) := by
  intro strict lenient
  have hrecovered : strict.recovered = [] := by
    rw [show strict = _ from evaluate_none env options root, Run.inside]
  by_cases h : (Expr.evalNode env options.limit [] root).outcome = .ok .null
  · have hlenient : lenient = ⟨(Expr.evalNode env options.limit [] root).events, [], .ok default⟩ :=
      evaluate_some_of_null default h
    have hstrict : strict = ⟨(Expr.evalNode env options.limit [] root).events, [], .ok .null⟩ :=
      evaluate_none_of_null h
    rw [hlenient, hstrict]
    refine ⟨rfl, rfl, fun e he => ?_, fun v hv hn => ?_, fun _ => ⟨.inl rfl, rfl⟩⟩
    · cases he
    · cases hv
      exact absurd rfl hn
  · have hlenient : lenient = strict.recover default options.intro := evaluate_some_of_ne_null default h
    rw [hlenient]
    refine ⟨Evaluation.events_recover, hrecovered, fun e he => ?_, fun v hv _ => ?_, fun hv => ?_⟩
    · rw [Evaluation.recover_of_error he]
      exact ⟨rfl, rfl⟩
    · rw [Evaluation.recover_of_ok hv]
      exact ⟨hv, hrecovered⟩
    · rw [Evaluation.recover_of_ok hv]
      exact ⟨.inr hv, hrecovered⟩

/-- What fails inside a connective is recovered with the introduction and the default. -/
theorem not_maybe_recovered :
    let options : Options := { intro := some "Evaluating hidden" }
    let root := Json.call .and [.call .not [.string "maybe"], .bool true]
    let e : EvalError := ⟨.cast (.unexpected (.string "maybe") .boolean), root, [1, 1]⟩
    let lenient := evaluate {} { options with default := some (.boolean false) } root
    (evaluate {} { options with default := none } root).outcome = .error e ∧
      lenient.outcome = .ok (.boolean false) ∧
      lenient.recovered = [⟨e, some "Evaluating hidden", .boolean false⟩] := by
  intro options root e lenient
  have he : (evaluate {} { options with default := none } root).outcome = .error e := rfl
  obtain ⟨-, -, herror, -, -⟩ := evaluate_recovers {} options (.boolean false) root
  exact ⟨he, herror e he⟩

/-- With a default, every evaluation has a value. It is the default or not null, unless the return type makes
null of a text that is not null itself. -/
theorem evaluate_some_ne_null_iff (env : Environment) (options : Options) (default : Value) (root : Json) :
    ∃ v, (evaluate env { options with default := some default } root).outcome = .ok v ∧
      (v = default ∨ v ≠ .null ↔ default = .null ∨
        ∀ u, (evaluate env { options with default := none, returnType := .any } root).outcome = .ok u →
          ¬u.Vanishes options.returnType) := by
  cases h : (Expr.evalNode env options.limit [] root).outcome with
  | error failure =>
    refine ⟨default, ?_, iff_of_true (.inl rfl) (.inr ?_)⟩
    · rw [evaluate_some_of_ne_null default (by simp [h]), Evaluation.outcome_recover,
        outcome_none_of_error h options.returnType]
      rfl
    · rw [outcome_none_of_error h]
      nofun
  | ok u =>
    have hany : (evaluate env { options with default := none, returnType := .any } root).outcome = .ok u := by
      rw [outcome_none_of_ok h, Expr.castResult_any]
      rfl
    simp only [hany, Except.ok.injEq, forall_eq']
    by_cases hu : u = .null
    · subst hu
      refine ⟨default, ?_, iff_of_true (.inl rfl) (.inr ?_)⟩
      · rw [evaluate_some_of_null default h]
      · rintro ⟨-, -, _, ⟨⟩, -⟩
    · refine ⟨(Expr.castResult options.returnType u).outcome.toOption.getD default, ?_, ?_⟩
      · rw [evaluate_some_of_ne_null default (by simp [h, hu]), Evaluation.outcome_recover,
          outcome_none_of_ok h options.returnType, Except.toOption_mapError]
      · rw [← Expr.castResult_eq_null_iff hu]
        cases (Expr.castResult options.returnType u).outcome with
        | error failure => simp [Except.toOption]
        | ok v =>
          simp only [Except.toOption, Option.getD_some, Except.ok.injEq]
          grind

/-- A blank text of which a date is wanted is null, and not the default. -/
theorem blank_date_is_null :
    let options : Options := { default := some (.string "unknown"), returnType := .date }
    (evaluate {} options (.string " ")).outcome = .ok .null ∧
      ¬∃ v, (evaluate {} options (.string " ")).outcome = .ok v ∧ (v = .string "unknown" ∨ v ≠ .null) := by
  intro options
  have hvalue : (Expr.evalNode {} options.limit [] (.string " ")).outcome = .ok (.string " ") := rfl
  have hblank : (Value.string " ").Vanishes .date :=
    ⟨by decide, by decide, " ", rfl, .inr ⟨rfl, by decide⟩⟩
  have hcast : (Expr.castResult .date (.string " ")).outcome = .ok .null :=
    (Expr.castResult_eq_null_iff (by simp)).mpr hblank
  have hnull : (evaluate {} options (.string " ")).outcome = .ok .null := by
    have hne : (Expr.evalNode {} options.limit [] (.string " ")).outcome ≠ .ok .null := by simp [hvalue]
    have hlenient := evaluate_some_of_ne_null (.string "unknown") hne
    have hstrict := outcome_none_of_ok hvalue .date
    rw [hcast] at hstrict
    rw [show evaluate {} options (.string " ") = _ from hlenient, Evaluation.outcome_recover,
      show (evaluate {} { options with default := none } (.string " ")).outcome = _ from hstrict]
    rfl
  refine ⟨hnull, ?_⟩
  rintro ⟨v, hv, h⟩
  rw [hnull] at hv
  cases hv
  rcases h with h | h
  · cases h
  · exact h rfl

end FormLang
