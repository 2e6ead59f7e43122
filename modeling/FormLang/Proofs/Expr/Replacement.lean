import Mathlib.Algebra.Group.Nat.Defs
import FormLang.Proofs.Expr.Argument

/-!
# Replacing a part of an expression

If two nodes end alike as the argument at a path, the expressions that hold them there end alike: with
the same value, or with the same cause at the same path (`evalNode_replace`). What an expression
shows of its evaluation apart from its calls and its own text is `Evaluation.Agrees`; the main result,
`agrees_replace`, is that a part can be replaced by any node that ends alike, by a literal of its
value, and a number by any number that has the same value.
-/

namespace FormLang

/-- Why and where an evaluation failed. -/
def EvalError.site (e : EvalError) : Cause × Path := (e.cause, e.path)

/-- Two evaluations end with the same value, or both fail for the same reason at the same path; and
the same failures are recovered with the same default. -/
structure Evaluation.Agrees (x y : Evaluation) : Prop where
  outcome : x.outcome.mapError EvalError.site = y.outcome.mapError EvalError.site
  recovered : x.recovered.map (fun r => (r.error.site, r.intro, r.default)) =
    y.recovered.map (fun r => (r.error.site, r.intro, r.default))

namespace Expr

variable {env : Environment} {limit : Nat}

/-- Arguments end alike if they differ at one index only and end alike there. -/
theorem evalArguments_modify {path : Path} {f : Builtin} {i j : Nat} {args : List Json}
    {change change' : Json → Json} {arg : Json} (hj : args[j]? = some arg)
    (h : (evalNode env limit (path ++ [i + j + 1]) (change arg)).outcome =
      (evalNode env limit (path ++ [i + j + 1]) (change' arg)).outcome) :
    (evalArguments env limit path f i (args.modify j change)).outcome =
      (evalArguments env limit path f i (args.modify j change')).outcome := by
  induction args generalizing i j with
  | nil => simp at hj
  | cons first args ih =>
    cases j with
    | zero =>
      obtain rfl : first = arg := by simpa using hj
      simp only [List.modify_zero_cons, evalArguments_cons, evalArgument, Run.outcome_bind]
      rw [h]
    | succ j =>
      have hi : i + 1 + j + 1 = i + (j + 1) + 1 := by omega
      have hs := ih (i := i + 1) (j := j) (by simpa using hj) (by rwa [hi])
      simp only [List.modify_succ_cons, evalArguments_cons, Run.outcome_bind, hs]

/-- An expression ends alike with two nodes at a path to an argument, if the nodes end alike there. -/
theorem evalNode_replace {path p : Path} {root a b : Json} (hp : p.IsArgument root)
    (h : (evalNode env limit (path ++ p) a).outcome = (evalNode env limit (path ++ p) b).outcome) :
    (evalNode env limit path (p.replace a root)).outcome =
      (evalNode env limit path (p.replace b root)).outcome := by
  induction p generalizing path root with
  | nil => simpa using h
  | cons i p ih =>
    obtain ⟨f, args, j, arg, rfl, rfl, hj, hp⟩ := Path.isArgument_cons_iff.mp hp
    have ha : (evalNode env limit (path ++ [0 + j + 1]) (Path.replace p a arg)).outcome =
        (evalNode env limit (path ++ [0 + j + 1]) (Path.replace p b arg)).outcome :=
      ih hp (by simpa using h)
    rw [Path.replace_call, Path.replace_call]
    exact outcome_evalNode_congr (evalArguments_modify hj ha)

end Expr

/-- Expressions that end alike have evaluations that agree. -/
theorem agrees_of_outcome_eq {env : Environment} {options : Options} {root root' : Json}
    (h : (Expr.evalNode env options.limit [] root).outcome =
      (Expr.evalNode env options.limit [] root').outcome) :
    (evaluate env options root).Agrees (evaluate env options root') := by
  have hs : (Expr.evaluateStrictly env options root).outcome =
      (Expr.evaluateStrictly env options root').outcome := by
    simp only [Expr.evaluateStrictly, Run.outcome_bind, h]
  unfold evaluate
  simp only [Run.inside, hs]
  split
  · exact ⟨rfl, rfl⟩
  · refine ⟨?_, rfl⟩
    cases (Expr.evaluateStrictly env options root').outcome <;> rfl

/-- At a path to an argument, an expression can hold any of the nodes that end alike there, a literal
instead of a node of its value, and any number of the same value. -/
theorem agrees_replace (env : Environment) (options : Options) {root : Json} {p : Path}
    (hp : p.IsArgument root) :
    (∀ a b, (Expr.evalNode env options.limit p a).outcome =
        (Expr.evalNode env options.limit p b).outcome →
      (evaluate env options (p.replace a root)).Agrees (evaluate env options (p.replace b root))) ∧
    (∀ node literal, p.node? root = some node → isExpression literal = false →
      (Expr.evalNode env options.limit p node).outcome = .ok (Value.ofJson literal) →
      (evaluate env options root).Agrees (evaluate env options (p.replace literal root))) ∧
    ∀ m n : Json.Number, m.toBinary64 = n.toBinary64 →
      (evaluate env options (p.replace (.number m) root)).Agrees
        (evaluate env options (p.replace (.number n) root)) := by
  have congr : ∀ a b, (Expr.evalNode env options.limit p a).outcome =
      (Expr.evalNode env options.limit p b).outcome →
      (evaluate env options (p.replace a root)).Agrees (evaluate env options (p.replace b root)) :=
    fun a b h => agrees_of_outcome_eq (Expr.evalNode_replace hp h)
  refine ⟨congr, fun node literal hn hl h => ?_, fun m n h => congr _ _ ?_⟩
  · have ha := congr node literal (by rw [h, Expr.evalNode_literal hl]; rfl)
    rwa [Path.replace_of_node? hn] at ha
  · rw [Expr.evalNode_literal rfl, Expr.evalNode_literal rfl, Value.ofJson, Value.ofJson, h]

/-- The length of a text can be written as `2`, and that as `2.0`. -/
theorem stringLength_agrees_two :
    let length := Json.call .stringLength [.string "ab"]
    let two : Json.Number := .int ⟨2, by decide, by decide⟩
    let twoPointZero : Json.Number := .float ⟨false, 2 ^ 52, 1023, by decide, by decide, by decide⟩
    let root (node : Json) := Json.call .concat [node, .string "x"]
    (evaluate {} {} (root length)).Agrees (evaluate {} {} (root (.number twoPointZero))) ∧
      (evaluate {} {} (root length)).Agrees (evaluate {} {} (root (.number two))) ∧
      (evaluate {} {} (root (.number two))).Agrees (evaluate {} {} (root (.number twoPointZero))) := by
  intro length two twoPointZero root
  have hp : Path.IsArgument [1] (root length) :=
    Path.isArgument_call_iff.mpr ⟨0, length, rfl, rfl, Path.isArgument_nil _⟩
  have hv : two.toBinary64 = twoPointZero.toBinary64 := by decide +kernel
  have hl : (Expr.evalNode {} defaultLimit [1] length).outcome = .ok (.number two.toBinary64) := rfl
  have h := agrees_replace {} {} hp
  exact ⟨h.1 length (.number twoPointZero) (by rw [hv] at hl; exact hl),
    h.2.1 length (.number two) rfl rfl hl, h.2.2 two twoPointZero hv⟩

end FormLang
