import FormLang.Proofs.Binary64.Equality
import FormLang.Proofs.Calls.Regular
import FormLang.Proofs.Expr.Evaluation

/-!
# Equality of literals

Literals are compared as texts. `Scalar.normalForm` is the text that a literal is compared by:

* `castTo_string_json`: it is what the cast to a text makes of the literal;
* `evalNode_equals`, `evalNode_notEquals`: so literals are equal if they have the same normal form.

Numbers are equal as texts if and only if they are equal as numbers (`normalForm_number_eq_iff`), and then each is
at most the other. `evaluate_equals` puts this together for whole evaluations.
-/

namespace FormLang

open Calls.Lookup (textOrNull)

/-- A literal that is neither an array nor an object. -/
inductive Scalar where
  | null
  | bool (b : Bool)
  | number (n : Json.Number)
  | string (s : String)

namespace Scalar

/-- A literal as JSON. -/
def json : Scalar → Json
  | .null => .null
  | .bool b => .bool b
  | .number n => .number n
  | .string s => .string s

/-- The text that a literal is compared by; null has none. The words `null`, `true` and `false` stand for null
and the booleans in any case, and numbers for the texts that users see. -/
def normalForm : Scalar → Option String
  | .null => none
  | .bool b => some (if b then "true" else "false")
  | .number n => some (String.ofList n.toBinary64.display)
  | .string s =>
    if Value.lowerText s = "null" then none
    else if Value.lowerText s = "true" ∨ Value.lowerText s = "false" then some (Value.lowerText s)
    else some s

theorem isExpression_json (a : Scalar) : isExpression a.json = false := by
  cases a <;> rfl

/-- The cast to a text makes the normal form of a literal. -/
theorem castTo_string_json (a : Scalar) (role : CastRole) :
    (Value.ofJson a.json).castTo .string role = .ok (textOrNull a.normalForm) := by
  cases a with
  | null => rfl
  | bool b => cases b <;> rfl
  | number n =>
    rw [json, Value.ofJson, normalForm, Value.castTo_eq_convert rfl (by simp [Value.type, Value.sourcesOf]),
      Value.convert, Value.toText?, if_pos n.isFinite_toBinary64]
    rfl
  | string s =>
    rw [json, Value.ofJson]
    by_cases hs : s = "null"
    · have hlower : Value.lowerText s = "null" := by
        rw [hs]
        decide +kernel
      rw [normalForm, if_pos hlower, hs]
      rfl
    · have hnull := Value.isNullLike_string_eq_false_iff.mpr hs
      rw [Value.castTo_eq_convert hnull (by simp [Value.type, Value.sourcesOf]), Value.convert,
        Value.toText?, Value.ofWord_eq, normalForm]
      split
      · rfl
      · split <;> rfl

/-- A text that is no reserved word in another case is compared as it is. -/
theorem normalForm_of_isNormal {s : String} (h : (Value.string s).IsNormal) :
    (Scalar.string s).normalForm = some s := by
  have hcast := (Scalar.string s).castTo_string_json .argument
  rw [json, Value.ofJson, Value.castTo_string_eq_ok_iff.mpr h] at hcast
  cases hn : (Scalar.string s).normalForm with
  | none =>
    rw [hn] at hcast
    cases hcast
  | some t =>
    rw [hn] at hcast
    cases hcast
    rfl

theorem same_textOrNull (s t : Option String) : (textOrNull s).same (textOrNull t) = decide (s = t) := by
  cases s <;> cases t <;> simp [textOrNull, Value.same, beq_eq_decide]

/-- Numbers have the same normal form if and only if they are equal. -/
theorem normalForm_number_eq_iff (m n : Json.Number) :
    (number m).normalForm = (number n).normalForm ↔ m.toBinary64.eq n.toBinary64 = true := by
  rw [normalForm, normalForm, Option.some.injEq, String.ofList_inj]
  exact Binary64.display_eq_iff_eq m.isFinite_toBinary64 n.isFinite_toBinary64

end Scalar

namespace Expr

variable {env : Environment} {limit : Nat} {path : Path}

/-- A function of two arguments of one type that gives a boolean, called with two nodes that have values. -/
theorem outcome_call_pair (hl : path.length < limit) {f : Builtin} {target : ValueType} {a b : Json}
    {x y u w : Value} {c : Bool}
    (hf : f.signature.typeAt? 0 = some target ∧ f.signature.typeAt? 1 = some target ∧
      f.signature.result = .boolean)
    (ha : (evalNode env limit (path ++ [1]) a).outcome = .ok x ∧ x.castTo target .argument = .ok u)
    (hb : (evalNode env limit (path ++ [2]) b).outcome = .ok y ∧ y.castTo target .argument = .ok w)
    (hcall : f.call env [u, w] = .ok (.boolean c)) :
    (evalNode env limit path (.call f [a, b])).outcome = .ok (.boolean c) := by
  refine outcome_evalNode_pair hl ⟨hf.1, hf.2.1⟩ ha hb hcall ?_
  rw [hf.2.2]
  rfl

theorem outcome_evalNode_scalar (a : Scalar) :
    (evalNode env limit path a.json).outcome = .ok (Value.ofJson a.json) := by
  rw [evalNode_literal a.isExpression_json]
  rfl

/-- Literals are equal if they have the same normal form. -/
theorem evalNode_equals (hl : path.length < limit) (a b : Scalar) :
    (evalNode env limit path (.call .equals [a.json, b.json])).outcome =
      .ok (.boolean (a.normalForm = b.normalForm)) := by
  refine outcome_call_pair hl ⟨rfl, rfl, rfl⟩ ⟨outcome_evalNode_scalar a, a.castTo_string_json _⟩
    ⟨outcome_evalNode_scalar b, b.castTo_string_json _⟩ ?_
  rw [← Scalar.same_textOrNull]
  rfl

theorem evalNode_notEquals (hl : path.length < limit) (a b : Scalar) :
    (evalNode env limit path (.call .notEquals [a.json, b.json])).outcome =
      .ok (.boolean (a.normalForm ≠ b.normalForm)) := by
  refine outcome_call_pair hl ⟨rfl, rfl, rfl⟩ ⟨outcome_evalNode_scalar a, a.castTo_string_json _⟩
    ⟨outcome_evalNode_scalar b, b.castTo_string_json _⟩ ?_
  rw [decide_not, ← Scalar.same_textOrNull]
  rfl

theorem evalNode_equals_number (hl : path.length < limit) (m n : Json.Number) :
    (evalNode env limit path (.call .equals [.number m, .number n])).outcome =
      .ok (.boolean (m.toBinary64.eq n.toBinary64)) := by
  have h := @evalNode_equals env _ _ hl (.number m) (.number n)
  have heq : decide ((Scalar.number m).normalForm = (Scalar.number n).normalForm) =
      m.toBinary64.eq n.toBinary64 := by
    rw [Bool.eq_iff_iff, decide_eq_true_iff, Scalar.normalForm_number_eq_iff]
  rwa [heq] at h

/-- A number is at least and at most another if and only if the two are equal. -/
theorem evalNode_between (hl : path.length + 1 < limit) (m n : Json.Number) :
    (evalNode env limit path (.call .and [.call .greaterThanEq [.number m, .number n],
      .call .lessThanEq [.number m, .number n]])).outcome = .ok (.boolean (m.toBinary64.eq n.toBinary64)) := by
  have hnumber (k : Json.Number) (q : Path) : (evalNode env limit q (.number k)).outcome =
      .ok (.number k.toBinary64) ∧
      (Value.number k.toBinary64).castTo .number .argument = .ok (.number k.toBinary64) :=
    ⟨outcome_evalNode_scalar (.number k), rfl⟩
  have hpath (i : Nat) : (path ++ [i]).length < limit := by simpa using hl
  have hge : (evalNode env limit (path ++ [1]) (.call .greaterThanEq [.number m, .number n])).outcome =
      .ok (.boolean (n.toBinary64.le m.toBinary64)) :=
    outcome_call_pair (hpath 1) ⟨rfl, rfl, rfl⟩ (hnumber m _) (hnumber n _) rfl
  have hle : (evalNode env limit (path ++ [2]) (.call .lessThanEq [.number m, .number n])).outcome =
      .ok (.boolean (m.toBinary64.le n.toBinary64)) :=
    outcome_call_pair (hpath 2) ⟨rfl, rfl, rfl⟩ (hnumber m _) (hnumber n _) rfl
  have hand (p q : Bool) : Builtin.and.call env [.boolean p, .boolean q] = .ok (.boolean (p && q)) := by
    cases p <;> cases q <;> rfl
  refine outcome_call_pair (by omega) ⟨rfl, rfl, rfl⟩ ⟨hge, rfl⟩ ⟨hle, rfl⟩ ?_
  rw [hand, Binary64.le_and_le]

end Expr

/-- Whatever the data and the default, literals are equal if and only if they have the same normal form, which
is an equivalence, and unequal if and only if they are not equal. Numbers are equal if and only if they have the
same value, and if and only if each is at most the other. -/
theorem evaluate_equals (env : Environment) {options : Options} (hl : 2 ≤ options.limit)
    (ht : options.returnType = .any ∨ options.returnType = .boolean) :
    let value (root : Json) := (evaluate env options root).outcome
    (∀ a b : Scalar,
      value (.call .equals [a.json, b.json]) = .ok (.boolean (a.normalForm = b.normalForm)) ∧
      value (.call .notEquals [a.json, b.json]) = .ok (.boolean (a.normalForm ≠ b.normalForm))) ∧
    (Equivalence fun a b : Scalar => value (.call .equals [a.json, b.json]) = .ok (.boolean true)) ∧
    ∀ m n : Json.Number, ∃ x y : Binary64.Finite, m.toBinary64 = .finite x ∧ n.toBinary64 = .finite y ∧
      (m.toBinary64.eq n.toBinary64 = true ↔ x.toRat = y.toRat) ∧
      value (.call .equals [.number m, .number n]) = .ok (.boolean (m.toBinary64.eq n.toBinary64)) ∧
      value (.call .and [.call .greaterThanEq [.number m, .number n],
        .call .lessThanEq [.number m, .number n]]) = .ok (.boolean (m.toBinary64.eq n.toBinary64)) := by
  intro value
  have hvalue {root : Json} {b : Bool}
      (h : (Expr.evalNode env options.limit [] root).outcome = .ok (.boolean b)) :
      value root = .ok (.boolean b) :=
    outcome_evaluate_of_type h rfl (ht.imp_right Eq.symm)
  have hroot : ([] : Path).length < options.limit := by
    rw [List.length_nil]
    omega
  have hequals (a b : Scalar) := hvalue (Expr.evalNode_equals hroot a b)
  have hiff (a b : Scalar) : value (.call .equals [a.json, b.json]) = .ok (.boolean true) ↔
      a.normalForm = b.normalForm := by
    rw [hequals]
    simp
  refine ⟨fun a b => ⟨hequals a b, hvalue (Expr.evalNode_notEquals hroot a b)⟩, ?_, fun m n => ?_⟩
  · simp only [hiff]
    exact ⟨fun _ => rfl, Eq.symm, Eq.trans⟩
  · obtain ⟨x, hx⟩ := Binary64.exists_of_isFinite m.isFinite_toBinary64
    obtain ⟨y, hy⟩ := Binary64.exists_of_isFinite n.isFinite_toBinary64
    refine ⟨x, y, hx, hy, ?_, hvalue (Expr.evalNode_equals_number hroot m n),
      hvalue (Expr.evalNode_between hl m n)⟩
    rw [hx, hy, Binary64.eq_finite_iff, Binary64.Finite.toRat_eq_iff]

/-- Zero is equal to the zero with a sign, and a text in upper case to null. -/
theorem zeros_equal :
    let options : Options := { returnType := .boolean, limit := 2 }
    let zero : Json.Number := .int ⟨0, by decide, by decide⟩
    let negativeZero : Json.Number := .float (.zero true)
    let value (root : Json) := (evaluate {} options root).outcome
    2 ≤ options.limit ∧ (options.returnType = .any ∨ options.returnType = .boolean) ∧
      value (.call .equals [.string "NULL", .null]) = .ok (.boolean true) ∧
      value (.call .notEquals [.string "NULL", .null]) = .ok (.boolean false) ∧
      value (.call .equals [.number zero, .number negativeZero]) = .ok (.boolean true) ∧
      value (.call .and [.call .greaterThanEq [.number zero, .number negativeZero],
        .call .lessThanEq [.number zero, .number negativeZero]]) = .ok (.boolean true) := by
  intro options zero negativeZero value
  have hl : 2 ≤ options.limit := Nat.le_refl 2
  have ht : options.returnType = .any ∨ options.returnType = .boolean := .inr rfl
  obtain ⟨hequals, -, hnumbers⟩ := evaluate_equals {} hl ht
  obtain ⟨hword, hwords⟩ := hequals (.string "NULL") .null
  have hnull : (Scalar.string "NULL").normalForm = Scalar.null.normalForm := by decide +kernel
  rw [hnull] at hword hwords
  obtain ⟨x, y, -, -, -, hzero, hbetween⟩ := hnumbers zero negativeZero
  have hsame : zero.toBinary64.eq negativeZero.toBinary64 = true := by decide +kernel
  rw [hsame] at hzero hbetween
  exact ⟨hl, ht, hword, hwords, hzero, hbetween⟩

end FormLang
