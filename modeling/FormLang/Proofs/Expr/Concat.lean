import FormLang.Proofs.Expr.Equality
import FormLang.Proofs.Expr.Omitted
import FormLang.Proofs.Value.Idempotent

/-!
# Concatenations inside concatenations

A concatenation joins the texts that its arguments are cast to, and the joined text is cast to a text itself. So it
can become one of the reserved words, though none of its pieces is one:

* `Scalar.joined`: the text that a concatenation of literals joins, and all that its value depends on
  (`outcome_evalNode_concat_congr`);
* `outcome_evalNode_nested`: a concatenation inside another one stands for a literal of the text that it joins;
* `joined_string`, `joined_null_word`, `joined_boolean_word`: how such a literal is joined again.

`evaluate_concat_nested` says of whole evaluations when the arguments can be taken out.
-/

namespace FormLang

open Calls.Lookup (textOrNull)

namespace Scalar

/-- The text that literals are joined to: the texts that they are cast to (`castTo_string_json`), one after the other,
without those that are null. -/
def joined (as : List Scalar) : String := String.ofList (as.flatMap fun a => (a.normalForm.getD "").toList)

theorem joined_append (as bs : List Scalar) : joined (as ++ bs) = joined as ++ joined bs := by
  rw [joined, List.flatMap_append, String.ofList_append]
  rfl

theorem joined_singleton (a : Scalar) : joined [a] = a.normalForm.getD "" := by
  rw [joined, List.flatMap_singleton, String.ofList_toList]

/-- The functions join values as the literals are joined. -/
theorem flatMap_charsOf (as : List Scalar) :
    (as.map fun a => textOrNull a.normalForm).flatMap Calls.Texts.charsOf = (joined as).toList := by
  rw [joined, String.toList_ofList, List.flatMap_map]
  congr 1
  funext a
  cases a.normalForm <;> rfl

/-- A text is joined as it is if it is no reserved word, or one of the words for the booleans in lower case. -/
theorem joined_string {s : String}
    (h : Value.lowerText s ∉ ["null", "true", "false"] ∨ s = "true" ∨ s = "false") : joined [.string s] = s := by
  have hnormal : (Value.string s).IsNormal := by
    rcases h with h | h
    · exact ⟨fun hnull => h (by simp [hnull]), fun word hword hlower =>
        absurd (hlower ▸ List.mem_cons_of_mem "null" hword) h⟩
    · exact Value.isNormal_word h
  rw [joined_singleton, normalForm_of_isNormal hnormal]
  rfl

/-- The word for null is left out, like null. -/
theorem joined_null_word {s : String} (h : Value.lowerText s = "null") : joined [.string s] = joined [] := by
  rw [joined_singleton, normalForm, if_pos h]
  rfl

/-- The words for the booleans are joined in lower case. -/
theorem joined_boolean_word {s : String} (h : Value.lowerText s = "true" ∨ Value.lowerText s = "false") :
    joined [.string s] = joined [.string (Value.lowerText s)] := by
  have hnull : Value.lowerText s ≠ "null" := by
    rcases h with h | h
    · simp [h]
    · simp [h]
  rw [joined_string (.inr h), joined_singleton, normalForm, if_neg hnull, if_pos h]
  rfl

end Scalar

namespace Expr

variable {env : Environment} {limit : Nat} {path : Path}

theorem typeAt?_concat (i : Nat) : Builtin.concat.signature.typeAt? i = some .string := by
  cases i <;> rfl

/-- As arguments of a concatenation, literals are the texts that they are cast to. -/
theorem outcome_evalArguments_scalars (i : Nat) (as : List Scalar) :
    (evalArguments env limit path .concat i (as.map Scalar.json)).outcome =
      .ok (as.map fun a => textOrNull a.normalForm) := by
  induction as generalizing i with
  | nil => exact outcome_evalArguments_nil .concat i
  | cons a as ih =>
    exact outcome_evalArguments_cons
      (outcome_evalArgument (outcome_evalNode_scalar a) (typeAt?_concat i) (a.castTo_string_json .argument))
      (ih (i + 1))

/-- A concatenation of literals gives the text that they are joined to, cast to a text. -/
theorem outcome_evalNode_concat (hl : path.length < limit) (as : List Scalar) :
    (evalNode env limit path (.call .concat (as.map Scalar.json))).outcome =
      .ok (textOrNull (Scalar.string (Scalar.joined as)).normalForm) := by
  rw [evalNode_expression (isExpression_call ..)]
  refine outcome_eval_call hl (outcome_evalArguments_scalars 0 as) ?_
    ((Scalar.string (Scalar.joined as)).castTo_string_json .result)
  change Except.ok (Value.string (String.ofList (List.flatMap _ _))) = _
  rw [Scalar.flatMap_charsOf, String.ofList_toList]
  rfl

/-- As an argument, a concatenation stands for a literal of the text that it joins. -/
theorem outcome_evalArgument_concat (i : Nat) (hl : path.length + 1 < limit) (as : List Scalar) :
    (evalArgument env limit path .concat i (.call .concat (as.map Scalar.json))).outcome =
      (evalArgument env limit path .concat i (Scalar.string (Scalar.joined as)).json).outcome := by
  have hpath : (path ++ [i + 1]).length < limit := by simpa using hl
  have hliteral := (Scalar.string (Scalar.joined as)).castTo_string_json .argument
  have hagain : (textOrNull (Scalar.string (Scalar.joined as)).normalForm).castTo .string .argument =
      .ok (textOrNull (Scalar.string (Scalar.joined as)).normalForm) := by
    refine Value.castTo_castTo (v := .string (Scalar.joined as)) trivial ?_ hliteral
    rintro ⟨-, x, hx, -⟩
    cases hx
  rw [outcome_evalArgument (outcome_evalNode_scalar (.string (Scalar.joined as))) (typeAt?_concat i) hliteral,
    outcome_evalArgument (outcome_evalNode_concat hpath as) (typeAt?_concat i) hagain]

/-- So it does in the middle of another concatenation. -/
theorem outcome_evalNode_nested (hl : path.length + 1 < limit) (xs ys zs : List Scalar) :
    (evalNode env limit path
      (.call .concat (xs.map Scalar.json ++ .call .concat (ys.map Scalar.json) :: zs.map Scalar.json))).outcome =
      (evalNode env limit path
        (.call .concat ((xs ++ .string (Scalar.joined ys) :: zs).map Scalar.json))).outcome := by
  rw [List.map_append, List.map_cons]
  refine outcome_evalNode_congr ?_
  simp only [outcome_evalArguments_append, evalArguments_cons, Run.outcome_bind, outcome_evalArgument_concat _ hl]

/-- Literals that join the same text can be exchanged. -/
theorem outcome_evalNode_concat_congr (hl : path.length < limit) {as bs : List Scalar}
    (h : Scalar.joined as = Scalar.joined bs) :
    (evalNode env limit path (.call .concat (as.map Scalar.json))).outcome =
      (evalNode env limit path (.call .concat (bs.map Scalar.json))).outcome := by
  rw [outcome_evalNode_concat hl, outcome_evalNode_concat hl, h]

end Expr

/-- If any value or a text is wanted, an expression that gives a text or null has a value, whatever the default. -/
theorem exists_outcome_evaluate_textOrNull {env : Environment} {options : Options} {root : Json} {text : Option String}
    (h : (Expr.evalNode env options.limit [] root).outcome = .ok (textOrNull text))
    (ht : options.returnType = .any ∨ options.returnType = .string) :
    ∃ v, (evaluate env options root).outcome = .ok v := by
  cases text with
  | some s => exact ⟨.string s, outcome_evaluate_of_type h rfl (ht.imp_right Eq.symm)⟩
  | none =>
    obtain ⟨v, hv⟩ : ∃ v, (Expr.finish options .null).outcome = .ok v := by
      unfold Expr.finish
      cases options.default with
      | some default => exact ⟨default, rfl⟩
      | none =>
        refine ⟨.null, ?_⟩
        rcases ht with ht | ht <;> rw [ht] <;> rfl
    refine ⟨v, (evaluate_of_ok ?_).1⟩
    rw [Expr.evaluateStrictly, Run.outcome_bind, h]
    exact hv

/-- Literals that are concatenated inside a concatenation can take the place of the concatenation, unless the text that
they join is a reserved word: if it is the word for null, they can be left out, and if it is a word for a boolean, it
can take their place in lower case. No such concatenation fails if any value or a text is wanted. -/
theorem evaluate_concat_nested (env : Environment) {options : Options} (hl : 2 ≤ options.limit)
    (xs ys zs : List Scalar) :
    let concat (args : List Json) := evaluate env options (.call .concat args)
    let nested := concat (xs.map Scalar.json ++ .call .concat (ys.map Scalar.json) :: zs.map Scalar.json)
    let flat (as : List Scalar) := concat (as.map Scalar.json)
    let joined := Scalar.joined ys
    (Value.lowerText joined ∉ ["null", "true", "false"] ∨ joined = "true" ∨ joined = "false" →
      nested.Agrees (flat (xs ++ ys ++ zs))) ∧
    (Value.lowerText joined = "null" → nested.Agrees (flat (xs ++ zs))) ∧
    (Value.lowerText joined = "true" ∨ Value.lowerText joined = "false" →
      nested.Agrees (flat (xs ++ .string (Value.lowerText joined) :: zs))) ∧
    (options.returnType = .any ∨ options.returnType = .string → ∃ v, nested.outcome = .ok v) := by
  intro concat nested flat joined
  have hroot : ([] : Path).length < options.limit := by
    rw [List.length_nil]
    omega
  -- The call inside stands for the literal of its text, which is joined like the literals that can take its place.
  have hnested := @Expr.outcome_evalNode_nested env _ [] hl xs ys zs
  have hflat {as : List Scalar} (h : Scalar.joined [.string joined] = Scalar.joined as) :
      nested.Agrees (flat (xs ++ as ++ zs)) := by
    refine agrees_of_outcome_eq (hnested.trans (Expr.outcome_evalNode_concat_congr hroot ?_))
    rw [List.append_cons]
    simp only [Scalar.joined_append, ← h]
    rfl
  refine ⟨fun h => hflat (Scalar.joined_string h), fun h => ?_, fun h => ?_, fun ht => ?_⟩
  · have hnull := hflat (Scalar.joined_null_word h)
    rwa [List.append_nil] at hnull
  · have hword := hflat (Scalar.joined_boolean_word h)
    rwa [← List.append_cons] at hword
  · exact exists_outcome_evaluate_textOrNull (hnested.trans (Expr.outcome_evalNode_concat hroot _)) ht

/-- Two halves of the word `null` vanish if they are joined on their own, and those of `true` are put into lower case. -/
theorem halves_of_words_nested :
    let options : Options := { returnType := .string, limit := 2 }
    let a := Scalar.string "a"
    let nested (ys : List Scalar) :=
      evaluate {} options (.call .concat ([a.json] ++ .call .concat (ys.map Scalar.json) :: [a.json]))
    let flat (as : List Scalar) := evaluate {} options (.call .concat (as.map Scalar.json))
    let null := [Scalar.string "NU", .string "LL"]
    let yes := [Scalar.string "TR", .null, .string "UE"]
    let other := [Scalar.bool true, .string "T"]
    2 ≤ options.limit ∧ (nested null).Agrees (flat [a, a]) ∧ (nested yes).Agrees (flat [a, .string "true", a]) ∧
      (nested other).Agrees (flat [a, .bool true, .string "T", a]) ∧
      (nested null).outcome = .ok (.string "aa") ∧ (flat ([a] ++ null ++ [a])).outcome = .ok (.string "aNULLa") := by
  intro options a nested flat null yes other
  have hl : 2 ≤ options.limit := Nat.le_refl 2
  obtain ⟨-, hnull, -, -⟩ := evaluate_concat_nested {} hl [a] null [a]
  obtain ⟨-, -, hyes, -⟩ := evaluate_concat_nested {} hl [a] yes [a]
  obtain ⟨hother, -, -, -⟩ := evaluate_concat_nested {} hl [a] other [a]
  have hlower : Value.lowerText (Scalar.joined yes) = "true" := by decide +kernel
  rw [hlower] at hyes
  exact ⟨hl, hnull (by decide +kernel), hyes (.inl rfl), hother (.inl (by decide +kernel)), rfl, rfl⟩

end FormLang
