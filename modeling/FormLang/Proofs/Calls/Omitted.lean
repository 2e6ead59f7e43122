import FormLang.Calls.Dispatch

/-!
# Arguments that are left out

An argument that is left out reads as null. A function that takes no more than a fixed number of arguments reads each of
them by its index, so its calls depend on nothing but what the indices read (`Builtin.call_congr`), and nulls behind the
last argument read like nothing at all (`Arguments.value_append_nulls`). Three functions visit all of their arguments:
to two of them a null adds nothing, but it makes a conjunction false. So no function but the conjunction can tell
whether nulls follow its arguments (`Builtin.call_append_nulls`).
-/

namespace FormLang

variable {args args' : Arguments} {f : Builtin} {env : Environment} {m : Nat}

/-! ## Arguments -/

namespace Arguments

/-- Nulls behind the last argument read like arguments that are left out. -/
theorem value_append_nulls (args : Arguments) (n : Nat) :
    value (args ++ List.replicate n .null) = args.value := by
  funext i
  rcases Nat.lt_or_ge i args.length with h | h
  · simp only [value, List.getElem?_append_left h]
  · simp only [value, List.getElem?_append_right h, List.getElem?_eq_none h, List.getElem?_replicate]
    split <;> rfl

theorem text?_congr (h : args.value = args'.value) : args.text? = args'.text? := by
  funext i
  rw [text?, text?, h]

theorem number?_congr (h : args.value = args'.value) : args.number? = args'.number? := by
  funext i
  rw [number?, number?, h]

theorem boolean?_congr (h : args.value = args'.value) : args.boolean? = args'.boolean? := by
  funext i
  rw [boolean?, boolean?, h]

theorem date?_congr (h : args.value = args'.value) : args.date? = args'.date? := by
  funext i
  rw [date?, date?, h]

end Arguments

/-! ## Families -/

namespace Calls

open Arguments (text?_congr number?_congr boolean?_congr date?_congr)

theorem Logical.call_congr (hm : f.signature.maxArguments? = some m) (h : args.value = args'.value) :
    Logical.call f args = Logical.call f args' := by
  cases f with
  | and | or => cases hm
  | equals | notEquals | not | ifElse => simp only [Logical.call, h]
  | greaterThan | greaterThanEq | lessThan | lessThanEq =>
    simp only [Logical.call, compare, number?_congr h]
  | _ => rfl

theorem Texts.call_congr (hm : f.signature.maxArguments? = some m) (h : args.value = args'.value) :
    Texts.call f args = Texts.call f args' := by
  cases f with
  | concat => cases hm
  | contains | notContains | startsWith | endsWith | commaContains =>
    simp only [Texts.call, both, text?_congr h]
  | stringLength | lowerCase | upperCase => simp only [Texts.call, mapText, text?_congr h]
  | _ => rfl

theorem Arithmetic.call_congr (h : args.value = args'.value) :
    Arithmetic.call f args = Arithmetic.call f args' := by
  unfold Arithmetic.call
  rw [number?_congr h]

theorem Dates.call_congr (h : args.value = args'.value) :
    Dates.call f env args = Dates.call f env args' := by
  unfold Dates.call
  rw [date?_congr h, text?_congr h]

theorem Lookup.call_congr (h : args.value = args'.value) :
    Lookup.call f env args = Lookup.call f env args' := by
  have ht := text?_congr h
  cases f with
  | argv => simp only [Lookup.call, positionalValue, number?_congr h]
  | value => simp only [Lookup.call, namedValue, ht]
  | instanceContext | frontendSettings | authContext =>
    simp only [Lookup.call, instanceContext, frontendSetting, authContext, ht]
  | component | dataModel | displayValue | externalApi =>
    simp only [Lookup.call, component, dataModel, displayValue, externalApi, ht]
  | hasRole | text => simp only [Lookup.call, hasRole, ht]
  | linkToComponent | linkToPage => simp only [Lookup.call, linkToComponent, linkToPage, ht]
  | selectAndMap => simp only [Lookup.call, selectAndMap, ht, boolean?_congr h]
  | _ => rfl

end Calls

/-! ## Functions -/

namespace Builtin

/-- A function with a greatest number of arguments reads them by their index only. -/
theorem call_congr (hm : f.signature.maxArguments? = some m) (h : args.value = args'.value) :
    f.call env args = f.call env args' := by
  unfold call
  cases f.family with
  | logical => exact Calls.Logical.call_congr hm h
  | string => exact Calls.Texts.call_congr hm h
  | arithmetic => exact Calls.Arithmetic.call_congr h
  | datetime => exact Calls.Dates.call_congr h
  | lookup => exact Calls.Lookup.call_congr h

/-- The functions that take any number of arguments. -/
theorem maxArguments?_eq_none_iff : f.signature.maxArguments? = none ↔ f = .concat ∨ f = .and ∨ f = .or := by
  cases f <;> decide

/-- Every function but the conjunction ignores nulls at the end of its arguments. -/
theorem call_append_nulls (hf : f ≠ .and) (env : Environment) (args : Arguments) (n : Nat) :
    f.call env (args ++ List.replicate n .null) = f.call env args := by
  cases hm : f.signature.maxArguments? with
  | some m => exact call_congr hm (args.value_append_nulls n)
  | none =>
    obtain rfl | rfl | rfl := maxArguments?_eq_none_iff.mp hm
    · have hnulls : (List.replicate n Value.null).flatMap Calls.Texts.charsOf = [] := by
        simp [Calls.Texts.charsOf]
      simp [call, family, Family.call, Calls.Texts.call, hnulls]
    · exact absurd rfl hf
    · have hnulls : (List.replicate n Value.null).any Calls.Logical.isTrue = false := by
        simp [Calls.Logical.isTrue]
      simp [call, family, Family.call, Calls.Logical.call, hnulls]

end Builtin

end FormLang
