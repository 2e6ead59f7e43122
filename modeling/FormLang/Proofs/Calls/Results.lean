import FormLang.Calls.Dispatch
import FormLang.Proofs.Except
import FormLang.Proofs.Value.Fits

/-!
# Results of calls

A call that returns gives a value that fits the declared type of its result (`Builtin.call_fits`), one
family of functions after the other. So the cast of a result never fails (`Builtin.cast_of_call`).
-/

namespace FormLang

open Value (fits_any)

namespace Calls

theorem Logical.compare_fits (rel : Binary64 → Binary64 → Bool) (args : Arguments) :
    (Logical.compare rel args).fits .boolean = true := by
  simp only [Logical.compare]
  split <;> rfl

theorem Logical.call_fits {f : Builtin} {args : Arguments} {v : Value}
    (h : Logical.call f args = .ok v) : v.fits f.signature.result = true := by
  cases f with
  | equals | notEquals | not | and | or => cases h; rfl
  | greaterThan | greaterThanEq | lessThan | lessThanEq => cases h; exact compare_fits ..
  | ifElse => exact fits_any v
  | _ => cases h

theorem Texts.both_fits (args : Arguments) (default : Bool) (test : List Char → List Char → Bool) :
    (Texts.both args default test).fits .boolean = true := by
  simp only [Texts.both]
  split <;> rfl

theorem Texts.mapText_fits (change : List Char → List Char) (args : Arguments) :
    (Texts.mapText change args).fits .string = true := by
  simp only [Texts.mapText]
  split <;> rfl

theorem Texts.call_fits {f : Builtin} {args : Arguments} {v : Value}
    (h : Texts.call f args = .ok v) : v.fits f.signature.result = true := by
  cases f with
  | contains | notContains | startsWith | endsWith | commaContains => cases h; exact both_fits ..
  | lowerCase | upperCase => cases h; exact mapText_fits ..
  | concat | stringLength => cases h; rfl
  | _ => cases h

theorem Arithmetic.call_fits {f : Builtin} {args : Arguments} {v : Value}
    (h : Arithmetic.call f args = .ok v) : v.fits f.signature.result = true := by
  cases f with
  | round =>
    obtain ⟨places, -, rfl⟩ := Except.map_eq_ok_iff.mp h
    rfl
  | _ => cases h

theorem Dates.call_fits {f : Builtin} {env : Environment} {args : Arguments} {v : Value}
    (h : Dates.call f env args = .ok v) : v.fits f.signature.result = true := by
  cases f with
  | formatDate =>
    simp only [Dates.call] at h
    split at h
    · cases h; rfl
    · split at h <;> cases h
      rfl
  | _ => cases h

namespace Lookup

theorem textOrNull_fits (text : Option String) : (textOrNull text).fits .string = true := by
  cases text <;> rfl

theorem hasRole_fits (sources : Sources) (args : Arguments) :
    (hasRole sources args).fits .boolean = true := by
  simp only [hasRole]
  split <;> rfl

theorem linkToPage_fits (sources : Sources) (args : Arguments) :
    (linkToPage sources args).fits .string = true := by
  simp only [linkToPage]
  split <;> rfl

theorem call_fits {f : Builtin} {env : Environment} {args : Arguments} {v : Value}
    (h : Lookup.call f env args = .ok v) : v.fits f.signature.result = true := by
  cases f with
  | argv | value | frontendSettings | component | dataModel => exact fits_any v
  | hasRole => cases h; exact hasRole_fits ..
  | linkToPage => cases h; exact linkToPage_fits ..
  | text => cases h; exact textOrNull_fits _
  | language => cases h; rfl
  | instanceContext =>
    simp only [Lookup.call, instanceContext] at h
    split at h <;> cases h
    exact textOrNull_fits _
  | authContext =>
    simp only [Lookup.call, authContext] at h
    split at h <;> cases h
    rfl
  | externalApi =>
    simp only [Lookup.call, externalApi] at h
    split at h
    · cases h
    · split at h <;> cases h
      · rfl
      · rfl
      · exact textOrNull_fits _
  | displayValue =>
    simp only [Lookup.call, displayValue] at h
    split at h
    · cases h
    · obtain ⟨text, -, rfl⟩ := Except.map_eq_ok_iff.mp h
      exact textOrNull_fits _
  | linkToComponent =>
    simp only [Lookup.call, linkToComponent] at h
    split at h
    · split at h <;> cases h
      rfl
    · cases h; rfl
  | selectAndMap =>
    simp only [Lookup.call, selectAndMap] at h
    split at h
    · obtain ⟨data, -, rfl⟩ := Except.map_eq_ok_iff.mp h
      split <;> rfl
    · cases h
  | _ => cases h

end Lookup

end Calls

namespace Builtin

/-- A call that returns gives a value that fits the declared type of its result. -/
theorem call_fits {f : Builtin} {env : Environment} {args : Arguments} {v : Value}
    (h : f.call env args = .ok v) : v.fits f.signature.result = true := by
  simp only [call, Family.call] at h
  split at h
  · exact Calls.Logical.call_fits h
  · exact Calls.Texts.call_fits h
  · exact Calls.Arithmetic.call_fits h
  · exact Calls.Dates.call_fits h
  · exact Calls.Lookup.call_fits h

/-- The cast of a result never fails. -/
theorem cast_of_call {f : Builtin} {env : Environment} {args : Arguments} {v : Value}
    (h : f.call env args = .ok v) :
    ∃ w, v.cast (some f.signature.result) .result = .ok w ∧ w.fits f.signature.result = true :=
  Value.castTo_of_fits .result (call_fits h)

end Builtin

end FormLang
