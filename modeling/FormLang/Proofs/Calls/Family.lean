import FormLang.Calls.Dispatch
import FormLang.Proofs.Except

/-!
# Families and their functions

Each family implements all functions that belong to it, so no call fails because its family does not know
the function (`Builtin.call_ne_foreign`).
-/

namespace FormLang

namespace Calls

variable {f g : Builtin} {family : Family} {env : Environment} {args : Arguments}

theorem Logical.call_ne_foreign (hf : f.family = .logical) :
    Logical.call f args ≠ .error (.foreign family g) := by
  cases f with
  | equals | notEquals | not | greaterThan | greaterThanEq | lessThan | lessThanEq | and | or
  | ifElse => nofun
  | _ => cases hf

theorem Texts.call_ne_foreign (hf : f.family = .string) :
    Texts.call f args ≠ .error (.foreign family g) := by
  cases f with
  | concat | contains | notContains | endsWith | startsWith | stringLength | commaContains | lowerCase
  | upperCase => nofun
  | _ => cases hf

theorem Arithmetic.places_ne_foreign (x : Binary64) : places x ≠ .error (.foreign family g) := by
  cases x with
  | nan | infinite => nofun
  | finite y =>
    unfold places
    dsimp only
    split <;> nofun

theorem Arithmetic.call_ne_foreign (hf : f.family = .arithmetic) :
    Arithmetic.call f args ≠ .error (.foreign family g) := by
  cases f with
  | round => exact fun h => places_ne_foreign _ (Except.map_eq_error_iff.mp h)
  | _ => cases hf

theorem Dates.call_ne_foreign (hf : f.family = .datetime) :
    Dates.call f env args ≠ .error (.foreign family g) := by
  cases f with
  | formatDate =>
    unfold Dates.call
    dsimp only
    split
    · nofun
    · split <;> nofun
  | _ => cases hf

namespace Lookup

/-- A lookup in the sources fails for no other reason than the sources do. -/
theorem map_sourced_ne_foreign {α β : Type} (x : Except SourceError α) (k : α → β) :
    (sourced x).map k ≠ .error (.foreign family g) := by
  cases x <;> nofun

theorem call_ne_foreign (hf : f.family = .lookup) :
    Lookup.call f env args ≠ .error (.foreign family g) := by
  cases f with
  | hasRole | text | linkToPage | language => nofun
  | argv =>
    intro h
    simp only [Lookup.call, positionalValue] at h
    split at h
    · cases h
    · cases h
    · split at h
      · split at h <;> cases h
      · cases h
  | value =>
    intro h
    simp only [Lookup.call, namedValue] at h
    split at h
    · cases h
    · split at h
      · cases h
      · cases h
      · split at h <;> cases h
  | instanceContext | frontendSettings | authContext =>
    intro h
    simp only [Lookup.call, instanceContext, frontendSetting, authContext] at h
    split at h <;> cases h
  | component | dataModel | displayValue =>
    intro h
    simp only [Lookup.call, component, dataModel, displayValue] at h
    split at h
    · cases h
    · exact map_sourced_ne_foreign _ _ h
  | externalApi =>
    intro h
    simp only [Lookup.call, externalApi] at h
    split at h
    · cases h
    · split at h <;> cases h
  | linkToComponent =>
    intro h
    simp only [Lookup.call, linkToComponent] at h
    split at h
    · split at h <;> cases h
    · cases h
  | selectAndMap =>
    intro h
    simp only [Lookup.call, selectAndMap] at h
    split at h
    · exact map_sourced_ne_foreign _ _ h
    · cases h
  | _ => cases hf

end Lookup

end Calls

/-- A function is called by the family that implements it. -/
theorem Builtin.call_ne_foreign (f g : Builtin) (family : Family) (env : Environment) (args : Arguments) :
    f.call env args ≠ .error (.foreign family g) := by
  unfold call
  cases hf : f.family with
  | logical => exact Calls.Logical.call_ne_foreign hf
  | string => exact Calls.Texts.call_ne_foreign hf
  | arithmetic => exact Calls.Arithmetic.call_ne_foreign hf
  | datetime => exact Calls.Dates.call_ne_foreign hf
  | lookup => exact Calls.Lookup.call_ne_foreign hf

end FormLang
