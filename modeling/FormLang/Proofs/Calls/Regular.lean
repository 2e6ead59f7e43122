import FormLang.Proofs.Calls.Results
import FormLang.Proofs.Value.Regular

/-!
# Calls give regular values

JSON holds no number that is not finite, and no call makes one: if the values given to an expression are
regular, and the arguments of a call are where any value may stand, then so is what the call gives
(`Builtin.call_isRegular`).
-/

namespace FormLang

/-- The values given to an expression are regular. -/
structure Environment.IsRegular (env : Environment) : Prop where
  positional : ∀ values ∈ env.positional, ∀ v ∈ values, v.IsRegular
  named : ∀ named ∈ env.named, ∀ entry ∈ named.values, entry.2.IsRegular

/-! ## Data -/

theorem Dictionary.mem_of_get? {α : Type} {key : String} {a : α} {dictionary : Dictionary α}
    (h : get? key dictionary = some a) : (key, a) ∈ dictionary := by
  induction dictionary with
  | nil => cases h
  | cons entry entries ih =>
    rw [get?] at h
    split at h
    · rename_i hk
      cases h
      rw [hk]
      exact List.mem_cons_self
    · exact List.mem_cons_of_mem _ (ih h)

theorem Json.Number.isFinite_toBinary64 (n : Json.Number) : n.toBinary64.isFinite = true := by
  cases n with
  | int i =>
    have := i.lower
    have := i.upper
    exact Binary64.isFinite_ofInt (by omega)
  | float x => rfl

theorem Value.isRegular_ofJson (j : Json) : (ofJson j).IsRegular := by
  cases j with
  | number n =>
    rw [ofJson]
    exact n.isFinite_toBinary64
  | _ =>
    rw [ofJson]
    trivial

/-- An argument that is left out is null, and null is regular. -/
theorem Arguments.isRegular_value {args : Arguments} {i : Nat}
    (h : ∀ v, args[i]? = some v → v.IsRegular) : (args.value i).IsRegular := by
  unfold value
  cases hv : args[i]? with
  | none => trivial
  | some v => exact h v hv

/-! ## Functions of any result -/

namespace Calls.Lookup

variable {env : Environment} {args : Arguments} {v : Value}

theorem isRegular_simpleValue (data : Option Json) : (simpleValue data).IsRegular := by
  unfold simpleValue
  split
  case h_2 n => exact n.isFinite_toBinary64
  all_goals trivial

theorem isRegular_positionalValue (henv : env.IsRegular) (h : positionalValue env args = .ok v) :
    v.IsRegular := by
  unfold positionalValue at h
  split at h
  case h_3 values _ hp =>
    split at h
    case h_2 => cases h
    case h_1 x hx =>
      split at h <;> cases h
      rename_i value hget
      split
      · split at hget
        · exact henv.positional values hp value (List.mem_of_getElem? hget)
        · cases hget
      · trivial
  all_goals cases h

theorem isRegular_namedValue (henv : env.IsRegular) (h : namedValue env args = .ok v) :
    v.IsRegular := by
  unfold namedValue at h
  split at h
  case h_1 => cases h
  case h_2 named hn =>
    split at h
    case h_3 =>
      split at h <;> cases h
      rename_i hget
      exact henv.named named hn _ (Dictionary.mem_of_get? hget)
    all_goals cases h

theorem isRegular_frontendSetting {sources : Sources} (h : frontendSetting sources args = .ok v) :
    v.IsRegular := by
  unfold frontendSetting at h
  split at h <;> cases h
  cases (sources.setting _).filter Json.truthy with
  | none => trivial
  | some j => exact Value.isRegular_ofJson j

theorem isRegular_component {sources : Sources} (h : component sources args = .ok v) :
    v.IsRegular := by
  unfold component at h
  split at h
  · cases h
  · obtain ⟨data, -, rfl⟩ := Except.map_eq_ok_iff.mp h
    exact isRegular_simpleValue data

theorem isRegular_dataModel {sources : Sources} (h : dataModel sources args = .ok v) :
    v.IsRegular := by
  unfold dataModel at h
  split at h
  · cases h
  · obtain ⟨data, -, rfl⟩ := Except.map_eq_ok_iff.mp h
    exact isRegular_simpleValue data

end Calls.Lookup

theorem Calls.Texts.isRegular_stringLength {args : Arguments} {v : Value}
    (h : Texts.call .stringLength args = .ok v) : v.IsRegular := by
  cases h
  refine Binary64.isFinite_ofInt ?_
  cases args.text? 0 with
  | none => decide
  | some s => exact Nat.le_of_lt (UInt64.toNat_lt _)

/-- A call gives a regular value, if the given values and the arguments of any type are regular. -/
theorem Builtin.call_isRegular {f : Builtin} {env : Environment} {args : Arguments} {v : Value}
    (henv : env.IsRegular)
    (hargs : ∀ i v, args[i]? = some v → f.signature.typeAt? i = some .any → v.IsRegular)
    (h : f.call env args = .ok v) : v.IsRegular := by
  have hfits := call_fits h
  cases f with
  | argv => exact Calls.Lookup.isRegular_positionalValue henv h
  | value => exact Calls.Lookup.isRegular_namedValue henv h
  | frontendSettings => exact Calls.Lookup.isRegular_frontendSetting h
  | component => exact Calls.Lookup.isRegular_component h
  | dataModel => exact Calls.Lookup.isRegular_dataModel h
  | stringLength => exact Calls.Texts.isRegular_stringLength h
  | ifElse =>
    cases h
    split
    · exact Arguments.isRegular_value fun v hv => hargs 1 v hv rfl
    · exact Arguments.isRegular_value fun v hv => hargs 3 v hv rfl
  | _ => exact Value.isRegular_of_fits (by decide) hfits

end FormLang
