import FormLang.Proofs.Calls.Regular
import FormLang.Proofs.Expr.Invariant

/-!
# The types of what is recorded

Every argument that is recorded of a call fits the type declared for its place, and every result the
declared type of the function (`Event.IsTyped`). If the values given to the expression are regular, no
recorded text is a reserved word in another case (`Event.IsNormal`). Both are shown of one call
(`typing_step`), and hold of every evaluation (`evaluate_typed`).
-/

namespace FormLang

/-- Every argument fits the type that is declared for its place. -/
def Builtin.Takes (f : Builtin) (args : List Value) : Prop :=
  ∀ i v, args[i]? = some v → ∃ t, f.signature.typeAt? i = some t ∧ v.fits t = true

/-- No argument where a text is declared is a reserved word in another case. -/
def Builtin.TakesNormal (f : Builtin) (args : List Value) : Prop :=
  ∀ i v, args[i]? = some v → f.signature.typeAt? i = some .string → v.IsNormal

/-- What is recorded of a call fits the types of the function. -/
def Event.IsTyped : Event → Prop
  | .before _ f args => f.Takes args
  | .after _ f args result => f.Takes args ∧ result.fits f.signature.result = true

/-- No text that is recorded of a call, as an argument or a result that is declared to be one, is a reserved
word in another case. -/
def Event.IsNormal : Event → Prop
  | .before _ f args => f.TakesNormal args
  | .after _ f args result =>
    f.TakesNormal args ∧ (f.signature.result = .string → result.IsNormal)

namespace Expr

/-- What is known of a cast argument: its type and, if the values given to the expression are regular, that
it is normal as a text and regular where any value may stand. -/
structure IsPrepared (env : Environment) (f : Builtin) (i : Nat) (v : Value) : Prop where
  fits : ∃ t, f.signature.typeAt? i = some t ∧ v.fits t = true
  isNormal : env.IsRegular → f.signature.typeAt? i = some .string → v.IsNormal
  isRegular : env.IsRegular → f.signature.typeAt? i = some .any → v.IsRegular

/-- One step of an evaluation keeps to the declared types. -/
theorem typing_step (env : Environment) :
    Step env (IsPrepared env) (fun e => e.IsTyped ∧ (env.IsRegular → e.IsNormal))
      (fun v => env.IsRegular → v.IsRegular) where
  literal node _ := Value.isRegular_ofJson node
  argument f i raw v hraw h := by
    cases ht : f.signature.typeAt? i with
    | none =>
      rw [ht] at h
      cases h
    | some t =>
      rw [ht] at h
      change raw.castTo t .argument = .ok v at h
      refine ⟨⟨t, ht, Value.fits_castTo h⟩, fun henv hs => ?_, fun henv ha => ?_⟩
      · obtain rfl := Option.some.inj (ht.symm.trans hs)
        exact Value.isNormal_castTo (hraw henv) h
      · obtain rfl := Option.some.inj (ht.symm.trans ha)
        exact Value.isRegular_castTo (hraw henv) (fun hn => by cases hn) h
  before path f args h := ⟨fun i v hv => (h i v hv).fits, fun henv i v hv => (h i v hv).isNormal henv⟩
  after path f args raw result h hc hr := by
    have hregular (henv : env.IsRegular) : raw.IsRegular :=
      Builtin.call_isRegular henv (fun i v hv => (h i v hv).isRegular henv) hc
    have hfits := Builtin.call_fits hc
    refine ⟨fun henv => ?_, ⟨fun i v hv => (h i v hv).fits, Value.fits_castTo hr⟩, fun henv => ?_⟩
    · exact Value.isRegular_castTo (hregular henv) (fun ht => ht ▸ hfits) hr
    · refine ⟨fun i v hv => (h i v hv).isNormal henv, fun hs => ?_⟩
      change raw.castTo f.signature.result .result = .ok result at hr
      rw [hs] at hr
      exact Value.isNormal_castTo (hregular henv) hr

end Expr

/-- All that an evaluation records keeps to the declared types, and no recorded text is a reserved word in
another case if the values given to the expression are regular. -/
theorem evaluate_typed (env : Environment) (options : Options) (root : Json) :
    ∀ e ∈ (evaluate env options root).events, e.IsTyped ∧ (env.IsRegular → e.IsNormal) :=
  (Expr.typing_step env).satisfies_evaluate options root

/-- A day in June as it is read. -/
def dayInJune : Date :=
  ⟨⟨2021, 6, 1, by decide, by decide, by decide, by decide, by decide⟩,
    ⟨0, 0, 0, 0, by decide, by decide, by decide, by decide⟩, .unspecified, "2021-06-01"⟩

/-- A date that is given by name and a word in upper case are joined as the text of the date and the word in
lower case. -/
theorem concat_typed :
    let env : Environment := { named := some ⟨[("day", .date dayInJune)], some "day"⟩ }
    let root := Json.call .concat [.call .value [], .string "TRUE"]
    let e := Event.after [] .concat [.string "2021-06-01", .string "true"] (.string "2021-06-01true")
    env.IsRegular ∧ e ∈ (evaluate env {} root).events ∧ e.IsTyped ∧ e.IsNormal := by
  intro env root e
  have henv : env.IsRegular := by
    refine ⟨nofun, ?_⟩
    rintro _ ⟨⟩ entry hentry
    obtain rfl := List.mem_singleton.mp hentry
    exact ⟨"2021-06-01", rfl⟩
  have hevents : (evaluate env {} root).events =
      [.before [1] .value [], .after [1] .value [] (.date dayInJune),
        .before [] .concat [.string "2021-06-01", .string "true"], e] := rfl
  have he : e ∈ (evaluate env {} root).events := by
    rw [hevents]
    simp
  obtain ⟨htyped, hnormal⟩ := evaluate_typed env {} root e he
  exact ⟨henv, he, htyped, hnormal henv⟩

end FormLang
