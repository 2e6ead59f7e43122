import FormLang.Proofs.Binary64.FixedReading
import FormLang.Proofs.Expr.Equality
import FormLang.Proofs.Value.NumberText

/-!
# Rounding twice

The text of a rounded number is read as a number again when it is rounded itself (`strictNumber?_fixed`). That
gives the same text, but for a negative zero, which is read as zero and is written without its sign
(`exists_fixed_again`). `evaluate_round_twice` says so of whole expressions.
-/

namespace FormLang

namespace Binary64

variable {places : ℕ} {x : Finite}

/-- Whether a text is a negative zero: zeros after a minus sign, perhaps with a point between them. -/
def IsNegativeZero (s : String) : Prop := ∃ cs, s.toList = '-' :: cs ∧ ∀ c ∈ cs, c = '0' ∨ c = '.'

/-- The text of a number with a fixed number of places is a strict numeral. The number it denotes has the same
count of units of the last place, and the same sign unless it is zero. -/
theorem strictNumber?_fixed (hx : |x.toRat| < 10 ^ 21) (hp : places ≤ 100) :
    ∃ z : Finite, strictNumber? (String.ofList (fixed places (.finite x))) = some (.finite z) ∧
      |z.toRat| < 10 ^ 21 ∧ z.inPlaces places = x.inPlaces places ∧
      (z.toRat < 0 ↔ x.toRat < 0 ∧ x.inPlaces places ≠ 0) := by
  obtain ⟨m, hm, hsign, htext⟩ := exists_numeral_fixed hx hp
  obtain ⟨z, hz, hnegative, hlt, hsame, hzero⟩ := exists_finite_of_isPlaced hx hm
  refine ⟨z, ?_, hlt, hsame, ?_⟩
  · rw [strictNumber?, String.toList_ofList, htext, Numeral.ofText?_chars hm.toIsWellFormed, ← hz]
    exact if_pos hm.power
  · rw [z.toRat_neg_iff_negative, hnegative, hsign, decide_eq_true_eq, ne_eq, hzero]

theorem isNegativeZero_chars_iff {n : ℕ} {m : Numeral} (hm : m.IsPlaced places n) :
    IsNegativeZero (String.ofList m.chars) ↔ m.negative = true ∧ n = 0 := by
  rw [IsNegativeZero, String.toList_ofList, ← hm.allZeros_iff, Numeral.chars]
  cases m.negative with
  | true => simp
  | false =>
    simp only [Bool.false_eq_true, if_false, false_and, iff_false]
    rintro ⟨cs, hcs, -⟩
    obtain ⟨c, cs', hc, hdigit⟩ := Numeral.exists_unsignedChars hm.toIsWellFormed
    obtain rfl := (List.cons.inj (hc.symm.trans hcs)).1
    exact absurd hdigit (by decide)

theorem isNegativeZero_fixed_iff (hx : |x.toRat| < 10 ^ 21) (hp : places ≤ 100) :
    IsNegativeZero (String.ofList (fixed places (.finite x))) ↔ x.toRat < 0 ∧ x.inPlaces places = 0 := by
  obtain ⟨m, hm, hsign, htext⟩ := exists_numeral_fixed hx hp
  rw [htext, isNegativeZero_chars_iff hm, hsign, decide_eq_true_eq]

/-- The text of a number with a fixed number of places is a strict numeral. The number that it denotes has the
same text, except that the negative zero loses its sign. -/
theorem exists_fixed_again (hx : |x.toRat| < 10 ^ 21) (hp : places ≤ 100) :
    ∃ z : Finite, strictNumber? (String.ofList (fixed places (.finite x))) = some (.finite z) ∧
      |z.toRat| < 10 ^ 21 ∧
      (IsNegativeZero (String.ofList (fixed places (.finite x))) →
        fixed places (.finite x) = '-' :: fixed places (.finite z)) ∧
      (¬IsNegativeZero (String.ofList (fixed places (.finite x))) →
        fixed places (.finite z) = fixed places (.finite x)) := by
  obtain ⟨z, hread, hz, hsame, hneg⟩ := strictNumber?_fixed hx hp
  obtain ⟨m, hm, hsign, htext⟩ := exists_numeral_fixed hx hp
  obtain ⟨m', hm', hsign', htext'⟩ := exists_numeral_fixed hz hp
  rw [hsame] at hm'
  refine ⟨z, hread, hz, ?_, ?_⟩
  · rw [isNegativeZero_fixed_iff hx hp, htext, htext', Numeral.chars, Numeral.chars, hsign, hsign',
      hm'.unsignedChars_eq hm]
    rintro ⟨hlt, hzero⟩
    have hge : ¬z.toRat < 0 := fun hz => (hneg.mp hz).2 hzero
    rw [decide_eq_true hlt, decide_eq_false hge]
    rfl
  · rw [isNegativeZero_fixed_iff hx hp, not_and, htext, htext', Numeral.chars, Numeral.chars, hsign, hsign',
      hm'.unsignedChars_eq hm]
    intro h
    have hsigns : z.toRat < 0 ↔ x.toRat < 0 := hneg.trans ⟨And.left, fun hlt => ⟨hlt, h hlt⟩⟩
    rw [decide_eq_decide.mpr hsigns]

/-- The whole part of a natural number is the number. -/
theorem truncate_of_toRat {n : ℕ} (hx : x.toRat = n) : x.truncate = n := by
  have hU := zero_lt_unitsOfOne
  rw [Finite.toRat, div_eq_iff unitsOfOne_pos.ne', Finite.signedUnits] at hx
  rw [Finite.truncate, Finite.wholePart]
  generalize unitsOfOne = u at hU hx ⊢
  split at hx
  · rename_i hnegative
    have hsum : x.units + n * u = 0 := by
      have : (x.units + n * u : ℚ) = 0 := by
        push_cast at hx
        linarith
      exact_mod_cast this
    obtain ⟨hunits, hmul⟩ := Nat.add_eq_zero_iff.mp hsum
    rw [if_pos hnegative, hunits, Nat.zero_div, (Nat.mul_eq_zero.mp hmul).resolve_right hU.ne']
    rfl
  · rename_i hnegative
    have hunits : x.units = n * u := by exact_mod_cast hx
    rw [if_neg hnegative, hunits, Nat.mul_div_cancel _ hU]

end Binary64

/-! ## Calls -/

/-- A whole number of places is what it asks for. -/
theorem Calls.Arithmetic.places_of_toRat {w : Binary64.Finite} {n : ℕ} (hw : w.toRat = n) (hn : n ≤ 100) :
    places (.finite w) = .ok n := by
  have htruncate := Binary64.truncate_of_toRat hw
  have hrange : 0 ≤ w.truncate ∧ w.truncate ≤ maxPlaces := by
    rw [htruncate, maxPlaces]
    omega
  rw [places, if_pos hrange, htruncate, Int.toNat_natCast]

namespace Expr

open Binary64 (fixed)

variable {env : Environment} {limit : Nat} {path : Path}

/-- A call to round gives the text of the number. -/
theorem outcome_evalNode_round (hl : path.length < limit) {a b : Json} {u v : Value} {x w : Binary64.Finite}
    {places : ℕ}
    (ha : (evalNode env limit (path ++ [1]) a).outcome = .ok u ∧
      u.castTo .number .argument = .ok (.number (.finite x)))
    (hb : (evalNode env limit (path ++ [2]) b).outcome = .ok v ∧
      v.castTo .number .argument = .ok (.number (.finite w)))
    (hx : |x.toRat| < 10 ^ 21) (hw : w.toRat = places) (hp : places ≤ 100) :
    (evalNode env limit path (.call .round [a, b])).outcome =
      .ok (.string (String.ofList (fixed places (.finite x)))) := by
  have hcall : Builtin.round.call env [.number (.finite x), .number (.finite w)] =
      .ok (.string (String.ofList (fixed places (.finite x)))) := by
    change (Calls.Arithmetic.places (.finite w)).map
      (fun places => Value.string (String.ofList (fixed places (.finite x)))) = _
    rw [Calls.Arithmetic.places_of_toRat hw hp]
    rfl
  obtain ⟨m, hm, -, htext⟩ := Binary64.exists_numeral_fixed hx hp
  rw [htext] at hcall ⊢
  exact outcome_evalNode_pair hl ⟨rfl, rfl⟩ ha hb hcall
    (Value.castTo_string_eq_ok_iff.mpr (Value.isNormal_chars hm.toIsWellFormed))

/-- A number is rounded to its text. -/
theorem outcome_evalNode_round_number (hl : path.length < limit) {x d : Json.Number} {y w : Binary64.Finite}
    {places : ℕ} (hx : x.toBinary64 = .finite y) (hy : |y.toRat| < 10 ^ 21) (hd : d.toBinary64 = .finite w)
    (hw : w.toRat = places) (hp : places ≤ 100) :
    (evalNode env limit path (.call .round [.number x, .number d])).outcome =
      .ok (.string (String.ofList (fixed places (.finite y)))) := by
  have hnumber (k : Json.Number) (q : Path) :
      (evalNode env limit q (.number k)).outcome = .ok (.number k.toBinary64) :=
    outcome_evalNode_scalar (.number k)
  exact outcome_evalNode_round hl ⟨hx ▸ hnumber x _, rfl⟩ ⟨hd ▸ hnumber d _, rfl⟩ hy hw hp

/-- A rounded number is rounded to the text of the number that its own text denotes. -/
theorem outcome_evalNode_round_round (hl : path.length + 1 < limit) {x d : Json.Number} {y z w : Binary64.Finite}
    {places : ℕ} (hx : x.toBinary64 = .finite y) (hy : |y.toRat| < 10 ^ 21) (hd : d.toBinary64 = .finite w)
    (hw : w.toRat = places) (hp : places ≤ 100)
    (hread : strictNumber? (String.ofList (fixed places (.finite y))) = some (.finite z))
    (hz : |z.toRat| < 10 ^ 21) :
    (evalNode env limit path (.call .round [.call .round [.number x, .number d], .number d])).outcome =
      .ok (.string (String.ofList (fixed places (.finite z)))) := by
  have hpath : (path ++ [1]).length < limit := by simpa using hl
  have hinner : (evalNode env limit (path ++ [1]) (.call .round [.number x, .number d])).outcome =
      .ok (.string (String.ofList (fixed places (.finite y)))) :=
    outcome_evalNode_round_number hpath hx hy hd hw hp
  have hplaces : (evalNode env limit (path ++ [2]) (.number d)).outcome = .ok (.number d.toBinary64) :=
    outcome_evalNode_scalar (.number d)
  refine outcome_evalNode_round (by omega) ⟨hinner, ?_⟩ ⟨hd ▸ hplaces, rfl⟩ hz hw hp
  obtain ⟨m, hm, -, htext⟩ := Binary64.exists_numeral_fixed hy hp
  rw [Value.castTo_number_string, hread]
  · rfl
  · rw [htext]
    exact Value.ne_null_of_isNormal (Value.isNormal_chars hm.toIsWellFormed)

end Expr

/-- Rounding a number below `10 ^ 21` twice to as many places gives the same text as rounding it once, whatever
the data and the default, except if a negative number is rounded to a negative zero: the text then loses its minus
sign. -/
theorem evaluate_round_twice (env : Environment) {options : Options} (hl : 2 ≤ options.limit)
    (ht : options.returnType = .any ∨ options.returnType = .string) {x d : Json.Number} {y w : Binary64.Finite}
    {places : ℕ} (hx : x.toBinary64 = .finite y) (hy : |y.toRat| < 10 ^ 21) (hd : d.toBinary64 = .finite w)
    (hw : w.toRat = places) (hp : places ≤ 100) :
    let value (root : Json) := (evaluate env options root).outcome
    let once : Json := .call .round [.number x, .number d]
    let s := String.ofList (x.toBinary64.fixed places)
    ∃ t, value once = .ok (.string s) ∧ value (.call .round [once, .number d]) = .ok (.string t) ∧
      (y.toRat < 0 ∧ Binary64.IsNegativeZero s → s = "-" ++ t) ∧
      (¬(y.toRat < 0 ∧ Binary64.IsNegativeZero s) → t = s) := by
  intro value once s
  have hroot : ([] : Path).length < options.limit := by
    rw [List.length_nil]
    omega
  have hvalue {root : Json} {text : String}
      (h : (Expr.evalNode env options.limit [] root).outcome = .ok (.string text)) :
      value root = .ok (.string text) :=
    outcome_evaluate_of_type h rfl (ht.imp_right Eq.symm)
  obtain ⟨z, hread, hz, hsigned, hsame⟩ := Binary64.exists_fixed_again hy hp
  have honce : value once = .ok (.string (String.ofList (Binary64.fixed places (.finite y)))) :=
    hvalue (Expr.outcome_evalNode_round_number hroot hx hy hd hw hp)
  have htwice : value (.call .round [once, .number d]) =
      .ok (.string (String.ofList (Binary64.fixed places (.finite z)))) :=
    hvalue (Expr.outcome_evalNode_round_round hl hx hy hd hw hp hread hz)
  have hzero := Binary64.isNegativeZero_fixed_iff hy hp
  rw [← hx] at honce hsigned hsame hzero
  refine ⟨_, honce, htwice, fun h => ?_, fun h => ?_⟩
  · have hminus : "-".toList = ['-'] := by decide
    rw [← String.toList_inj, String.toList_append, hminus, String.toList_ofList, String.toList_ofList,
      List.singleton_append]
    exact hsigned h.2
  · exact congrArg String.ofList (hsame fun hs => h ⟨(hzero.mp hs).1, hs⟩)

/-- The number `-0.125` without places is the negative zero, and zero if it is rounded again. -/
theorem minus_eighth_rounded_twice :
    let options : Options := { returnType := .string, limit := 2 }
    let y : Binary64.Finite := ⟨true, 0x10000000000000, 1019, by decide, by decide, by decide⟩
    let zero : Json.Number := .int ⟨0, by decide, by decide⟩
    let value (root : Json) := (evaluate {} options root).outcome
    let once : Json := .call .round [.number (.float y), .number zero]
    2 ≤ options.limit ∧ (options.returnType = .any ∨ options.returnType = .string) ∧
      (Json.Number.float y).toBinary64 = .finite y ∧ |y.toRat| < 10 ^ 21 ∧
      zero.toBinary64 = .finite (.zero false) ∧ (Binary64.Finite.zero false).toRat = (0 : ℕ) ∧
      value once = .ok (.string "-0") ∧ value (.call .round [once, .number zero]) = .ok (.string "0") := by
  intro options y zero value once
  have hl : 2 ≤ options.limit := Nat.le_refl 2
  have ht : options.returnType = .any ∨ options.returnType = .string := .inr rfl
  have hx : (Json.Number.float y).toBinary64 = .finite y := rfl
  have hy : |y.toRat| < 10 ^ 21 := Binary64.Finite.isBelowFixedLimit_iff.mp (by decide +kernel)
  have hd : zero.toBinary64 = .finite (.zero false) := by decide +kernel
  have hw : (Binary64.Finite.zero false).toRat = (0 : ℕ) :=
    (Binary64.Finite.toRat_of_isZero rfl).trans Nat.cast_zero.symm
  obtain ⟨t, honce, htwice, hsigned, -⟩ :=
    evaluate_round_twice {} hl ht hx hy hd hw (Nat.zero_le 100)
  have htext : String.ofList ((Binary64.finite y).fixed 0) = "-0" := by decide +kernel
  have hneg : y.toRat < 0 := Binary64.Finite.toRat_neg_iff.mpr (by decide +kernel)
  change value once = .ok (.string (String.ofList ((Binary64.finite y).fixed 0))) at honce
  change y.toRat < 0 ∧ Binary64.IsNegativeZero (String.ofList ((Binary64.finite y).fixed 0)) →
    String.ofList ((Binary64.finite y).fixed 0) = "-" ++ t at hsigned
  rw [htext] at honce hsigned
  have ht0 := hsigned ⟨hneg, ['0'], by decide, by simp⟩
  obtain rfl : t = "0" := by
    rw [← String.toList_inj] at ht0 ⊢
    rw [String.toList_append] at ht0
    exact (List.cons.inj ht0).2.symm
  exact ⟨hl, ht, hx, hy, hd, hw, honce, htwice⟩

end FormLang
