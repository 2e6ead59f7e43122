import FormLang.Proofs.Binary64.Equality
import FormLang.Proofs.Calls.Regular

/-!
# Values as JSON and back

A value that holds no date, and of which all numbers are finite (`Value.IsData`), can be written as JSON and read again.
Then zeros have lost their signs (`Value.withoutZeroSigns`), and nothing else has changed (`ofJson_toJson`): a whole
number below `2 ^ 53` becomes an integer and comes back (`Json.Number.toBinary64_ofFinite`), and the fields of objects
are JSON anyway.

All that is read from JSON is such a value (`isData_ofJson`). So a JSON value can change when it is read and written, but
not a second time (`json_keeps_data`).
-/

namespace FormLang

/-! ## Numbers -/

namespace Binary64

variable {x : Finite}

theorem Finite.units_of_isWhole (h : x.isWhole = true) : x.wholePart * unitsOfOne = x.units :=
  Nat.div_mul_cancel (Nat.dvd_of_mod_eq_zero (beq_iff_eq.mp h))

/-- A whole number is the number nearest to itself. -/
theorem ofInt_truncate (h : x.isWhole = true) : ofInt x.truncate = .finite x.withoutZeroSign := by
  have hunits := Finite.units_of_isWhole h
  unfold Finite.withoutZeroSign
  split
  case isTrue hz =>
    obtain ⟨negative, rfl⟩ := Finite.isZero_iff.mp hz
    cases negative <;> decide +kernel
  case isFalse hz =>
    have hpos : x.wholePart ≠ 0 := by
      intro hzero
      rw [hzero, Nat.zero_mul] at hunits
      refine hz (Finite.signedUnits_eq_zero_iff.mp ?_)
      rw [Finite.signedUnits, ← hunits]
      split <;> rfl
    have habs : x.truncate.natAbs = x.wholePart := by
      unfold Finite.truncate
      split <;> omega
    have hneg : decide (x.truncate < 0) = x.negative := by
      unfold Finite.truncate
      cases x.negative <;> grind
    rw [ofInt, habs, hneg, hunits, ← Nat.mul_one x.units]
    exact ofUnits_units Nat.one_pos x

end Binary64

/-- A number that is written as JSON comes back, without the sign of a zero. -/
theorem Json.Number.toBinary64_ofFinite (x : Binary64.Finite) :
    (ofFinite x).toBinary64 = .finite x.withoutZeroSign := by
  unfold ofFinite
  split
  case isTrue h => exact Binary64.ofInt_truncate h.1
  case isFalse h =>
    -- Zero is a small whole number.
    have hz : ¬x.isZero = true := by
      rintro hz
      obtain ⟨negative, rfl⟩ := Binary64.Finite.isZero_iff.mp hz
      exact h (by cases negative <;> decide +kernel)
    rw [Binary64.Finite.withoutZeroSign, if_neg hz, toBinary64]

theorem Json.Number.ofFinite_withoutZeroSign (x : Binary64.Finite) : ofFinite x.withoutZeroSign = ofFinite x := by
  unfold Binary64.Finite.withoutZeroSign
  split
  case isTrue hz =>
    obtain ⟨negative, rfl⟩ := Binary64.Finite.isZero_iff.mp hz
    cases negative <;> decide +kernel
  case isFalse => rfl

/-! ## Equality with itself -/

namespace Json

theorem Number.same_self (n : Number) : n.same n = true := by
  cases n <;> exact beq_self_eq_true _

mutual

/-- A JSON value is equal to itself. -/
theorem same_self : (j : Json) → j.same j = true
  | .null => rfl
  | .bool b => beq_self_eq_true b
  | .number n => n.same_self
  | .string s => beq_self_eq_true s
  | .array items => sameItems_self items
  | .object fields => sameFields_self fields

theorem sameItems_self : (items : List Json) → sameItems items items = true
  | [] => rfl
  | item :: items => by rw [sameItems, same_self item, sameItems_self items, Bool.true_and]

theorem sameFields_self : (fields : List (String × Json)) → sameFields fields fields = true
  | [] => rfl
  | (name, j) :: fields => by
    rw [sameFields, beq_self_eq_true name, same_self j, sameFields_self fields, Bool.true_and, Bool.true_and]

end

end Json

namespace Value

/-! ## Values -/

/-- A value that JSON can hold: no number is infinite or undefined, and no date is inside. -/
inductive IsData : Value → Prop where
  | null : IsData .null
  | boolean (b : Bool) : IsData (.boolean b)
  | number (x : Binary64.Finite) : IsData (.number (.finite x))
  | string (s : String) : IsData (.string s)
  | array {items : List Value} (h : ∀ item ∈ items, IsData item) : IsData (.array items)
  | object (fields : List (String × Json)) : IsData (.object fields)

mutual

/-- A value with zeros that have no sign; those in the fields of objects keep it. -/
def withoutZeroSigns : Value → Value
  | .number (.finite x) => .number (.finite x.withoutZeroSign)
  | .array items => .array (itemsWithoutZeroSigns items)
  | v => v

/-- Values with zeros that have no sign. -/
def itemsWithoutZeroSigns : List Value → List Value
  | [] => []
  | item :: items => withoutZeroSigns item :: itemsWithoutZeroSigns items

end

theorem itemsWithoutZeroSigns_eq_map (items : List Value) :
    itemsWithoutZeroSigns items = items.map withoutZeroSigns := by
  induction items with
  | nil => rw [itemsWithoutZeroSigns, List.map_nil]
  | cons item items ih => rw [itemsWithoutZeroSigns, ih, List.map_cons]

theorem ofJsonItems_eq_map (items : List Json) : ofJsonItems items = items.map ofJson := by
  induction items with
  | nil => rw [ofJsonItems, List.map_nil]
  | cons item items ih => rw [ofJsonItems, ih, List.map_cons]

theorem itemsToJson_eq_map (items : List Value) : itemsToJson items = items.map toJson := by
  induction items with
  | nil => rw [itemsToJson, List.map_nil]
  | cons item items ih => rw [itemsToJson, ih, List.map_cons]

variable {v : Value}

/-- A value that is written as JSON and read again has lost the signs of its zeros, and nothing else. -/
theorem ofJson_toJson (h : v.IsData) : ofJson v.toJson = v.withoutZeroSigns := by
  induction h with
  | null | boolean | string | object => rfl
  | number x =>
    rw [withoutZeroSigns, ← Json.Number.toBinary64_ofFinite]
    rfl
  | @array items _ ih =>
    rw [toJson, itemsToJson_eq_map, ofJson, ofJsonItems_eq_map, List.map_map, withoutZeroSigns,
      itemsWithoutZeroSigns_eq_map]
    exact congrArg array (List.map_congr_left ih)

/-- The signs of zeros are not written. -/
theorem toJson_withoutZeroSigns (h : v.IsData) : v.withoutZeroSigns.toJson = v.toJson := by
  induction h with
  | null | boolean | string | object => rfl
  | number x => exact congrArg Json.number (Json.Number.ofFinite_withoutZeroSign x)
  | @array items _ ih =>
    rw [withoutZeroSigns, itemsWithoutZeroSigns_eq_map, toJson, toJson, itemsToJson_eq_map, itemsToJson_eq_map,
      List.map_map]
    exact congrArg Json.array (List.map_congr_left ih)

/-- Items that are equal one by one to what becomes of them. -/
theorem sameItems_map {change : Value → Value} {items : List Value}
    (h : ∀ item ∈ items, (change item).same item = true) : sameItems (items.map change) items = true := by
  induction items with
  | nil => rw [List.map_nil, sameItems]
  | cons item items ih =>
    rw [List.map_cons, sameItems, h item List.mem_cons_self, ih fun i hi => h i (List.mem_cons_of_mem _ hi),
      Bool.true_and]

/-- A value is equal to what it is without the signs of its zeros. -/
theorem same_withoutZeroSigns (h : v.IsData) : v.withoutZeroSigns.same v = true := by
  induction h with
  | null => rfl
  | boolean b => exact beq_self_eq_true b
  | string s => exact beq_self_eq_true s
  | object fields => exact Json.sameFields_self fields
  | number x =>
    rw [withoutZeroSigns, same, Binary64.eq_finite_iff]
    exact Binary64.Finite.toRat_eq_iff.mp x.toRat_withoutZeroSign
  | @array items _ ih =>
    rw [withoutZeroSigns, itemsWithoutZeroSigns_eq_map, same]
    exact sameItems_map ih

/-! ## JSON values -/

mutual

/-- What is read from JSON can be written as JSON. -/
theorem isData_ofJson : (j : Json) → (ofJson j).IsData
  | .null => .null
  | .bool b => .boolean b
  | .number n => by
    obtain ⟨x, hx⟩ := Binary64.exists_of_isFinite n.isFinite_toBinary64
    rw [ofJson, hx]
    exact .number x
  | .string s => .string s
  | .array items => .array (isData_ofJsonItems items)
  | .object fields => .object fields

theorem isData_ofJsonItems : (items : List Json) → ∀ v ∈ ofJsonItems items, v.IsData
  | [] => nofun
  | item :: items => List.forall_mem_cons.mpr ⟨isData_ofJson item, isData_ofJsonItems items⟩

end

/-- What is read from JSON and written again does not change when this is done once more. -/
theorem toJson_ofJson_toJson (j : Json) : (ofJson (ofJson j).toJson).toJson = (ofJson j).toJson := by
  rw [ofJson_toJson (isData_ofJson j), toJson_withoutZeroSigns (isData_ofJson j)]

/-- A value of finite numbers and without dates comes back from JSON. It has only lost the signs of its zeros, and so it
is equal to what it was. Every JSON value that was read and written stays as it is when this is done once more. -/
theorem json_keeps_data :
    (∀ v : Value, v.IsData → ofJson v.toJson = v.withoutZeroSigns ∧ (ofJson v.toJson).same v = true) ∧
      ∀ j : Json, (ofJson (ofJson j).toJson).toJson = (ofJson j).toJson := by
  refine ⟨fun v h => ?_, toJson_ofJson_toJson⟩
  rw [ofJson_toJson h]
  exact ⟨rfl, same_withoutZeroSigns h⟩

/-- Of two negative zeros, the one in a field of an object keeps its sign, and the first whole number that is not written
as an integer comes back as well. -/
theorem json_keeps_items :
    let big : Binary64.Finite := ⟨false, 0x10000000000000, 1075, by decide, by decide, by decide⟩
    let fields : List (String × Json) := [("x", .number (.float (.zero true)))]
    let items (zero : Binary64) := array [number zero, array [number (.finite big), string "NULL"], object fields]
    (items (.finite (.zero true))).IsData ∧
      ofJson (items (.finite (.zero true))).toJson = items (.finite (.zero false)) ∧
      (ofJson (items (.finite (.zero true))).toJson).same (items (.finite (.zero true))) = true := by
  intro big fields items
  have hdata : (items (.finite (.zero true))).IsData := by
    refine .array ?_
    simp only [List.forall_mem_cons, List.not_mem_nil, false_implies, implies_true, and_true]
    refine ⟨.number _, .array ?_, .object fields⟩
    simp only [List.forall_mem_cons, List.not_mem_nil, false_implies, implies_true, and_true]
    exact ⟨.number big, .string "NULL"⟩
  exact ⟨hdata, json_keeps_data.1 _ hdata⟩

end Value

end FormLang
