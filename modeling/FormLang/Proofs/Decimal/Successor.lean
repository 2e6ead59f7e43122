import FormLang.Proofs.Decimal.Increment
import FormLang.Proofs.Value.StrictText

/-!
# The successor of a text of digits

A text of digits, perhaps with a point among them (`IsDigitText`), is a numeral whose parts lie before and after the
point (`Numeral.cutAtPoint`, `IsDigitText.exists_parts`). Carrying changes the parts and leaves the point where it is
(`increment_parts`), so the next numeral is larger by one unit of the last place, and longer only after nines
(`increment_digitText`).
-/

namespace FormLang

/-- One or more digits with at most one point among them. One side of the point may be without digits. -/
structure Decimal.IsDigitText (cs : List Char) : Prop where
  isDigit_or_point : ∀ c ∈ cs, c.isDigit = true ∨ c = '.'
  count_point_le : cs.count '.' ≤ 1
  exists_digit : ∃ c ∈ cs, c.isDigit = true

/-- A text as a numeral: what stands before its first point, and what follows the point. -/
def Numeral.cutAtPoint (cs : List Char) : Numeral where
  negative := false
  whole := cs.takeWhile (· != '.')
  fraction := (cs.dropWhile (· != '.')).tail?
  power := none

namespace Decimal

open Numeral

variable {cs ds : List Char} {fraction : Option (List Char)}

/-! ## Parts -/

theorem point_not_mem (hd : ∀ c ∈ ds, c.isDigit = true) : '.' ∉ ds := fun h => absurd (hd '.' h) (by decide)

theorem isDigit_of_point_not_mem (hchars : ∀ c ∈ cs, c.isDigit = true ∨ c = '.') (hpoint : '.' ∉ cs) :
    ∀ c ∈ cs, c.isDigit = true := by
  intro c hc
  refine (hchars c hc).resolve_right ?_
  rintro rfl
  exact hpoint hc

/-- A text of digits consists of the digits before the point and, if there is a point, those after it. -/
theorem IsDigitText.exists_parts (h : IsDigitText cs) :
    ∃ ds fraction, cs = ds ++ fractionText fraction ∧ ds ++ fraction.getD [] ≠ [] ∧
      (∀ c ∈ ds, c.isDigit = true) ∧ ∀ c ∈ fraction.getD [], c.isDigit = true := by
  obtain ⟨hchars, hcount, d, hd, hdigit⟩ := h
  by_cases hpoint : '.' ∈ cs
  · obtain ⟨ds, es, rfl, hds⟩ := List.eq_append_cons_of_mem hpoint
    have hes : '.' ∉ es := by
      rw [List.count_append, List.count_cons_self] at hcount
      exact List.count_eq_zero.mp (by omega)
    obtain ⟨hbefore, hafter⟩ := List.forall_mem_append.mp hchars
    refine ⟨ds, some es, rfl, ?_, isDigit_of_point_not_mem hbefore hds,
      isDigit_of_point_not_mem (List.forall_mem_cons.mp hafter).2 hes⟩
    -- a point alone holds no digit
    rintro hnil
    obtain ⟨rfl, rfl⟩ := List.append_eq_nil_iff.mp hnil
    rw [List.mem_singleton.mp hd] at hdigit
    cases hdigit
  · refine ⟨cs, none, (List.append_nil cs).symm, ?_, isDigit_of_point_not_mem hchars hpoint, nofun⟩
    rw [Option.getD_none, List.append_nil]
    exact List.ne_nil_of_mem hd

/-- Digits on either side of a point are a text of digits, if there are any. -/
theorem isDigitText_parts (hne : ds ++ fraction.getD [] ≠ []) (hd : ∀ c ∈ ds, c.isDigit = true)
    (hf : ∀ c ∈ fraction.getD [], c.isDigit = true) : IsDigitText (ds ++ fractionText fraction) := by
  obtain ⟨d, hmem⟩ := List.exists_mem_of_ne_nil _ hne
  cases fraction with
  | none =>
    rw [Option.getD_none, List.append_nil] at hmem
    rw [fractionText, List.append_nil]
    exact ⟨fun c hc => .inl (hd c hc), by simp [List.count_eq_zero.mpr (point_not_mem hd)], d, hmem, hd d hmem⟩
  | some es =>
    rw [Option.getD_some] at hmem hf
    have hcount : (ds ++ '.' :: es).count '.' = 1 := by
      rw [List.count_append, List.count_cons_self, List.count_eq_zero.mpr (point_not_mem hd),
        List.count_eq_zero.mpr (point_not_mem hf)]
    refine ⟨fun c hc => ?_, hcount.le, d, ?_, (List.mem_append.mp hmem).elim (hd d) (hf d)⟩
    · rcases List.mem_append.mp hc with hc | hc
      · exact .inl (hd c hc)
      · exact (List.mem_cons.mp hc).symm.imp (hf c) id
    · exact List.mem_append.mpr ((List.mem_append.mp hmem).imp_right (List.mem_cons_of_mem '.'))

/-- A text is cut at the point that follows its first digits. -/
theorem cutAtPoint_parts (hd : ∀ c ∈ ds, c.isDigit = true) (fraction : Option (List Char)) :
    cutAtPoint (ds ++ fractionText fraction) = ⟨false, ds, fraction, none⟩ := by
  have hds : ∀ c ∈ ds, (c != '.') = true := by
    intro c hc
    rw [bne_iff_ne]
    rintro rfl
    exact point_not_mem hd hc
  rw [cutAtPoint, List.takeWhile_append_of_pos hds, List.dropWhile_append_of_pos hds]
  cases fraction with
  | none => simp [fractionText]
  | some es => simp [fractionText]

/-! ## The next numeral -/

/-- The parts of the next numeral: a carry that leaves the fraction is added to the digits before the point. -/
theorem increment_parts (hd : ∀ c ∈ ds, c.isDigit = true) (hf : ∀ c ∈ fraction.getD [], c.isDigit = true) :
    ∃ ds' fraction', increment (ds ++ fractionText fraction) = ds' ++ fractionText fraction' ∧
      (∀ c ∈ ds', c.isDigit = true) ∧ (∀ c ∈ fraction'.getD [], c.isDigit = true) ∧
      fraction'.map List.length = fraction.map List.length ∧
      10 ^ (fraction.getD []).length * digitsValue ds' + digitsValue (fraction'.getD []) =
        10 ^ (fraction.getD []).length * digitsValue ds + digitsValue (fraction.getD []) + 1 ∧
      ds'.length = ds.length + if (carry (ds ++ fractionText fraction)).2 then 1 else 0 := by
  obtain ⟨hdigits, hvalue, hlen⟩ := increment_digits hd
  obtain ⟨fraction', htext, hdigits', hmap, hvalue'⟩ := carry_fractionText hf
  rw [increment_append, carry_append, htext]
  cases hcarry : (carry (fractionText fraction)).2 with
  | false =>
    rw [hcarry] at hvalue'
    exact ⟨ds, fraction', rfl, hd, hdigits', hmap, congrArg (_ + ·) hvalue', rfl⟩
  | true =>
    rw [hcarry, if_pos rfl] at hvalue'
    refine ⟨increment ds, fraction', rfl, hdigits, hdigits', hmap, ?_, hlen⟩
    rw [hvalue, Nat.mul_add, Nat.mul_one]
    omega

/-- The next numeral has as many digits after the point, its value is larger by one unit of the last place, and it
has as many digits before the point unless all digits are nines, when there is one more. -/
theorem increment_digitText (h : IsDigitText cs) :
    let n := cutAtPoint cs
    let next := cutAtPoint (increment cs)
    IsDigitText (increment cs) ∧
      next.fraction.map List.length = n.fraction.map List.length ∧
      next.value = n.value + 1 / 10 ^ (n.fraction.getD []).length ∧
      ((∀ c ∈ cs, c = '.' ∨ c = '9') → next.whole.length = n.whole.length + 1) ∧
      (¬(∀ c ∈ cs, c = '.' ∨ c = '9') → next.whole.length = n.whole.length) := by
  obtain ⟨ds, fraction, rfl, hne, hd, hf⟩ := h.exists_parts
  obtain ⟨ds', fraction', hnext, hd', hf', hmap, hvalue, hlen⟩ := increment_parts hd hf
  have hplaces : (fraction'.getD []).length = (fraction.getD []).length := by
    rw [← Option.getD_map List.length [] fraction', hmap, Option.getD_map]
  have hne' : ds' ++ fraction'.getD [] ≠ [] := by
    have := List.length_pos_iff.mpr hne
    refine List.ne_nil_of_length_pos ?_
    rw [List.length_append] at this ⊢
    omega
  rw [hnext, cutAtPoint_parts hd, cutAtPoint_parts hd']
  refine ⟨isDigitText_parts hne' hd' hf', hmap, ?_, fun hall => ?_, fun hall => ?_⟩
  · have hcast := congrArg (Nat.cast (R := ℚ)) hvalue
    push_cast at hcast
    simp only [value, Bool.false_eq_true, if_false, hplaces]
    field_simp
    linarith
  · rwa [if_pos ((carry_leaves_iff _).mpr hall)] at hlen
  · rwa [if_neg fun hcarry => hall ((carry_leaves_iff _).mp hcarry)] at hlen

/-- After nothing but nines there is one digit more before the point, and still as many after it. -/
theorem increment_nines :
    IsDigitText ['9', '.', '9', '9'] ∧ increment ['9', '.', '9', '9'] = ['1', '0', '.', '0', '0'] ∧
      IsDigitText ['1', '0', '.', '0', '0'] ∧
      (cutAtPoint ['1', '0', '.', '0', '0']).fraction.map List.length = some 2 ∧
      (cutAtPoint ['1', '0', '.', '0', '0']).value = (cutAtPoint ['9', '.', '9', '9']).value + 1 / 10 ^ 2 ∧
      (cutAtPoint ['1', '0', '.', '0', '0']).whole.length = 1 + 1 := by
  have h : IsDigitText ['9', '.', '9', '9'] := by
    refine @isDigitText_parts ['9'] (some ['9', '9']) (List.cons_ne_nil _ _) ?_ ?_
    · exact List.forall_mem_singleton.mpr rfl
    · exact List.forall_mem_cons.mpr ⟨rfl, List.forall_mem_singleton.mpr rfl⟩
  have hnext : increment ['9', '.', '9', '9'] = ['1', '0', '.', '0', '0'] := rfl
  have hall : ∀ c ∈ ['9', '.', '9', '9'], c = '.' ∨ c = '9' := by simp
  obtain ⟨htext, hplaces, hvalue, hlen, -⟩ := increment_digitText h
  rw [hnext] at htext hplaces hvalue hlen
  exact ⟨h, hnext, htext, hplaces, hvalue, hlen hall⟩

end Decimal

end FormLang
