import FormLang.Json.Printer
import FormLang.Proofs.Decimal.Numeral

/-!
# The compact text of a value is one line

Numbers are written with digits and a few signs, and quoted texts escape what comes before the blank,
so no character of a compact text comes before the blank (`Json.noControls_chars`). In particular none
of them is a line break (`Json.newline_not_mem_chars`).
-/

namespace FormLang

namespace Text

/-- A text without the control characters that come before the blank. -/
def NoControls (cs : List Char) : Prop := ∀ c ∈ cs, 0x20 ≤ c.toNat

instance (cs : List Char) : Decidable (NoControls cs) :=
  List.decidableBAll (fun c : Char => 0x20 ≤ c.toNat) cs

@[simp] theorem noControls_nil : NoControls [] := by
  simp [NoControls]

@[simp] theorem noControls_cons {c : Char} {cs : List Char} :
    NoControls (c :: cs) ↔ 0x20 ≤ c.toNat ∧ NoControls cs := by
  simp [NoControls]

@[simp] theorem noControls_append {cs ds : List Char} :
    NoControls (cs ++ ds) ↔ NoControls cs ∧ NoControls ds := by
  simp [NoControls, or_imp, forall_and]

theorem NoControls.of_subset {cs ds : List Char} (h : NoControls ds) (hs : cs ⊆ ds) :
    NoControls cs := fun c hc => h c (hs hc)

theorem noControls_replicate {n : Nat} {c : Char} (h : 0x20 ≤ c.toNat) :
    NoControls (List.replicate n c) := by
  intro d hd
  rwa [List.eq_of_mem_replicate hd]

theorem noControls_toDigits (n : Nat) : NoControls (Nat.toDigits 10 n) := by
  intro c hc
  have hd := Numeral.toNat_of_isDigit ((Numeral.isDigits_toDigits n).isDigit c hc)
  omega

end Text

open Text

/-! ## Numbers -/

namespace Binary64

theorem noControls_signText (negative : Bool) : NoControls (signText negative) := by
  cases negative <;> decide

namespace Significant

theorem noControls_positional {s : Significant} (h : NoControls s.digits) :
    NoControls s.positional := by
  have hz (n : Nat) : NoControls (List.replicate n '0') := noControls_replicate (by decide)
  unfold positional
  split
  · simp [h, hz]
  · split
    · simp [h, hz]
    · simp [h.of_subset (List.take_subset _ _), h.of_subset (List.drop_subset _ _)]

theorem noControls_mantissa {digits : List Char} (h : NoControls digits) :
    NoControls (mantissa digits) := by
  unfold mantissa
  split <;> simp_all

theorem noControls_scientific {s : Significant} (h : NoControls s.digits) :
    NoControls s.scientific := by
  dsimp only [scientific]
  split <;> simp [noControls_mantissa h, noControls_toDigits]

theorem noControls_ofDecimal (d : Decimal) : NoControls (ofDecimal d).digits := by
  refine (noControls_toDigits d.coefficient).of_subset fun c hc => ?_
  have hr := (List.dropWhile_sublist _).subset (List.mem_reverse.mp hc)
  exact List.mem_reverse.mp hr

end Significant

theorem Layout.noControls_chars {layout : Layout} (h : NoControls layout.wholeEnd) (x : Finite) :
    NoControls (layout.chars x) := by
  have hd := Significant.noControls_ofDecimal (x.shortest layout.tie)
  unfold Layout.chars Finite.significant
  split
  · simp [noControls_signText, h]
  · refine noControls_append.mpr ⟨noControls_signText _, ?_⟩
    split
    · refine noControls_append.mpr ⟨Significant.noControls_positional hd, ?_⟩
      split <;> simp [h]
    · exact Significant.noControls_scientific hd

end Binary64

/-! ## Values -/

namespace Json

theorem noControls_escape (c : Char) : NoControls (escape c) := by
  have hd : ∀ n < 16, 0x20 ≤ (lowerHexDigit n).toNat := by decide
  unfold escape
  repeat' split
  iterate 7 · decide
  · have hq := hd (c.toNat / 16) (by omega)
    have hr := hd (c.toNat % 16) (by omega)
    simp [hq, hr]
  · rename_i h
    simpa using h

theorem noControls_quote (s : String) : NoControls (quote s) := by
  have he : NoControls (s.toList.flatMap escape) := by
    intro c hc
    obtain ⟨d, -, hd⟩ := List.mem_flatMap.mp hc
    exact noControls_escape d c hd
  simp [quote, he]

theorem Number.noControls_chars (n : Number) : NoControls n.chars := by
  cases n with
  | int n =>
    exact noControls_append.mpr ⟨Binary64.noControls_signText _, noControls_toDigits _⟩
  | float x => exact Binary64.Layout.noControls_chars (by decide) x

mutual

/-- The compact text of a value has no control characters. -/
theorem noControls_chars : ∀ j : Json, NoControls j.chars
  | .null => by decide
  | .bool b => by cases b <;> decide
  | .number n => n.noControls_chars
  | .string s => noControls_quote s
  | .array items => by simp [chars, noControls_itemChars items]
  | .object fields => by simp [chars, noControls_fieldChars fields]

theorem noControls_itemChars : ∀ items : List Json, NoControls (itemChars items)
  | [] => noControls_nil
  | [item] => noControls_chars item
  | item :: next :: items => by
    simp [itemChars, noControls_chars item, noControls_itemChars (next :: items)]

theorem noControls_fieldChars : ∀ fields : List (String × Json), NoControls (fieldChars fields)
  | [] => noControls_nil
  | [(name, value)] => by simp [fieldChars, noControls_quote, noControls_chars value]
  | (name, value) :: next :: fields => by
    simp [fieldChars, noControls_quote, noControls_chars value, noControls_fieldChars (next :: fields)]

end

/-- The compact text of a value has no line break. -/
theorem newline_not_mem_chars (j : Json) : '\n' ∉ j.chars :=
  fun h => absurd (noControls_chars j _ h) (by decide)

end Json

end FormLang
