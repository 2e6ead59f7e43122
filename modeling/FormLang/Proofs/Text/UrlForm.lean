import FormLang.Proofs.Text.Case
import FormLang.Text.UrlForm

/-!
# Reading texts in a URL query

A text in a URL query stands for bytes (`formBytes`): a plus sign for a space, a percent sign with two hexadecimal digits
for the byte of that number, and every other character for its own bytes. A text written for a query holds no characters
but letters, digits and six signs (`isFormChar_of_mem_urlForm`), and it is read back (`formDecode?_urlForm`).
-/

namespace FormLang.Text

/-- The value of a hexadecimal digit, in upper or lower case. -/
def hexValue? (c : Char) : Option Nat :=
  if '0' ≤ c ∧ c ≤ '9' then some (c.toNat - 0x30)
  else if 'A' ≤ c ∧ c ≤ 'F' then some (c.toNat - 0x37)
  else if 'a' ≤ c ∧ c ≤ 'f' then some (c.toNat - 0x57)
  else none

/-- The bytes that a text in a URL query stands for. A percent sign without two digits stands for itself. -/
def formBytes : List Char → List UInt8
  | '%' :: high :: low :: cs =>
    match hexValue? high, hexValue? low with
    | some m, some n => UInt8.ofNat (16 * m + n) :: formBytes cs
    | _, _ => 0x25 :: formBytes (high :: low :: cs)
  | '+' :: cs => 0x20 :: formBytes cs
  | c :: cs => String.utf8EncodeChar c ++ formBytes cs
  | [] => []

/-- The text that a text in a URL query stands for, if its bytes are a text. -/
def formDecode? (cs : List Char) : Option String := String.fromUTF8? ⟨(formBytes cs).toArray⟩

/-- Whether a character may stand in a text written for a URL query. -/
def isFormChar (c : Char) : Bool := c.isAlphanum || ['*', '-', '.', '_', '+', '%'].contains c

/-! ## Bytes -/

theorem hexValue?_hexDigit : ∀ n < 16, hexValue? (hexDigit n) = some n := by decide

theorem isFormChar_hexDigit : ∀ n < 16, isFormChar (hexDigit n) = true := by decide

theorem isFormByte_iff {b : Nat} :
    isFormByte b = true ↔ (0x30 ≤ b ∧ b ≤ 0x39) ∨ (0x41 ≤ b ∧ b ≤ 0x5A) ∨ (0x61 ≤ b ∧ b ≤ 0x7A) ∨
      b = 0x2A ∨ b = 0x2D ∨ b = 0x2E ∨ b = 0x5F := by
  simp [isFormByte, or_assoc]

theorem toNat_ofNat_of_isFormByte {b : Nat} (h : isFormByte b = true) : (Char.ofNat b).toNat = b := by
  have := isFormByte_iff.mp h
  exact toNat_ofNat (by unfold Nat.isValidChar; omega)

/-- A byte that stands for itself is a letter, a digit or one of four signs. -/
theorem isFormChar_of_toNat {c : Char} (h : isFormByte c.toNat = true) : isFormChar c = true := by
  have hletter (h : c.isUpper = true ∨ c.isLower = true) : c.isAlpha = true := (Bool.or_eq_true _ _).mpr h
  have halphanum (h : c.isAlpha = true ∨ c.isDigit = true) : isFormChar c = true :=
    (Bool.or_eq_true _ _).mpr (.inl ((Bool.or_eq_true _ _).mpr h))
  rcases isFormByte_iff.mp h with ⟨hlow, hhigh⟩ | ⟨hlow, hhigh⟩ | ⟨hlow, hhigh⟩ | h | h | h | h
  · exact halphanum (.inr (Numeral.isDigit_of_toNat hlow hhigh))
  · refine halphanum (.inl (hletter (.inl (decide_eq_true ?_))))
    exact ⟨UInt32.le_iff_toNat_le.mpr hlow, UInt32.le_iff_toNat_le.mpr hhigh⟩
  · refine halphanum (.inl (hletter (.inr ((Bool.and_eq_true _ _).mpr ⟨decide_eq_true ?_, decide_eq_true ?_⟩))))
    · exact UInt32.le_iff_toNat_le.mpr hlow
    · exact UInt32.le_iff_toNat_le.mpr hhigh
  · rw [show c = '*' from Char.toNat_inj.mp h]
    rfl
  · rw [show c = '-' from Char.toNat_inj.mp h]
    rfl
  · rw [show c = '.' from Char.toNat_inj.mp h]
    rfl
  · rw [show c = '_' from Char.toNat_inj.mp h]
    rfl

theorem isFormChar_formByte {b : Nat} (hb : b < 256) {c : Char} (hc : c ∈ formByte b) : isFormChar c = true := by
  rw [formByte] at hc
  split at hc
  · rw [List.mem_singleton.mp hc]
    rfl
  · split at hc
    · rename_i hself
      rw [List.mem_singleton.mp hc]
      exact isFormChar_of_toNat (by rwa [toNat_ofNat_of_isFormByte hself])
    · simp only [List.mem_cons, List.not_mem_nil, or_false] at hc
      rcases hc with rfl | rfl | rfl
      · rfl
      · exact isFormChar_hexDigit _ (by omega)
      · exact isFormChar_hexDigit _ (by omega)

/-- A byte that stands for itself is a character of one byte and none of the two signs that stand for other bytes. -/
theorem formBytes_self {b : UInt8} (h : isFormByte b.toNat = true) (cs : List Char) :
    formBytes (Char.ofNat b.toNat :: cs) = b :: formBytes cs := by
  have hcode := toNat_ofNat_of_isFormByte h
  have hbytes : String.utf8EncodeChar (Char.ofNat b.toNat) = [b] := by
    have hlow : (Char.ofNat b.toNat).toNat ≤ 127 := by
      have := isFormByte_iff.mp h
      omega
    change (if (Char.ofNat b.toNat).toNat ≤ 127 then [UInt8.ofNat (Char.ofNat b.toNat).toNat] else _) = _
    rw [if_pos hlow, hcode, UInt8.ofNat_toNat]
  have hne (sign : Char) (hsign : isFormByte sign.toNat = false) : Char.ofNat b.toNat ≠ sign := by
    rintro rfl
    rw [hcode, h] at hsign
    cases hsign
  rw [formBytes, hbytes, List.singleton_append]
  · rintro _ _ _ hpercent
    exact absurd hpercent (hne '%' rfl)
  · exact hne '+' rfl

/-- A written byte is read back, whatever follows it. -/
theorem formBytes_formByte (b : UInt8) (cs : List Char) :
    formBytes (formByte b.toNat ++ cs) = b :: formBytes cs := by
  rw [formByte]
  split
  · rename_i hspace
    rw [List.singleton_append, formBytes, show b = 0x20 from UInt8.toNat_inj.mp hspace]
  · split
    · rename_i hself
      exact formBytes_self hself cs
    · have hlt : b.toNat < 256 := b.toNat_lt
      rw [List.cons_append, List.cons_append, List.singleton_append, formBytes, hexValue?_hexDigit _ (by omega),
        hexValue?_hexDigit _ (by omega)]
      dsimp only
      rw [Nat.div_add_mod, UInt8.ofNat_toNat]

/-! ## Texts -/

theorem formBytes_flatMap (bs : List UInt8) : formBytes (bs.flatMap fun b => formByte b.toNat) = bs := by
  induction bs with
  | nil => rfl
  | cons b bs ih => rw [List.flatMap_cons, formBytes_formByte, ih]

/-- A text written for a URL query is read back. -/
theorem formDecode?_urlForm (s : String) : formDecode? (urlForm s) = some s := by
  rw [formDecode?, urlForm, formBytes_flatMap]
  simp only [String.fromUTF8?, String.toUTF8_eq_toByteArray, dif_pos s.isValidUTF8]
  rfl

theorem eq_of_urlForm_eq {s s' : String} (h : urlForm s = urlForm s') : s = s' := by
  have hs := formDecode?_urlForm s
  rw [h, formDecode?_urlForm] at hs
  exact (Option.some.inj hs).symm

theorem isFormChar_of_mem_urlForm {s : String} {c : Char} (hc : c ∈ urlForm s) : isFormChar c = true := by
  obtain ⟨b, -, hb⟩ := List.mem_flatMap.mp hc
  exact isFormChar_formByte b.toNat_lt hb

end FormLang.Text
