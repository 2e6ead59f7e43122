import FormLang.Proofs.Decimal.Numeral

/-!
# Strict numerals

A strict numeral is written `-?[0-9]+` or `-?[0-9]+.[0-9]+` (`IsStrict`). What the reader finds in a text, apart
from a power of ten, is what is written there: the reader takes the texts of strict numerals, and no others, for
numerals without a power (`ofText?_eq_strict_iff`).
-/

namespace FormLang.Numeral

/-- Digits, perhaps after a minus sign, and perhaps a point and digits. -/
structure IsStrict (n : Numeral) : Prop extends n.IsWellFormed where
  power : n.power = none

variable {cs ds rest : List Char} {fraction : Option (List Char)} {n : Numeral}

/-! ## What is read is what is written -/

theorem eq_of_readDigits? (h : readDigits? cs = some (ds, rest)) : cs = ds ++ rest ∧ IsDigits ds := by
  unfold readDigits? at h
  split at h
  case h_1 => cases h
  case h_2 hne =>
    cases h
    refine ⟨List.takeWhile_append_dropWhile.symm, hne, fun c hc => ?_⟩
    exact List.all_eq_true.mp List.all_takeWhile c hc

theorem eq_nil_of_power? (h : power? cs = some none) : cs = [] := by
  cases cs with
  | nil => rfl
  | cons c cs =>
    rw [power?] at h
    split at h
    · obtain ⟨p, -, hp⟩ := Option.map_eq_some_iff.mp h
      cases hp
    · cases h

theorem eq_of_fractionAndPower? (h : fractionAndPower? cs = some (fraction, none)) :
    cs = fractionText fraction ∧ ∀ digits ∈ fraction, IsDigits digits := by
  unfold fractionAndPower? at h
  split at h
  case h_1 cs =>
    simp only [Option.bind_eq_bind, Option.bind_eq_some_iff] at h
    obtain ⟨⟨digits, rest⟩, hd, power, hp, h⟩ := h
    cases h
    obtain ⟨rfl, hdigits⟩ := eq_of_readDigits? hd
    obtain rfl := eq_nil_of_power? hp
    refine ⟨by rw [List.append_nil, fractionText], fun ds hds => ?_⟩
    cases hds
    exact hdigits
  case h_2 =>
    simp only [Option.bind_eq_bind, Option.bind_eq_some_iff] at h
    obtain ⟨power, hp, h⟩ := h
    cases h
    exact ⟨eq_nil_of_power? hp, fun _ hds => by cases hds⟩

theorem eq_of_unsigned? {negative : Bool} (h : unsigned? negative cs = some n) (hp : n.power = none) :
    n.negative = negative ∧ n.IsStrict ∧ n.unsignedChars = cs := by
  simp only [unsigned?, Option.bind_eq_bind, Option.bind_eq_some_iff] at h
  obtain ⟨⟨whole, rest⟩, hw, ⟨fraction, power⟩, hf, h⟩ := h
  cases h
  obtain rfl : power = none := hp
  obtain ⟨rfl, hwhole⟩ := eq_of_readDigits? hw
  obtain ⟨rfl, hfraction⟩ := eq_of_fractionAndPower? hf
  refine ⟨rfl, ⟨⟨hwhole, hfraction⟩, rfl⟩, ?_⟩
  rw [unsignedChars, powerText, List.append_nil]

/-- A text reads as a numeral without a power of ten if and only if it is that numeral's text. -/
theorem ofText?_eq_strict_iff : ofText? cs = some n ∧ n.power = none ↔ n.IsStrict ∧ n.chars = cs := by
  constructor
  · rintro ⟨h, hp⟩
    unfold ofText? at h
    split at h
    · obtain ⟨hn, hs, rfl⟩ := eq_of_unsigned? h hp
      exact ⟨hs, by rw [chars, if_pos hn]⟩
    · obtain ⟨hn, hs, rfl⟩ := eq_of_unsigned? h hp
      exact ⟨hs, by rw [chars, if_neg (Bool.eq_false_iff.mp hn)]⟩
  · rintro ⟨hs, rfl⟩
    exact ⟨ofText?_chars hs.toIsWellFormed, hs.power⟩

end FormLang.Numeral
