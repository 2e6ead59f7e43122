import FormLang.Proofs.Decimal.Numeral
import FormLang.Text.Case

/-!
# What a text in upper or lower case says of the text

The case tables are finite, so it can be computed in whose upper case a character occurs
(`upperSources`, `mem_upperSources`):

* a character that comes before the letters occurs in no other character's upper case, so it can be
  read off a text in upper case (`upper_eq_cons_iff`, `upper_eq_append_iff`);
* a capital T before a digit stands for a T of either case, and so does a capital Z for a Z
  (`upper_eq_cons_T`, `upper_eq_cons_Z`);
* a text that starts with a character before the letters still does in lower case (`head?_lower`).
-/

namespace FormLang.Text

theorem toNat_ofNat {n : Nat} (h : n.isValidChar) : (Char.ofNat n).toNat = n := by
  rw [Char.ofNat, dif_pos h]
  rfl

/-- A digit comes before the letters. -/
theorem toNat_lt_of_isDigit {c : Char} (h : c.isDigit = true) : c.toNat < 0x41 :=
  Nat.lt_of_le_of_lt (Numeral.toNat_of_isDigit h).2 (by decide)

/-! ## Single characters -/

/-- The codes of the characters, other than the character itself, in whose upper case a code occurs. -/
def upperSources (code : Nat) : List Nat :=
  (upperShifts.filter fun run => run.covers (source run)).map source ++
    (upperExpansions.filter fun expansion => expansion.2.contains code).map Prod.fst
where
  /-- The code that a run moves to the code. -/
  source (run : Shift) : Nat := ((code : Int) - run.distance).toNat

/-- Every run moves characters to characters; none of them comes before the letters. -/
theorem isValid_of_mem_upperShifts :
    ∀ run ∈ upperShifts, 0x41 ≤ run.first ∧ 0x41 ≤ run.first + run.distance ∧
      (run.last + run.distance < 0xD800 ∨
        0xDFFF < run.first + run.distance ∧ run.last + run.distance < 0x110000) := by
  decide +kernel

/-- Every expansion is one or more characters; none of them comes before the letters. -/
theorem isValid_of_mem_upperExpansions :
    ∀ expansion ∈ upperExpansions, 0x41 ≤ expansion.1 ∧ expansion.2 ≠ [] ∧
      ∀ code ∈ expansion.2, 0x41 ≤ code ∧ code.isValidChar := by
  decide +kernel

theorem mem_of_lookup {code : Nat} {codes : List Nat} (h : upperExpansions.lookup code = some codes) :
    (code, codes) ∈ upperExpansions := by
  obtain ⟨before, after, hl, -⟩ := List.lookup_eq_some_iff.mp h
  rw [hl]
  exact List.mem_append_right _ List.mem_cons_self

theorem upperOf_ne_nil (c : Char) : upperOf c ≠ [] := by
  unfold upperOf
  split
  · rename_i codes h
    rw [ne_eq, List.map_eq_nil_iff]
    exact (isValid_of_mem_upperExpansions _ (mem_of_lookup h)).2.1
  · exact List.cons_ne_nil _ _

theorem first_le_of_find? {c : Char} {run : Shift}
    (h : upperShifts.find? (·.covers c.toNat) = some run) :
    run.covers c.toNat = true ∧ run.first ≤ c.toNat ∧ c.toNat ≤ run.last := by
  have hcovers := List.find?_some (p := fun run : Shift => run.covers c.toNat) h
  refine ⟨hcovers, ?_⟩
  simp only [Shift.covers, Bool.and_eq_true, decide_eq_true_eq] at hcovers
  exact hcovers.1

/-- A character occurs in its own upper case, or in that of its sources if it is no earlier than the
letters. -/
theorem mem_upperSources {c d : Char} (h : d ∈ upperOf c) :
    c = d ∨ 0x41 ≤ d.toNat ∧ c.toNat ∈ upperSources d.toNat := by
  unfold upperOf at h
  split at h
  case h_1 codes hl =>
    obtain ⟨code, hcode, rfl⟩ := List.mem_map.mp h
    have hmem := mem_of_lookup hl
    obtain ⟨hle, hvalid⟩ := (isValid_of_mem_upperExpansions _ hmem).2.2 code hcode
    rw [toNat_ofNat hvalid]
    refine .inr ⟨hle, List.mem_append_right _ (List.mem_map.mpr ⟨_, List.mem_filter.mpr ⟨hmem, ?_⟩, rfl⟩)⟩
    exact List.contains_iff_mem.mpr hcode
  case h_2 =>
    obtain rfl := List.mem_singleton.mp h
    unfold Shift.apply
    split
    case h_2 => exact .inl rfl
    case h_1 run hf =>
      have hrun := List.mem_of_find?_eq_some hf
      obtain ⟨hcovers, hfirst, hlast⟩ := first_le_of_find? hf
      have hvalid := isValid_of_mem_upperShifts run hrun
      have hsource : upperSources.source (c.toNat + run.distance).toNat run = c.toNat := by
        unfold upperSources.source
        omega
      rw [toNat_ofNat (by unfold Nat.isValidChar; omega)]
      refine .inr ⟨by omega, List.mem_append_left _ (List.mem_map.mpr ⟨run, ?_, hsource⟩)⟩
      exact List.mem_filter.mpr ⟨hrun, hsource.symm ▸ hcovers⟩

/-- No character that comes before the letters occurs in the upper case of another one. -/
theorem eq_of_mem_upperOf {c d : Char} (hd : d.toNat < 0x41) (h : d ∈ upperOf c) : c = d :=
  (mem_upperSources h).resolve_right fun hc => absurd hc.1 (by omega)

/-- A character that comes before the letters is its own upper case. -/
theorem upperOf_of_lt {c : Char} (hc : c.toNat < 0x41) : upperOf c = [c] := by
  unfold upperOf
  split
  case h_1 codes hl =>
    have := (isValid_of_mem_upperExpansions _ (mem_of_lookup hl)).1
    omega
  case h_2 =>
    unfold Shift.apply
    split
    case h_1 run hf =>
      have := (isValid_of_mem_upperShifts run (List.mem_of_find?_eq_some hf)).1
      have := first_le_of_find? hf
      omega
    case h_2 => rfl

theorem upperOf_eq_cons_T {c : Char} {es : List Char} (h : upperOf c = 'T' :: es) :
    (c = 'T' ∨ c = 't') ∧ es = [] ∨ es = ['\u0308'] := by
  have hsources : upperSources 'T'.toNat = [0x74, 0x1E97, 0xFB05, 0xFB06] := by decide +kernel
  rcases mem_upperSources (h ▸ List.mem_cons_self : 'T' ∈ upperOf c) with rfl | ⟨-, hc⟩
  · exact .inl ⟨.inl rfl, (List.cons.inj (h.symm.trans (by decide +kernel : upperOf 'T' = ['T']))).2⟩
  · rw [← Char.ofNat_toNat c] at h ⊢
    generalize c.toNat = code at h hc ⊢
    simp only [hsources, List.mem_cons, List.not_mem_nil, or_false] at hc
    rcases hc with rfl | rfl | rfl | rfl
    · have hu : upperOf (Char.ofNat 0x74) = ['T'] := by decide +kernel
      exact .inl ⟨.inr rfl, (List.cons.inj (h.symm.trans hu)).2⟩
    · have hu : upperOf (Char.ofNat 0x1E97) = ['T', '\u0308'] := by decide +kernel
      exact .inr (List.cons.inj (h.symm.trans hu)).2
    · have hu : upperOf (Char.ofNat 0xFB05) = ['S', 'T'] := by decide +kernel
      exact absurd (List.cons.inj (h.symm.trans hu)).1 (by decide)
    · have hu : upperOf (Char.ofNat 0xFB06) = ['S', 'T'] := by decide +kernel
      exact absurd (List.cons.inj (h.symm.trans hu)).1 (by decide)

theorem upperOf_eq_cons_Z {c : Char} {es : List Char} (h : upperOf c = 'Z' :: es) :
    (c = 'Z' ∨ c = 'z') ∧ es = [] := by
  have hsources : upperSources 'Z'.toNat = [0x7A] := by decide +kernel
  rcases mem_upperSources (h ▸ List.mem_cons_self : 'Z' ∈ upperOf c) with rfl | ⟨-, hc⟩
  · exact ⟨.inl rfl, (List.cons.inj (h.symm.trans (by decide +kernel : upperOf 'Z' = ['Z']))).2⟩
  · rw [hsources, List.mem_singleton] at hc
    obtain rfl : c = 'z' := by rw [← Char.ofNat_toNat c, hc]
    exact ⟨.inr rfl, (List.cons.inj (h.symm.trans (by decide +kernel : upperOf 'z' = ['Z']))).2⟩

/-! ## Texts -/

variable {cs ds : List Char} {d : Char}

theorem upper_eq_nil_iff : upper cs = [] ↔ cs = [] := by
  constructor
  · intro h
    cases cs with
    | nil => rfl
    | cons c rest =>
      rw [upper_cons] at h
      exact absurd (List.append_eq_nil_iff.mp h).1 (upperOf_ne_nil c)
  · rintro rfl
    rfl

/-- A text in upper case starts with the upper case of the text's first character. -/
theorem exists_of_upper_eq_cons (h : upper cs = d :: ds) :
    ∃ c rest es, cs = c :: rest ∧ upperOf c = d :: es ∧ es ++ upper rest = ds := by
  cases cs with
  | nil => cases h
  | cons c rest =>
    rw [upper_cons] at h
    cases hu : upperOf c with
    | nil => exact absurd hu (upperOf_ne_nil c)
    | cons e es =>
      rw [hu, List.cons_append] at h
      obtain ⟨rfl, hs⟩ := List.cons.inj h
      exact ⟨c, rest, es, rfl, hu, hs⟩

/-- Characters that come before the letters are read off a text in upper case. -/
theorem upper_eq_cons_iff (hd : d.toNat < 0x41) :
    upper cs = d :: ds ↔ ∃ rest, cs = d :: rest ∧ upper rest = ds := by
  constructor
  · intro h
    obtain ⟨c, rest, es, rfl, hu, hs⟩ := exists_of_upper_eq_cons h
    obtain rfl := eq_of_mem_upperOf hd (hu ▸ List.mem_cons_self)
    rw [upperOf_of_lt hd] at hu
    obtain ⟨-, rfl⟩ := List.cons.inj hu
    exact ⟨rest, rfl, hs⟩
  · rintro ⟨rest, rfl, rfl⟩
    rw [upper_cons, upperOf_of_lt hd]
    rfl

theorem upper_eq_append_iff {es : List Char} (he : ∀ c ∈ es, c.toNat < 0x41) :
    upper cs = es ++ ds ↔ ∃ rest, cs = es ++ rest ∧ upper rest = ds := by
  induction es generalizing cs with
  | nil => exact ⟨fun h => ⟨cs, rfl, h⟩, fun ⟨_, hc, h⟩ => hc ▸ h⟩
  | cons e es ih =>
    rw [List.cons_append, upper_eq_cons_iff (he e List.mem_cons_self)]
    constructor
    · rintro ⟨_, rfl, h⟩
      obtain ⟨rest, rfl, h'⟩ := (ih fun c hc => he c (List.mem_cons_of_mem _ hc)).mp h
      exact ⟨rest, rfl, h'⟩
    · rintro ⟨rest, rfl, h⟩
      exact ⟨es ++ rest, rfl, (ih fun c hc => he c (List.mem_cons_of_mem _ hc)).mpr ⟨rest, rfl, h⟩⟩

/-- A capital T before a digit is the upper case of a T of either case. -/
theorem upper_eq_cons_T (hd : d.isDigit = true) (h : upper cs = 'T' :: d :: ds) :
    ∃ c rest, (c = 'T' ∨ c = 't') ∧ cs = c :: rest ∧ upper rest = d :: ds := by
  obtain ⟨c, rest, es, rfl, hu, hs⟩ := exists_of_upper_eq_cons h
  rcases upperOf_eq_cons_T hu with ⟨hc, rfl⟩ | rfl
  · exact ⟨c, rest, hc, rfl, hs⟩
  · obtain ⟨rfl, -⟩ := List.cons.inj hs
    exact absurd hd (by decide)

/-- A capital Z is the upper case of a Z of either case. -/
theorem upper_eq_cons_Z (h : upper cs = 'Z' :: ds) :
    ∃ c rest, (c = 'Z' ∨ c = 'z') ∧ cs = c :: rest ∧ upper rest = ds := by
  obtain ⟨c, rest, es, rfl, hu, hs⟩ := exists_of_upper_eq_cons h
  obtain ⟨hc, rfl⟩ := upperOf_eq_cons_Z hu
  exact ⟨c, rest, hc, rfl, hs⟩

/-! ## Lower case -/

/-- A character that comes before the letters is its own lower case. -/
theorem lowerOf_of_lt {c : Char} (hc : c.toNat < 0x41) : lowerOf c = [c] := by
  have hfirst : ∀ run ∈ lowerShifts, 0x41 ≤ run.first := by decide +kernel
  unfold lowerOf
  rw [if_neg (by rintro rfl; exact absurd hc (by decide))]
  unfold Shift.apply
  split
  case h_1 run hf =>
    have hcovers := List.find?_some (p := fun run : Shift => run.covers c.toNat) hf
    have := hfirst run (List.mem_of_find?_eq_some hf)
    simp only [Shift.covers, Bool.and_eq_true, decide_eq_true_eq] at hcovers
    omega
  case h_2 => rfl

/-- A text that starts with a character before the letters still does in lower case. -/
theorem head?_lower {c : Char} (hc : c.toNat < 0x41) (cs : List Char) :
    (lower (c :: cs)).head? = some c := by
  unfold lower lowerAfter
  rw [if_neg (by rintro rfl; exact absurd hc (by decide)), lowerOf_of_lt hc]
  rfl

end FormLang.Text
