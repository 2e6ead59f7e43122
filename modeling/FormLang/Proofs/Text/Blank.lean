import FormLang.Text.Blank
import FormLang.Proofs.Decimal.Numeral

/-!
# Blanks around a text

Digits are not blank (`isBlank_of_isDigit`), and nothing is cut off a text that holds no blank (`trim_eq_self`). A text
is written with blanks around it (`IsPadded`); what trimming leaves is the text between them that neither starts nor ends
with a blank (`trim_eq_iff`), however many blanks there are (`trim_of_isPadded`).
-/

namespace FormLang.Text

theorem isBlank_of_isDigit {c : Char} (h : c.isDigit = true) : isBlank c = false := by
  have hcodes : ∀ code ≤ 0x39, 0x30 ≤ code →
      (blankRanges.any fun range => range.1 ≤ code && code ≤ range.2) = false := by decide
  obtain ⟨hle, hge⟩ := Numeral.toNat_of_isDigit h
  exact hcodes c.toNat hge hle

variable {cs ds before after : List Char}

/-! ## Cutting off blanks -/

theorem trimStart_eq_self (h : ∀ c ∈ cs.head?, isBlank c = false) : trimStart cs = cs := by
  cases cs with
  | nil => rfl
  | cons c cs => exact List.dropWhile_cons_of_neg (by simp [h c rfl])

theorem trimEnd_eq_self (h : ∀ c ∈ cs.getLast?, isBlank c = false) : trimEnd cs = cs := by
  rw [trimEnd, trimStart_eq_self (by rwa [List.head?_reverse]), List.reverse_reverse]

theorem trim_eq_self (h : ∀ c ∈ cs, isBlank c = false) : trim cs = cs := by
  rw [trim, trimStart_eq_self fun c hc => h c (List.mem_of_head? hc),
    trimEnd_eq_self fun c hc => h c (List.mem_of_getLast? hc)]

theorem trimStart_append (h : allBlank before = true) (cs : List Char) :
    trimStart (before ++ cs) = trimStart cs :=
  List.dropWhile_append_of_pos (List.all_eq_true.mp h)

theorem trimEnd_append (cs : List Char) (h : allBlank after = true) : trimEnd (cs ++ after) = trimEnd cs := by
  have hreverse : allBlank after.reverse = true := by rwa [allBlank, List.all_reverse]
  rw [trimEnd, List.reverse_append, trimStart_append hreverse, trimEnd]

theorem exists_trimStart (cs : List Char) : ∃ before, allBlank before = true ∧ cs = before ++ trimStart cs :=
  ⟨cs.takeWhile isBlank, List.all_takeWhile, List.takeWhile_append_dropWhile.symm⟩

theorem exists_trimEnd (cs : List Char) : ∃ after, allBlank after = true ∧ cs = trimEnd cs ++ after := by
  obtain ⟨before, hblank, hcs⟩ := exists_trimStart cs.reverse
  refine ⟨before.reverse, by rwa [allBlank, List.all_reverse], ?_⟩
  rw [trimEnd, ← List.reverse_append, ← hcs, List.reverse_reverse]

theorem isBlank_head?_trimStart (cs : List Char) : ∀ c ∈ (trimStart cs).head?, isBlank c = false := by
  intro c hc
  have h := List.head?_dropWhile_not isBlank cs
  rw [trimStart, Option.mem_def] at hc
  rwa [hc] at h

/-! ## Texts with blanks around them -/

/-- The text `cs` is the text `ds` with blanks around it. -/
def IsPadded (ds cs : List Char) : Prop :=
  ∃ before after, allBlank before = true ∧ allBlank after = true ∧ cs = before ++ (ds ++ after)

/-- The text `ds` is the text `cs` without the blanks at its ends. -/
structure IsTrimOf (ds cs : List Char) : Prop where
  padded : IsPadded ds cs
  head : ∀ c ∈ ds.head?, isBlank c = false
  last : ∀ c ∈ ds.getLast?, isBlank c = false

theorem IsTrimOf.not_mem {c : Char} (h : IsTrimOf ds cs) (hc : c ∉ cs) : c ∉ ds := by
  obtain ⟨before, after, -, -, rfl⟩ := h.padded
  exact fun hmem => hc (List.mem_append_right before (List.mem_append_left after hmem))

theorem isTrimOf_trim (cs : List Char) : IsTrimOf (trim cs) cs := by
  obtain ⟨before, hbefore, hcs⟩ := exists_trimStart cs
  obtain ⟨after, hafter, hstart⟩ := exists_trimEnd (trimStart cs)
  refine ⟨⟨before, after, hbefore, hafter, ?_⟩, fun c hc => ?_, fun c hc => ?_⟩
  · rw [trim, ← hstart, ← hcs]
  · refine isBlank_head?_trimStart cs c ?_
    rw [trim, Option.mem_def] at hc
    rw [hstart, List.head?_append, hc]
    rfl
  · rw [trim, trimEnd, List.getLast?_reverse] at hc
    exact isBlank_head?_trimStart _ c hc

theorem IsTrimOf.trim_eq (h : IsTrimOf ds cs) : trim cs = ds := by
  obtain ⟨before, after, hbefore, hafter, rfl⟩ := h.padded
  rw [trim, trimStart_append hbefore]
  cases ds with
  | nil =>
    obtain ⟨blanks, -, hafter'⟩ := exists_trimStart after
    have hnil := trimStart_append hafter []
    rw [List.append_nil] at hnil
    rw [List.nil_append, hnil]
    rfl
  | cons d ds => rw [trimStart_eq_self (by exact h.head), trimEnd_append _ hafter, trimEnd_eq_self h.last]

/-- What trimming leaves of a text is the text without the blanks at its ends. -/
theorem trim_eq_iff : trim cs = ds ↔ IsTrimOf ds cs := ⟨fun h => h ▸ isTrimOf_trim cs, IsTrimOf.trim_eq⟩

/-- Blanks around a text do not change what trimming leaves of it. -/
theorem trim_of_isPadded (h : IsPadded ds cs) : trim cs = trim ds := by
  obtain ⟨before, after, hbefore, hafter, rfl⟩ := h
  obtain ⟨⟨before', after', hbefore', hafter', hds⟩, hhead, hlast⟩ := isTrimOf_trim ds
  refine IsTrimOf.trim_eq ⟨⟨before ++ before', after' ++ after, ?_, ?_, ?_⟩, hhead, hlast⟩
  · rw [allBlank, List.all_append, Bool.and_eq_true]
    exact ⟨hbefore, hbefore'⟩
  · rw [allBlank, List.all_append, Bool.and_eq_true]
    exact ⟨hafter', hafter⟩
  · calc
      before ++ (ds ++ after) = before ++ (before' ++ (trim ds ++ after') ++ after) :=
        congrArg (fun text => before ++ (text ++ after)) hds
      _ = before ++ before' ++ (trim ds ++ (after' ++ after)) := by simp only [List.append_assoc]

end FormLang.Text
