import FormLang.Text.Search

/-!
# Parts between separators

Cutting a text at a character and joining parts are the operations on lists (`split_eq_splitOn`,
`join_eq_intercalate`). So parts without the separator are what their joined text is cut into (`split_join`), and a
separator anywhere in a text divides its parts (`split_append_cons`), and the text after the last one is determined
(`eq_of_append_cons`). A joined text holds nothing but its parts and separators (`mem_join`).
-/

namespace FormLang.Text

theorem split_eq_splitOn (sep : Char) (cs : List Char) : split sep cs = cs.splitOn sep := by
  induction cs with
  | nil => rfl
  | cons c cs ih =>
    rw [List.splitOn, List.splitOnP_cons_eq_if_modifyHead, ← List.splitOn, ← ih, split]
    simp only [beq_iff_eq]
    refine ite_congr rfl (fun _ => rfl) fun _ => ?_
    cases h : split sep cs with
    | nil => exact absurd h (split_ne_nil sep cs)
    | cons part parts => rfl

theorem join_eq_intercalate (sep : List Char) (parts : List (List Char)) : join sep parts = sep.intercalate parts := by
  fun_induction join sep parts with
  | case1 => simp
  | case2 part => simp
  | case3 part next parts ih => rw [List.intercalate_cons_cons, ih]

theorem mem_join {sep : List Char} {parts : List (List Char)} {c : Char} (h : c ∈ join sep parts) :
    c ∈ sep ∨ ∃ part ∈ parts, c ∈ part := by
  fun_induction join sep parts with
  | case1 => simp at h
  | case2 part => exact .inr ⟨part, by simp, h⟩
  | case3 part next parts ih =>
    simp only [List.mem_append] at h
    rcases h with (h | h) | h
    · exact .inr ⟨part, by simp, h⟩
    · exact .inl h
    · refine (ih h).imp_right fun ⟨part', hpart, hc⟩ => ⟨part', ?_, hc⟩
      exact List.mem_cons_of_mem _ hpart

/-- Every part of a text that is joined with a separator in front comes after a separator. -/
theorem append_join (sep : List Char) {parts : List (List Char)} (hne : parts ≠ []) :
    sep ++ join sep parts = parts.flatMap (sep ++ ·) := by
  fun_induction join sep parts with
  | case1 => exact absurd rfl hne
  | case2 part => simp
  | case3 part next parts ih =>
    rw [List.flatMap_cons, ← ih (List.cons_ne_nil _ _), List.append_assoc, List.append_assoc]

theorem join_cons (sep part : List Char) {parts : List (List Char)} (hne : parts ≠ []) :
    join sep (part :: parts) = part ++ sep ++ join sep parts := by
  cases parts with
  | nil => exact absurd rfl hne
  | cons next parts => rfl

theorem join_append (sep : List Char) {parts parts' : List (List Char)} (hne : parts ≠ []) (hne' : parts' ≠ []) :
    join sep (parts ++ parts') = join sep parts ++ sep ++ join sep parts' := by
  induction parts with
  | nil => exact absurd rfl hne
  | cons part parts ih =>
    rw [List.cons_append]
    by_cases h : parts = []
    · rw [h, List.nil_append, join_cons sep part hne', join]
    · rw [join_cons sep part (List.append_ne_nil_of_left_ne_nil h parts'), join_cons sep part h, ih h]
      simp only [List.append_assoc]

/-- Parts without the separator are what their joined text is cut into. -/
theorem split_join {sep : Char} {parts : List (List Char)} (hne : parts ≠ []) (h : ∀ part ∈ parts, sep ∉ part) :
    split sep (join [sep] parts) = parts := by
  rw [split_eq_splitOn, join_eq_intercalate, List.splitOn_intercalate sep h hne]

/-- A separator divides the parts of a text into those before it and those after it. -/
theorem split_append_cons (sep : Char) (cs ds : List Char) :
    split sep (cs ++ sep :: ds) = split sep cs ++ split sep ds := by
  simp only [split_eq_splitOn, List.splitOn]
  exact List.splitOnP_append_cons cs ds (beq_self_eq_true sep)

/-- What follows the last separator of a text is one part of it. -/
theorem eq_of_append_cons {sep : Char} {cs cs' ds ds' : List Char} (hd : sep ∉ ds) (hd' : sep ∉ ds')
    (h : cs ++ sep :: ds = cs' ++ sep :: ds') : ds = ds' := by
  have hsplit {ds : List Char} (hd : sep ∉ ds) : split sep ds = [ds] :=
    split_join (List.cons_ne_nil ds []) (List.forall_mem_singleton.mpr hd)
  have hparts := congrArg (split sep) h
  rw [split_append_cons, split_append_cons, hsplit hd, hsplit hd'] at hparts
  exact List.singleton_inj.mp (List.append_inj_right' hparts rfl)

end FormLang.Text
