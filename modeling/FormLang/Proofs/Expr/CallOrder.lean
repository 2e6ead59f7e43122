import FormLang.Proofs.Expr.Argument

/-!
# The order of calls

The calls in an expression in the order in which they would end if all of them were made: each after
the calls in its arguments, and these from left to right (`callOrder`). They are the calls that paths
to arguments lead to (`mem_callOrder_iff`), and each stands there once (`nodup_callOrder`).
-/

namespace FormLang.Expr

mutual

/-- The calls in a node at a path, with their paths: first those in its arguments, then its own. -/
def callOrder (path : Path) : Json → List (Path × Builtin)
  | .array (.string name :: args) =>
    match Builtin.ofName? name with
    | some f => argumentOrder path 0 args ++ [(path, f)]
    | none => []
  | _ => []

/-- The calls in the arguments of a node at a path from an index on, from left to right. -/
def argumentOrder (path : Path) (i : Nat) : List Json → List (Path × Builtin)
  | [] => []
  | arg :: args => callOrder (path ++ [i + 1]) arg ++ argumentOrder path (i + 1) args

end

@[simp] theorem callOrder_call (path : Path) (f : Builtin) (args : List Json) :
    callOrder path (.call f args) = argumentOrder path 0 args ++ [(path, f)] := by
  rw [callOrder, Builtin.ofName?_name]

theorem callOrder_literal (path : Path) {node : Json} (h : isExpression node = false) :
    callOrder path node = [] := by
  unfold callOrder
  split
  · rename_i name args
    have hf : Builtin.ofName? name = none := by simpa [isExpression] using h
    rw [hf]
  · rfl

@[simp] theorem argumentOrder_nil (path : Path) (i : Nat) : argumentOrder path i [] = [] := by
  rw [argumentOrder]

@[simp] theorem argumentOrder_cons (path : Path) (i : Nat) (arg : Json) (args : List Json) :
    argumentOrder path i (arg :: args) =
      callOrder (path ++ [i + 1]) arg ++ argumentOrder path (i + 1) args := by
  rw [argumentOrder]

theorem mem_argumentOrder_iff {path : Path} {i : Nat} {args : List Json} {site : Path × Builtin} :
    site ∈ argumentOrder path i args ↔
      ∃ j arg, args[j]? = some arg ∧ site ∈ callOrder (path ++ [i + j + 1]) arg := by
  induction args generalizing i with
  | nil => simp
  | cons arg args ih =>
    rw [argumentOrder_cons, List.mem_append, ih]
    constructor
    · rintro (h | ⟨j, arg', hj, h⟩)
      · exact ⟨0, arg, rfl, h⟩
      · exact ⟨j + 1, arg', by simpa using hj, by rwa [show i + (j + 1) = i + 1 + j by omega]⟩
    · rintro ⟨_ | j, arg', hj, h⟩
      · obtain rfl : arg = arg' := by simpa using hj
        exact .inl h
      · exact .inr ⟨j, arg', by simpa using hj, by rwa [show i + 1 + j = i + (j + 1) by omega]⟩

/-- The calls are those that paths to arguments lead to. -/
theorem mem_callOrder_iff {path p : Path} {f : Builtin} {node : Json} :
    (p, f) ∈ callOrder path node ↔
      ∃ q args, p = path ++ q ∧ q.IsArgument node ∧ Path.node? q node = some (.call f args) := by
  induction node using expression_induction generalizing path with
  | literal node hn =>
    rw [callOrder_literal path hn]
    refine ⟨by simp, ?_⟩
    rintro ⟨q, args, -, hq, hf⟩
    obtain rfl := hq.eq_nil hn
    obtain rfl : node = .call f args := by simpa using hf
    simp at hn
  | call g nodes ih =>
    rw [callOrder_call, List.mem_append, mem_argumentOrder_iff]
    constructor
    · rintro (⟨j, arg, hj, h⟩ | h)
      · obtain ⟨q, args, rfl, hq, hf⟩ := (ih arg (List.mem_of_getElem? hj)).mp h
        refine ⟨(j + 1) :: q, args, by simp, Path.isArgument_call_iff.mpr ⟨j, arg, rfl, hj, hq⟩, ?_⟩
        simpa [hj] using hf
      · obtain ⟨rfl, rfl⟩ : p = path ∧ f = g := by simpa using h
        exact ⟨[], nodes, by simp⟩
    · rintro ⟨q, args, rfl, hq, hf⟩
      cases q with
      | nil =>
        obtain ⟨rfl, -⟩ := Json.call_inj.mp (Option.some.inj ((Path.node?_nil _).symm.trans hf))
        exact .inr (by simp)
      | cons i q =>
        obtain ⟨j, arg, rfl, hj, hq⟩ := Path.isArgument_call_iff.mp hq
        refine .inl ⟨j, arg, hj, (ih arg (List.mem_of_getElem? hj)).mpr ⟨q, args, by simp, hq, ?_⟩⟩
        simpa [hj] using hf

/-- All calls in the arguments from an index on lie below one of these arguments. -/
theorem exists_of_mem_argumentOrder {path p : Path} {i : Nat} {args : List Json}
    (h : p ∈ (argumentOrder path i args).map Prod.fst) :
    ∃ j q, i < j ∧ p = path ++ j :: q := by
  obtain ⟨⟨p, f⟩, hs, rfl⟩ := List.mem_map.mp h
  obtain ⟨j, arg, -, hs⟩ := mem_argumentOrder_iff.mp hs
  obtain ⟨q, -, rfl, -⟩ := mem_callOrder_iff.mp hs
  exact ⟨i + j + 1, q, by omega, by simp⟩

/-- No path occurs twice. -/
theorem nodup_callOrder (path : Path) (node : Json) :
    ((callOrder path node).map Prod.fst).Nodup := by
  induction node using expression_induction generalizing path with
  | literal node hn => simp [callOrder_literal path hn]
  | call f args ih =>
    have hargs : ∀ i, ((argumentOrder path i args).map Prod.fst).Nodup := by
      induction args with
      | nil => simp
      | cons arg args ihs =>
        intro i
        rw [argumentOrder_cons, List.map_append, List.nodup_append]
        refine ⟨ih arg (by simp) _, ihs (fun arg ha => ih arg (by simp [ha])) _, ?_⟩
        rintro p hp _ hp' rfl
        obtain ⟨⟨p, f⟩, hs, rfl⟩ := List.mem_map.mp hp
        obtain ⟨q, -, rfl, -⟩ := mem_callOrder_iff.mp hs
        obtain ⟨j, q', hj, he⟩ := exists_of_mem_argumentOrder hp'
        simp only [List.append_assoc, List.singleton_append, List.append_cancel_left_eq,
          List.cons.injEq] at he
        omega
    rw [callOrder_call, List.map_append, List.nodup_append]
    refine ⟨hargs 0, by simp, ?_⟩
    rintro p hp _ hp' rfl
    obtain ⟨j, q, -, rfl⟩ := exists_of_mem_argumentOrder hp
    simp at hp'

end FormLang.Expr
