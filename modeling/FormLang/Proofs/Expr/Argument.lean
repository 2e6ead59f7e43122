import FormLang.Proofs.Expr.Evaluation

/-!
# Paths to arguments

* `Path.node?`: the node that a path leads to;
* `Path.replace`: an expression with another node at a path;
* `Path.IsArgument`: the paths through calls to their arguments, never to the name of a function. Such
  a path is empty, or it leads from a call to one of its arguments and goes on from there
  (`isArgument_cons_iff`).
-/

namespace FormLang.Path

/-- The node that a path leads to, if all nodes on the way are arrays that are long enough. -/
def node? : Path → Json → Option Json
  | [], node => some node
  | i :: path, .array items => items[i]?.bind (node? path)
  | _ :: _, _ => none

/-- An expression with another node at a path; unchanged if no node is there. -/
def replace : Path → Json → Json → Json
  | [], new, _ => new
  | i :: path, new, .array items => .array (items.modify i (replace path new))
  | _ :: _, _, node => node

/-- A path that leads through calls to one of their arguments, or to the root. -/
structure IsArgument (path : Path) (root : Json) : Prop where
  /-- No position is that of a function's name. -/
  pos : ∀ i ∈ path, 1 ≤ i
  /-- The path leads to a node. -/
  exists_node : ∃ node, path.node? root = some node
  /-- All nodes before it are expressions. -/
  expression : ∀ q : Path, q <+: path → q ≠ path →
    ∃ node, q.node? root = some node ∧ isExpression node = true

@[simp] theorem node?_nil (root : Json) : node? [] root = some root := by
  rw [node?]

/-- A path of several positions leads through an array. -/
theorem node?_cons_eq_some_iff {i : Nat} {path : Path} {root node : Json} :
    node? (i :: path) root = some node ↔
      ∃ items item, root = .array items ∧ items[i]? = some item ∧ path.node? item = some node := by
  cases root <;> simp [node?, Option.bind_eq_some_iff]

/-- A path that goes on leads on from the node that its start leads to. -/
theorem node?_append (p q : Path) (root : Json) : node? (p ++ q) root = (node? p root).bind (node? q) := by
  induction p generalizing root with
  | nil => simp
  | cons i p ih =>
    cases root with
    | array items =>
      rw [List.cons_append, node?, node?, Option.bind_assoc]
      exact congrArg _ (funext ih)
    | _ => rfl

@[simp] theorem node?_call (f : Builtin) (args : List Json) (i : Nat) (path : Path) :
    node? ((i + 1) :: path) (.call f args) = args[i]?.bind path.node? := by
  simp [node?]

@[simp] theorem replace_nil (new root : Json) : replace [] new root = new := by
  rw [replace]

@[simp] theorem replace_call (f : Builtin) (args : List Json) (i : Nat) (path : Path) (new : Json) :
    replace ((i + 1) :: path) new (.call f args) = .call f (args.modify i (path.replace new)) := by
  simp [replace]

/-- Nothing changes if the node that is put at a path is there already. -/
theorem replace_of_node? {path : Path} {root node : Json} (h : path.node? root = some node) :
    path.replace node root = root := by
  induction path generalizing root with
  | nil => simpa using h.symm
  | cons i path ih =>
    obtain ⟨items, item, rfl, hi, hn⟩ := node?_cons_eq_some_iff.mp h
    rw [replace]
    congr 1
    refine List.ext_getElem? fun j => ?_
    by_cases hj : i = j
    · subst hj
      rw [List.getElem?_modify_eq, hi, Option.map_eq_map, Option.map_some, ih hn]
    · rw [List.getElem?_modify_ne _ _ hj]

@[simp] theorem isArgument_nil (root : Json) : IsArgument [] root where
  pos := by simp
  exists_node := ⟨root, node?_nil root⟩
  expression q hq hn := absurd (List.prefix_nil.mp hq) hn

/-- A path to an argument leads from a call to one of its arguments, and goes on to an argument from
there. -/
theorem isArgument_cons_iff {i : Nat} {path : Path} {root : Json} :
    IsArgument (i :: path) root ↔ ∃ f args j arg,
      root = .call f args ∧ i = j + 1 ∧ args[j]? = some arg ∧ IsArgument path arg := by
  constructor
  · intro h
    obtain ⟨_, hr, he⟩ := h.expression [] List.nil_prefix (by simp)
    obtain ⟨f, args, rfl⟩ := isExpression_iff.mp he
    cases hr
    obtain ⟨j, rfl⟩ := Nat.exists_eq_add_of_le' (h.pos i (by simp))
    obtain ⟨node, hn⟩ := h.exists_node
    rw [node?_call] at hn
    obtain ⟨arg, hj, hn⟩ := Option.bind_eq_some_iff.mp hn
    refine ⟨f, args, j, arg, rfl, rfl, hj, fun i hi => h.pos i (by simp [hi]), ⟨node, hn⟩, ?_⟩
    intro q hq hne
    obtain ⟨node, hn, he⟩ := h.expression ((j + 1) :: q) (by simpa using hq) (by simpa using hne)
    exact ⟨node, by simpa [hj] using hn, he⟩
  · rintro ⟨f, args, j, arg, rfl, rfl, hj, h⟩
    refine ⟨?_, ?_, fun q hq hne => ?_⟩
    · simpa using h.pos
    · obtain ⟨node, hn⟩ := h.exists_node
      exact ⟨node, by simpa [hj] using hn⟩
    · cases q with
      | nil => exact ⟨.call f args, node?_nil _, isExpression_call f args⟩
      | cons i q =>
        obtain ⟨rfl, hp⟩ := List.cons_prefix_cons.mp hq
        obtain ⟨node, hn, he⟩ := h.expression q hp (by simpa using hne)
        exact ⟨node, by simpa [hj] using hn, he⟩

/-- From a call, a path leads to its arguments. -/
theorem isArgument_call_iff {f : Builtin} {args : List Json} {i : Nat} {path : Path} :
    IsArgument (i :: path) (.call f args) ↔
      ∃ j arg, i = j + 1 ∧ args[j]? = some arg ∧ IsArgument path arg := by
  constructor
  · intro h
    obtain ⟨_, _, j, arg, hc, hi, hj, h⟩ := isArgument_cons_iff.mp h
    obtain ⟨rfl, rfl⟩ := Json.call_inj.mp hc
    exact ⟨j, arg, hi, hj, h⟩
  · rintro ⟨j, arg, hi, hj, h⟩
    exact isArgument_cons_iff.mpr ⟨f, args, j, arg, rfl, hi, hj, h⟩

/-- Nothing else than the literal itself is reached from a literal. -/
theorem IsArgument.eq_nil {path : Path} {root : Json} (h : IsArgument path root)
    (hr : isExpression root = false) : path = [] := by
  cases path with
  | nil => rfl
  | cons i path =>
    obtain ⟨f, args, _, _, rfl, -⟩ := isArgument_cons_iff.mp h
    simp at hr

end FormLang.Path
