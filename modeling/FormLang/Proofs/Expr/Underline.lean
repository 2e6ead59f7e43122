import FormLang.Expr.Error
import FormLang.Proofs.Expr.Argument
import FormLang.Proofs.Json.Compact
import FormLang.Proofs.Json.OneLine

/-!
# Where reports put their carets

The node at a path is one part of the compact text of the whole expression: `Path.before` is the text
to its left and `Path.after` the text to its right (`Path.chars_eq`), and both stay if the node is
replaced (`Path.chars_replace`). Writing the expression marks exactly that part
(`Marked.writeNode_of_node?`), since the items of an array are written as they are up to the one that the
path goes through (`Marked.writeItems_marked`) and after it (`Marked.writeItems_outside`). So a report
ends with the expression on a line of its own and carets below the node (`report_underlines`). It ends
with the expression alone if the path leads to no node; `report_carets` says both.
-/

namespace FormLang

open Json (comma charsFrom charsFrom_nil chars_array charsFrom_modify charsFrom_of_getElem?)
open Text (bytes takeBytes dropBytes)

/-! ## The text around a node -/

namespace Path

/-- The compact text of an expression to the left of the node at a path. -/
def before : Path → Json → List Char
  | i :: path, .array items =>
    '[' :: charsFrom 0 (items.take i) ++ comma i ++ items[i]?.elim [] (before path)
  | _, _ => []

/-- The compact text of an expression to the right of the node at a path. -/
def after : Path → Json → List Char
  | i :: path, .array items =>
    items[i]?.elim [] (after path) ++ charsFrom (i + 1) (items.drop (i + 1)) ++ [']']
  | _, _ => []

variable {i : Nat} {path : Path} {items : List Json} {item root node : Json}

theorem before_array (h : items[i]? = some item) :
    before (i :: path) (.array items) =
      '[' :: charsFrom 0 (items.take i) ++ comma i ++ path.before item := by
  rw [before, h, Option.elim_some]

theorem after_array (h : items[i]? = some item) :
    after (i :: path) (.array items) =
      path.after item ++ charsFrom (i + 1) (items.drop (i + 1)) ++ [']'] := by
  rw [after, h, Option.elim_some]

/-- What stands around a node in the text of an expression stays if the node is replaced. -/
theorem chars_replace (h : path.node? root = some node) (new : Json) :
    (path.replace new root).chars = path.before root ++ new.chars ++ path.after root := by
  induction path generalizing root with
  | nil => simp [before, after]
  | cons i path ih =>
    obtain ⟨items, item, rfl, hi, hn⟩ := node?_cons_eq_some_iff.mp h
    rw [replace, chars_array, charsFrom_modify hi, ih hn, before_array hi, after_array hi]
    simp only [List.append_assoc, List.cons_append]

/-- The text of an expression is made up of the text of a node and what stands around it. -/
theorem chars_eq (h : path.node? root = some node) :
    root.chars = path.before root ++ node.chars ++ path.after root := by
  rw [← chars_replace h, replace_of_node? h]

end Path

/-! ## Marking a node -/

namespace Marked

variable {m : Marked} {i index : Nat} {path : Path} {items : List Json} {item root node : Json}

@[simp] theorem write_nil (m : Marked) : m.write [] = m := by
  simp [write]

@[simp] theorem write_write (m : Marked) (cs ds : List Char) :
    (m.write cs).write ds = m.write (cs ++ ds) := by
  simp [write]

theorem writeNode_none (m : Marked) (node : Json) : writeNode m none node = m.write node.chars := by
  simp [writeNode]

/-- How one item is written. -/
theorem writeItems_cons : writeItems m i path index (item :: items) =
    writeItems (writeNode (m.write (comma index)) (if index = i then some path else none) item)
      i path (index + 1) items := by
  rw [writeItems]
  by_cases h : 0 < index <;> simp [h, comma]

/-- If the item that the path goes through is not among them, items are written as they are. -/
theorem writeItems_outside (h : i < index ∨ index + items.length ≤ i) :
    writeItems m i path index items = m.write (charsFrom index items) := by
  induction items generalizing m index with
  | nil => simp [writeItems]
  | cons item items ih =>
    rw [List.length_cons] at h
    rw [writeItems_cons, if_neg (by omega), writeNode_none, ih (by omega), write_write, write_write,
      charsFrom, List.append_assoc]

/-- Up to the item that the path goes through, and behind it, items are written as they are. -/
theorem writeItems_marked {j : Nat} (h : items[j]? = some item) (hi : i = index + j) :
    writeItems m i path index items =
      (writeNode (m.write (charsFrom index (items.take j) ++ comma i)) (some path) item).write
        (charsFrom (i + 1) (items.drop (j + 1))) := by
  induction items generalizing m index j with
  | nil => simp at h
  | cons first items ih =>
    rw [writeItems_cons]
    cases j with
    | zero =>
      cases h
      simp [hi, writeItems_outside]
    | succ j =>
      rw [if_neg (by omega), writeNode_none, ih (by simpa using h) (by omega)]
      simp [charsFrom]

/-- Writing an expression marks the node that the path leads to. -/
theorem writeNode_of_node? (h : path.node? root = some node) :
    writeNode m (some path) root =
      ⟨m.text ++ root.chars, some (bytes (m.text ++ path.before root),
        bytes (m.text ++ path.before root ++ node.chars))⟩ := by
  induction path generalizing m root with
  | nil =>
    cases h
    simp [writeNode, writeMarked, Path.before]
  | cons i path ih =>
    obtain ⟨items, item, rfl, hi, hn⟩ := Path.node?_cons_eq_some_iff.mp h
    rw [writeNode, writeItems_marked hi (Nat.zero_add i).symm, ih hn, Path.before_array hi,
      chars_array, charsFrom_of_getElem? hi]
    simp [write]

theorem ofPath_of_node? (h : path.node? root = some node) :
    ofPath path root =
      ⟨root.chars, some (bytes (path.before root), bytes (path.before root ++ node.chars))⟩ := by
  simp [ofPath, writeNode_of_node? h]

/-- Writing an expression marks nothing if the path leads to no node. -/
theorem writeNode_of_node?_eq_none (h : path.node? root = none) :
    writeNode m (some path) root = m.write root.chars := by
  induction path generalizing m root with
  | nil => simp at h
  | cons i path ih =>
    cases root with
    | array items =>
      rcases hi : items[i]? with _ | item
      · have hlen : 0 + items.length ≤ i := by simpa using hi
        simp [writeNode, writeItems_outside (.inr hlen), chars_array]
      · rw [Path.node?, hi, Option.bind_some] at h
        rw [writeNode, writeItems_marked hi (Nat.zero_add i).symm, ih h, chars_array, charsFrom_of_getElem? hi]
        simp [write]
    | _ => rfl

theorem ofPath_of_node?_eq_none (h : path.node? root = none) : ofPath path root = ⟨root.chars, none⟩ := by
  simp [ofPath, writeNode_of_node?_eq_none h, write]

/-- The expression is written as it is, whatever is marked. -/
theorem text_ofPath (path : Path) (root : Json) : (ofPath path root).text = root.chars := by
  rcases h : path.node? root with _ | node
  · rw [ofPath_of_node?_eq_none h]
  · rw [ofPath_of_node? h]

/-- Without a node there are no carets. -/
theorem caretLine_ofPath_eq_nil (h : path.node? root = none) : (ofPath path root).caretLine = [] := by
  rw [ofPath_of_node?_eq_none h, caretLine]

/-- The carets stand below the marked node. -/
theorem caretLine_ofPath (h : path.node? root = some node) :
    (ofPath path root).caretLine =
      List.replicate (2 + (path.before root).length) ' ' ++
        List.replicate node.chars.length '^' ++ ['\n'] := by
  have hs : bytes (path.before root ++ node.chars) - bytes (path.before root) =
      bytes node.chars := by
    rw [Text.bytes_append, Nat.add_sub_cancel_left]
  have hw : max 1 node.chars.length = node.chars.length :=
    Nat.max_eq_right (List.length_pos_iff.mpr node.chars_ne_nil)
  rw [ofPath_of_node? h, Path.chars_eq h, List.append_assoc]
  simp only [caretLine, hs, Text.takeBytes_bytes_append, Text.dropBytes_bytes_append, hw]

end Marked

/-! ## Reports -/

/-- What a report says before it shows the expression. -/
def reportHeading (intro : Option String) (path : Path) (message : String) : List Char :=
  (intro.elim "" (· ++ "\n") ++ "Expression failed to evaluate: " ++ message ++ "\n" ++
    "  at " ++ path.text ++ "\n").toList

/-- A report shows the expression on a line of its own, and below it the carets. -/
theorem toList_report (intro : Option String) (root : Json) (path : Path) (message : String) :
    (report intro root path message).toList =
      reportHeading intro path message ++ '\n' :: ' ' :: ' ' :: root.chars ++
        '\n' :: (Marked.ofPath path root).caretLine := by
  simp [report, reportHeading, Marked.text_ofPath]

/-- A text that ends with an expression on a line of its own and with carets on the next line, below
exactly the text of the node at a path. -/
structure Underlines (text : String) (root : Json) (path : Path) (node : Json) : Prop where
  /-- The text of the node is one part of the text of the expression. -/
  chars_eq : root.chars = path.before root ++ node.chars ++ path.after root
  /-- The text of the node is not empty, so there are carets. -/
  chars_ne_nil : node.chars ≠ []
  /-- The text of the expression is one line. -/
  oneLine : '\n' ∉ root.chars
  /-- Both lines are indented by two blanks. -/
  ends : ∃ lines, text.toList = lines ++ '\n' :: ' ' :: ' ' :: root.chars ++
    '\n' :: List.replicate (2 + (path.before root).length) ' ' ++
    List.replicate node.chars.length '^' ++ ['\n']

/-- A report on a path that leads to a node underlines this node. -/
theorem report_underlines {path : Path} {root node : Json} (h : path.node? root = some node)
    (intro : Option String) (message : String) :
    Underlines (report intro root path message) root path node where
  chars_eq := Path.chars_eq h
  chars_ne_nil := node.chars_ne_nil
  oneLine := root.newline_not_mem_chars
  ends := ⟨reportHeading intro path message, by simp [toList_report, Marked.caretLine_ofPath h]⟩

example : report none (.array [.string "not", .string "ä", .null]) [1] "Why" =
    "Expression failed to evaluate: Why\n  at [1]\n\n  [\"not\",\"ä\",null]\n         ^^^\n" := by
  decide

/-- Whatever the path, a report shows the expression on one line. There is a line below it if and only if the path
leads to a node. It holds one caret for each character of the node's text, below this very occurrence of that text: if
the node is replaced, what stands before and after the carets stays. -/
theorem report_carets (intro : Option String) (root : Json) (path : Path) (message : String) :
    ∃ below : List Char,
      (report intro root path message).toList =
        reportHeading intro path message ++ '\n' :: ' ' :: ' ' :: root.chars ++ '\n' :: below ∧
      '\n' ∉ root.chars ∧
      (below ≠ [] ↔ ∃ node, path.node? root = some node) ∧
      ∀ node, path.node? root = some node →
        below = List.replicate (2 + (path.before root).length) ' ' ++
          List.replicate node.chars.length '^' ++ ['\n'] ∧
        node.chars ≠ [] ∧
        ∀ new, (path.replace new root).chars = path.before root ++ new.chars ++ path.after root := by
  refine ⟨_, toList_report intro root path message, root.newline_not_mem_chars, ?_, fun node h => ?_⟩
  · rcases h : path.node? root with _ | node
    · simp [Marked.caretLine_ofPath_eq_nil h]
    · simp [Marked.caretLine_ofPath h]
  · exact ⟨Marked.caretLine_ofPath h, node.chars_ne_nil, Path.chars_replace h⟩

end FormLang
