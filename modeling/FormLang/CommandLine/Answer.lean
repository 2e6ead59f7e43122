import FormLang.CommandLine.Request

/-!
# What the program answers

- `Answer`: the exit code and the two outputs;
- `Request.answer`: the answer to a request, once its evaluation has ended;
- `run`: the answer to a command line.
-/

namespace FormLang.CommandLine

/-- The exit code and the texts on the two outputs. -/
structure Answer where
  code : Nat
  stdout : String
  stderr : String
deriving DecidableEq

/-- The name of a value's kind in the program's output. -/
def kindLabel : Value → String
  | .null => "null"
  | .boolean _ => "boolean"
  | .number _ => "number"
  | .string _ => "string"
  | .date _ => "date"
  | .array _ => "array"
  | .object _ => "object"

/-- A value with its kind and the time that it took, as JSON over several lines. -/
def valueAsJson (elapsed : String) (v : Value) : String :=
  (Json.object [("execution_time", .string elapsed), ("result", v.toJson),
    ("type", .string (kindLabel v))]).pretty

/-- A value as the settings want it to be written. -/
def Settings.valueText (s : Settings) (elapsed : String) (v : Value) : String :=
  if s.asJson then valueAsJson elapsed v else v.text

/-- The answer to a refused command line. -/
def Refusal.answer (refusal : Refusal) : Answer := ⟨1, "", refusal.text⟩

/-- The answer to a request whose evaluation has ended in some time. The diagnostics come before the
report of an error. -/
def Request.answer (r : Request) (host : Host) (elapsed : String) (evaluation : Evaluation) : Answer :=
  let logged := host.log evaluation.diagnostics
  match evaluation.outcome with
  | .ok v => ⟨0, r.settings.valueText elapsed v ++ "\n", logged⟩
  | .error e => ⟨2, "", logged ++ e.report none ++ "\n"⟩

/-- The answer to a command line, where `elapsed` is the time that the evaluation takes. -/
def run (host : Host) (elapsed : String) (args : List String) : Answer :=
  match Request.read host args with
  | .error refusal => refusal.answer
  | .ok request => request.answer host elapsed request.evaluation

/-- The names of the files that a command line may read. -/
def filesNamed : List String → List String
  | flag :: name :: args =>
    if flag = Flag.dataFile.text then name :: filesNamed (name :: args)
    else filesNamed (name :: args)
  | _ => []

end FormLang.CommandLine
