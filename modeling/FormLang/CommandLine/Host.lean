import FormLang.Expr.Diagnostic
import FormLang.Json.Tree
import FormLang.Sources.Reader

/-!
# The host of the program

The program reads no file itself, and it leaves to libraries how JSON and documents of data sources
are read and how diagnostics are written. Of these it is assumed only that they are functions. So a
text is JSON if `Host.json` gives its value, and what is proved of the program holds for every host.

- `Host`: what the program takes from outside;
- `Host.standard`: the host with the readers of this library, which writes no diagnostics;
- `logText`: a log of diagnostics with one line for each.
-/

namespace FormLang.CommandLine

/-- What the program takes from outside. -/
structure Host where
  /-- The content of a file, or why it cannot be read. -/
  files : String → Except String String
  /-- The value of a JSON text, or why a text is none. -/
  json : String → Except String Json
  /-- The data sources that a text describes, or why it describes none. -/
  document : String → Except String Document
  /-- What is written about diagnostics. It may hold the times at which they arise. -/
  log : List Diagnostic → String

/-- The host with the readers of this library, which writes no diagnostics. -/
def Host.standard (files : String → Except String String) : Host where
  files := files
  json text := (Json.ofText? text).elim (.error "the text is not one JSON value") .ok
  document text := (Document.ofText? text).elim (.error "the text is not a document of data sources") .ok
  log _ := ""

instance : Coe (String → Except String String) Host := ⟨Host.standard⟩

/-! ## Logs -/

/-- The label of a level. -/
def levelLabel : Diagnostic.Level → String
  | .trace => "TRACE"
  | .warning => " WARN"

/-- A diagnostic as it stands in a log: the time, the level, the message and the details. -/
def logLine (time : String) (d : Diagnostic) : String :=
  time ++ " " ++ levelLabel d.level ++ " " ++ d.message ++
    String.join (d.details.map fun (name, text) => " " ++ name ++ "=" ++ text) ++ "\n"

/-- The log of diagnostics that arise at one time. It is empty with the filter `off` or `error`, and only
with the filter `trace` it tells of all calls. -/
def logText (filter time : String) (diagnostics : List Diagnostic) : String :=
  let isKept (d : Diagnostic) : Bool :=
    if filter = "off" ∨ filter = "error" then false else d.level == .warning || filter == "trace"
  String.join ((diagnostics.filter isKept).map (logLine time))

end FormLang.CommandLine
