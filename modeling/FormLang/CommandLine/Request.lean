import FormLang.CommandLine.Host

/-!
# What a command line asks for

The arguments are read from left to right. A flag is followed by its value, whatever that looks like,
and one other argument is the expression. Of several settings of one thing the last counts.

- `Request.read`: the request of a command line, or why it is refused;
- `Refusal.text`: the text of a refusal.
-/

namespace FormLang.CommandLine

/-- A flag that is followed by a value. -/
inductive Flag where
  | dataFile
  | dataJson
  | returnType
  | default
  | positional
  | intro
deriving DecidableEq

namespace Flag

/-- How a flag is written. -/
def text : Flag → String
  | .dataFile => "--data"
  | .dataJson => "--data-json"
  | .returnType => "--return-type"
  | .default => "--default"
  | .positional => "--positional"
  | .intro => "--intro"

/-- All flags with a value. -/
def all : List Flag := [.dataFile, .dataJson, .returnType, .default, .positional, .intro]

/-- The flag that is written so. -/
def ofText? (text : String) : Option Flag := all.find? (·.text == text)

end Flag

/-- Why a command line is refused. -/
inductive Refusal where
  /-- Help is asked for, or there is no expression. -/
  | usage
  | missingValue (flag : Flag)
  | unexpectedArgument (argument : String)
  | unknownType (name : String)
  | positionalNotArray
  /-- What is given as JSON is no JSON. -/
  | notJson (what reason : String)
  | invalidData (reason : String)
  | invalidDataFile (name reason : String)
  | unreadableFile (name reason : String)
deriving DecidableEq

namespace Refusal

/-- How the program is used. -/
def usageText : String :=
  "Usage: fx 'EXPRESSION_JSON' [options]\n" ++
  "\n" ++
  "Options:\n" ++
  "  --data FILE          Load data sources from a JSON file\n" ++
  "  --data-json JSON     Data sources as an inline JSON string\n" ++
  "  --return-type TYPE   boolean, string, number, date or any (default any)\n" ++
  "  --default JSON       Value returned when the result is null or evaluation fails\n" ++
  "  --positional JSON    JSON array of positional arguments for argv\n" ++
  "  --intro TEXT         Text prepended to recovered error reports\n" ++
  "  --output-json        Output result in JSON format with type and timing\n" ++
  "\n" ++
  "Examples:\n" ++
  "  fx '[\"concat\", \"a\", \"b\"]'\n" ++
  "  fx '[\"equals\", [\"dataModel\", \"age\"], 18]' --data-json '\x7b\"defaultDataType\": \"m\", " ++
    "\"dataModels\": \x7b\"m\": \x7b\"age\": \"18\"\x7d\x7d\x7d'\n" ++
  "  fx '[\"round\", 2.5]' --return-type number --output-json\n" ++
  "\n" ++
  "Set FX_LOG to control diagnostics (e.g. FX_LOG=trace).\n"

/-- What a refusal says before any details. -/
def summary : Refusal → String
  | .usage => usageText
  | .missingValue flag => flag.text ++ " flag requires an argument"
  | .unexpectedArgument argument => "unexpected argument '" ++ argument ++ "'"
  | .unknownType name => ValueType.unknownMessage name
  | .positionalNotArray => "--positional expects a JSON array"
  | .notJson what _ => what ++ " expects JSON"
  | .invalidData _ => "invalid --data-json"
  | .invalidDataFile name _ => "invalid data file " ++ name
  | .unreadableFile name _ => "cannot read " ++ name

/-- The details of a refusal. -/
def details? : Refusal → Option String
  | .notJson _ reason | .invalidData reason | .invalidDataFile _ reason
  | .unreadableFile _ reason => some reason
  | _ => none

/-- The text of a refusal. -/
def text (refusal : Refusal) : String :=
  match refusal with
  | .usage => usageText
  | _ => "Error: " ++ refusal.summary ++ (refusal.details?.elim "" (": " ++ ·)) ++ "\n"

end Refusal

/-- What the flags of a command line set. -/
structure Settings where
  document : Document := {}
  returnType : ValueType := .any
  default : Option Value := none
  positional : Option (List Value) := none
  intro : Option String := none
  asJson : Bool := false

namespace Settings

/-- The value of a text that must be JSON. -/
def json (host : Host) (what text : String) : Except Refusal Json :=
  (host.json text).mapError (.notJson what)

/-- The settings with the value of one flag. -/
def set (host : Host) (s : Settings) (flag : Flag) (value : String) : Except Refusal Settings :=
  match flag with
  | .dataFile =>
    match host.files value with
    | .error reason => .error (.unreadableFile value reason)
    | .ok content =>
      match host.document content with
      | .ok document => .ok { s with document }
      | .error reason => .error (.invalidDataFile value reason)
  | .dataJson =>
    match host.document value with
    | .ok document => .ok { s with document }
    | .error reason => .error (.invalidData reason)
  | .returnType =>
    match ValueType.ofName? value with
    | some returnType => .ok { s with returnType }
    | none => .error (.unknownType value)
  | .default => (json host flag.text value).map fun j => { s with default := some (.ofJson j) }
  | .positional =>
    match json host flag.text value with
    | .error refusal => .error refusal
    | .ok (.array items) => .ok { s with positional := some (Value.ofJsonItems items) }
    | .ok _ => .error .positionalNotArray
  | .intro => .ok { s with intro := some value }

end Settings

/-- An expression with all that its evaluation needs. -/
structure Request where
  settings : Settings
  expression : Json

namespace Request

/-- Reads arguments one after another: the settings and the text of the expression. -/
def readArguments (host : Host) (s : Settings) (expression : Option String) :
    List String → Except Refusal (Settings × Option String)
  | [] => .ok (s, expression)
  | arg :: args =>
    match Flag.ofText? arg with
    | some flag =>
      match args with
      | [] => .error (.missingValue flag)
      | value :: args =>
        match s.set host flag value with
        | .error refusal => .error refusal
        | .ok s => readArguments host s expression args
    | none =>
      if arg = "--output-json" then readArguments host { s with asJson := true } expression args
      else if arg = "-h" ∨ arg = "--help" then .error .usage
      else if expression = none ∧ ¬"--".toList.isPrefixOf arg.toList then
        readArguments host s (some arg) args
      else .error (.unexpectedArgument arg)

/-- The request of a command line. -/
def read (host : Host) (args : List String) : Except Refusal Request := do
  let (settings, expression) ← readArguments host {} none args
  match expression with
  | none => .error .usage
  | some text =>
    let expression ← Settings.json host "expression" text
    .ok { settings, expression }

/-- What the calls of a request can see. -/
def environment (r : Request) : Environment where
  sources := r.settings.document.sources
  positional := r.settings.positional

/-- How the expression of a request is to be evaluated. -/
def options (r : Request) : Options where
  default := r.settings.default
  returnType := r.settings.returnType
  intro := r.settings.intro

/-- The evaluation that a request asks for. -/
def evaluation (r : Request) : Evaluation := evaluate r.environment r.options r.expression

end Request

end FormLang.CommandLine
