import FormLang.CommandLine.Answer

/-!
# The program

Reads the files that the command line names, evaluates the expression, and writes the answer. The
variable `FX_LOG` says which diagnostics are written; their times are left out.
-/

namespace FormLang.CommandLine

/-- The content of a file, or why it cannot be read. -/
def contentOrReason (name : String) : IO (Except String String) := do
  try
    let content ← IO.FS.readFile name
    pure (.ok content)
  catch error => pure (.error (toString error))

/-- A time in nanoseconds as milliseconds with two places. -/
def millisecondsText (nanoseconds : Nat) : String :=
  String.ofList (Binary64.placed 2 ((nanoseconds + 5000) / 10000)) ++ " ms"

/-- Writes an answer and gives its exit code. -/
def Answer.write (answer : Answer) : IO UInt32 := do
  IO.print answer.stdout
  IO.eprint answer.stderr
  pure answer.code.toUInt32

/-- Answers a command line. -/
def execute (args : List String) : IO UInt32 := do
  let contents ← (filesNamed args).mapM fun name => do
    let content ← contentOrReason name
    pure (name, content)
  let filter := (← IO.getEnv "FX_LOG").getD "warn"
  let files name := (contents.lookup name).getD (.error "the file is not known")
  let host := { Host.standard files with log := logText filter "" }
  match Request.read host args with
  | .error refusal => refusal.answer.write
  | .ok request =>
    let start ← IO.monoNanosNow
    let evaluation := request.evaluation
    let isValue := evaluation.outcome.toBool
    let stop ← IO.monoNanosNow
    let elapsed := if isValue then millisecondsText (stop - start) else ""
    (request.answer host elapsed evaluation).write

end FormLang.CommandLine

/-- Runs the program. -/
def main (args : List String) : IO UInt32 := FormLang.CommandLine.execute args
