import DocPipe.CommandLine.Batch
import DocPipe.CommandLine.Invocation

/-!
# What the program leaves behind

An outcome is an exit code, what has been written to standard output, and the messages on standard
error.  Results and errors are written in one of two styles, or not at all.  Warnings are written in
either case, as long as the log filter lets them through.
-/

namespace DocPipe
namespace CommandLine

/-- How the program ends. -/
inductive ExitCode where
  | success
  /-- The document or the texts of the stages are malformed. -/
  | invalid
  /-- An executed line has failed. -/
  | failed
  /-- The system has refused something. -/
  | refused
  deriving DecidableEq, Repr

/-- The number that stands for the end of the program. -/
def ExitCode.number : ExitCode → Nat
  | .success => 0
  | .invalid => 2
  | .failed => 3
  | .refused => 4

/-- What the program leaves behind. -/
structure Outcome where
  code : ExitCode
  stdout : String := ""
  messages : List Message := []
  deriving DecidableEq, Repr

namespace Outcome

/-- What is written to standard error under a log filter. -/
def stderr (outcome : Outcome) (filter : LogFilter) : String :=
  String.join ((outcome.messages.filter (·.isShown filter)).map Message.text)

/-- The outcome with messages in front. -/
def after (outcome : Outcome) (messages : List Message) : Outcome :=
  { outcome with messages := messages ++ outcome.messages }

end Outcome

/-! ## Writing -/

/-- Texts as lines. -/
def unlines (lines : List String) : String := String.join (lines.map (· ++ "\n"))

namespace Output

/-- What is written, unless nothing is to be. -/
def written (out : Output) (text : String) : String := if out.quiet then "" else text

/-- A list of values: one line for each, or one list. -/
def values (out : Output) (items : List Value) : String :=
  out.written <| match out.style with
    | .text => unlines (items.map Value.text)
    | .json => (Value.array items).toJson ++ "\n"

/-- A list of lines: as they are, or one list. -/
def lines (out : Output) (items : List String) : String :=
  out.written <| match out.style with
    | .text => unlines items
    | .json => (Value.array (items.map Value.string)).toJson ++ "\n"

/-- An error message. -/
def errorLine (out : Output) (message : String) : List Message :=
  if out.quiet then []
  else match out.style with
    | .text => [.line ("error: " ++ message)]
    | .json => [.line (Value.object [("error", .string message)]).toJson]

/-- The outcome when something has been refused. -/
def refusal (out : Output) (code : ExitCode) (message : String) : Outcome :=
  { code, messages := out.errorLine message }

end Output

/-! ## Checks -/

/-- The name under which warnings about stages can be filtered. -/
def stageSource : String := "jpipe::utils"

/-- The warning about a stage. -/
def violationWarning (v : Violation) : Message :=
  .warning stageSource v.message [("stage", v.stage.name)]

/-- The report of a stage in a list of errors. -/
def violationValue (v : Violation) : Value :=
  .object [("stage", .string v.stage.name), ("message", .string v.message)]

/-- The result of a check. -/
def checkValue (violations : List Violation) : Value :=
  if violations.isEmpty then .object [("valid", .bool true)]
  else .object
    [("valid", .bool false), ("errors", .array (violations.map violationValue))]

/-- The report of a check as lines of text. -/
def checkMessages (violations : List Violation) : List Message :=
  .line "error: check failed" ::
    violations.map fun v => .line ("- " ++ v.stage.name ++ ": " ++ v.message)

/-- The outcome of a check. -/
def Output.checked (out : Output) (violations : List Violation) : Outcome :=
  let code : ExitCode := if violations.isEmpty then .success else .invalid
  if out.quiet then { code }
  else match out.style with
    | .json => { code, stdout := (checkValue violations).toJson ++ "\n" }
    | .text =>
      if violations.isEmpty then { code, stdout := "ok\n" }
      else { code, messages := checkMessages violations }

/-! ## Batches -/

/-- An exit code in an error message. -/
def exitText : Option Nat → String
  | some code => toString code
  | none => "signal"

/-- The error about a line that has failed. -/
def failureLine (f : Failure) : Message :=
  .line ("error: command " ++ toString f.index ++ " exited with " ++ exitText f.exitCode ++ ": "
    ++ f.command)

/-- An object in compact form, from the texts of its fields. -/
def objectText (fields : List (String × String)) : String :=
  "\x7b" ++ ",".intercalate (fields.map fun p => (Value.string p.1).toJson ++ ":" ++ p.2) ++ "\x7d"

/-- A line that has failed in the result of a batch.  Without an exit code, none is given. -/
def failureText (f : Failure) : String :=
  objectText ([("index", toString f.index), ("command", (Value.string f.command).toJson)]
    ++ (f.exitCode.map fun code => ("exit_code", toString code)).toList)

/-- The result of a batch.  Without failures, none are given. -/
def batchText (batch : Batch) : String :=
  objectText ([("executed", toString batch.executed), ("succeeded", toString batch.succeeded)]
    ++ if batch.failed.isEmpty then []
      else [("failed", "[" ++ ",".intercalate (batch.failed.map failureText) ++ "]")])

/-- The outcome of a batch that a shell has executed. -/
def Output.executed (out : Output) (shell : String) (batch : Batch) : Outcome :=
  match batch.refusal with
  | some refusal =>
    { code := .refused, stdout := batch.stdout
      messages := batch.messages ++
        out.errorLine ("failed to spawn " ++ shell ++ ": " ++ refusal.message) }
  | none =>
    let code : ExitCode := if batch.failed.isEmpty then .success else .failed
    match out.style with
    | .json =>
      { code, messages := batch.messages
        stdout := batch.stdout ++ out.written (batchText batch ++ "\n") }
    | .text =>
      { code, stdout := batch.stdout
        messages := batch.messages ++ if out.quiet then [] else batch.failed.map failureLine }

end CommandLine
end DocPipe
