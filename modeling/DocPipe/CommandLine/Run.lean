import DocPipe.CommandLine.Arguments
import DocPipe.CommandLine.Outcome

/-!
# Running the program

The document is read first, and an input that cannot be read or understood ends the program.  A
stage that makes no sense does not: it is warned about, once, and the pipeline lets nothing through
there.
-/

namespace DocPipe
namespace CommandLine

/-- The text of the document, or the refusal to read it. -/
def sourceText (env : Environment) (source : Source) : Except String String :=
  match source.file with
  | some path =>
    let failed (e : SystemError) : String := "failed to read " ++ path ++ ": " ++ e.message
    match env.contents path with
    | .error e => .error (failed e)
    | .ok bytes => (Text.decodeUtf8 bytes).mapError fun _ => failed .notText
  | none =>
    (Text.decodeUtf8 env.stdin).mapError fun e => "failed to read stdin: " ++ e.message

/-- Without a file, the text of the document is that of standard input. -/
theorem sourceText_of_stdin {env : Environment} {text : String}
    (h : Text.decodeUtf8 env.stdin = .ok text) : sourceText env {} = .ok text := by
  show (Text.decodeUtf8 env.stdin).mapError _ = _
  rw [h]
  rfl

/-- The document, or the outcome of the program if there is none. -/
def readDocument (env : Environment) (out : Output) (source : Source) : Except Outcome Value :=
  match sourceText env source with
  | .error message => .error (out.refusal .refused message)
  | .ok text =>
    match Input.read source.declared text with
    | .error e => .error (out.refusal .invalid e.message)
    | .ok input => .ok input.value

/-- The outcome for the document, with warnings about the pipeline in front. -/
def withDocument (env : Environment) (out : Output) (pipeline : Pipeline) (source : Source)
    (act : Value → Outcome) : Outcome :=
  match readDocument env out source with
  | .error outcome => outcome
  | .ok document => (act document).after (pipeline.violations.map violationWarning)

/-- A document that can be read and understood is handed on. -/
theorem withDocument_of_read {env : Environment} {source : Source} {text : String} {input : Input}
    (htext : sourceText env source = .ok text) (hread : Input.read source.declared text = .ok input)
    (out : Output) (pipeline : Pipeline) (act : Value → Outcome) :
    withDocument env out pipeline source act =
      (act input.value).after (pipeline.violations.map violationWarning) := by
  rw [withDocument, readDocument, htext]
  simp only [hread]

/-- Prints the items of a pipeline, or its lines if it has a template. -/
def printed (out : Output) (pipeline : Pipeline) (document : Value) : Outcome :=
  { code := .success
    stdout :=
      if pipeline.template.isSome then out.lines (pipeline.render document)
      else out.values (pipeline.items document) }

/-- The variable that holds the log filter. -/
def logVariable : String := "JPIPE_LOG"

/-- The variable that names the shell. -/
def shellVariable : String := "JPIPE_SHELL"

/-- The shell that executes lines: the one asked for, or else the one in the variable.  A blank name
stands for the usual shell. -/
def shellName (env : Environment) (execution : Execution) : String :=
  ((execution.shell <|> env.setting? shellVariable).filter
    fun name => !Text.isBlankText name.toList).getD "sh"

/-- Executes the lines of a pipeline. -/
def executed (env : Environment) (out : Output) (pipeline : Pipeline) (execution : Execution)
    (document : Value) : Outcome :=
  let shell := shellName env execution
  out.executed shell
    (Batch.run (env.execute shell) execution.keepGoing (pipeline.render document))

/-- Does what the program is asked to do. -/
def Invocation.run (env : Environment) (inv : Invocation) : Outcome :=
  match inv.command with
  | .print pipeline source =>
    withDocument env inv.output pipeline source (printed inv.output pipeline)
  | .execute pipeline execution source =>
    withDocument env inv.output pipeline source (executed env inv.output pipeline execution)
  | .check pipeline => inv.output.checked pipeline.violations

/-- The log filter of an invocation. -/
def Invocation.logFilter (env : Environment) (inv : Invocation) : LogFilter :=
  .ofSetting (env.setting? logVariable) inv.verbosity

/-- What a run of the program shows: its exit code and what it writes. -/
structure Shown where
  code : Nat
  stdout : String
  stderr : String
  deriving DecidableEq, Repr

/-- Runs the program with arguments, unless reading these ends it. -/
def run (env : Environment) (args : List String) : Except Stop Shown :=
  (Invocation.ofArguments args).map fun inv =>
    let outcome := inv.run env
    { code := outcome.code.number
      stdout := outcome.stdout
      stderr := outcome.stderr (inv.logFilter env) }

/-- Arguments that can be read end the program as what they ask for does. -/
theorem run_of_arguments {env : Environment} {args : List String} {inv : Invocation}
    {outcome : Outcome} (hargs : Invocation.ofArguments args = .ok inv)
    (houtcome : inv.run env = outcome) :
    run env args =
      .ok
        { code := outcome.code.number
          stdout := outcome.stdout
          stderr := outcome.stderr (inv.logFilter env) } := by
  rw [run, hargs, ← houtcome]
  rfl

end CommandLine
end DocPipe
