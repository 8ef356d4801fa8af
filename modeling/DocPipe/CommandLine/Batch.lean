import DocPipe.CommandLine.Environment
import DocPipe.CommandLine.Message
import DocPipe.Text.Blank

/-!
# Executing lines

Lines are executed in order, and blank ones are passed over.  A line that fails is warned about and
ends the batch, unless it is to keep going; a shell that cannot be started ends it in any case.

While this happens, a batch is accounted for: how many lines have been executed, how many of them
have succeeded, and which have failed.  The counts and the record of failures are kept side by side
with what is done, and none of them is computed from another.
-/

namespace DocPipe
namespace CommandLine

/-- A line that has been executed. -/
structure Step where
  /-- Its place among all lines, blank ones included. -/
  index : Nat
  command : String
  result : LineResult
  deriving DecidableEq, Repr

/-- A line that has failed, as it is recorded. -/
structure Failure where
  /-- Its place among all lines, blank ones included. -/
  index : Nat
  command : String
  /-- There is none if a signal has ended the line. -/
  exitCode : Option Nat
  deriving DecidableEq, Repr

/-- The exit code of a line, if it has come to one. -/
def Ending.exitCode? : Ending → Option Nat
  | .exited code => some code
  | .signaled => none

namespace Step

/-- Whether the line has done what it should. -/
def succeeded (step : Step) : Bool := step.result.ending.isSuccess

/-- The record of a line that has failed. -/
def failure (step : Step) : Failure := ⟨step.index, step.command, step.result.ending.exitCode?⟩

end Step

/-- The name under which warnings about executed lines can be filtered. -/
def executionSource : String := "jpipe::cmd::run"

/-- An exit code in a warning. -/
def codeText : Option Nat → String
  | some code => "Some(" ++ toString code ++ ")"
  | none => "None"

/-- The warning about a line that has failed. -/
def failureWarning (f : Failure) : Message :=
  .warning executionSource "command failed"
    [("index", toString f.index), ("command", f.command), ("code", codeText f.exitCode)]

/-- What has been done with lines, and the account of it. -/
structure Batch where
  /-- The lines that the shell has executed, in order. -/
  steps : List Step := []
  /-- What has been written to standard error meanwhile. -/
  messages : List Message := []
  executed : Nat := 0
  succeeded : Nat := 0
  failed : List Failure := []
  /-- Why the shell could not be started, if it could not. -/
  refusal : Option SystemError := none
  deriving DecidableEq, Repr

namespace Batch

/-- What the lines have written to standard output. -/
def stdout (batch : Batch) : String := String.join (batch.steps.map (·.result.stdout))

/-- The batch after a line that the shell has executed. -/
def record (batch : Batch) (step : Step) : Batch :=
  let batch : Batch := { batch with
    steps := batch.steps ++ [step]
    messages := batch.messages ++ [.output step.result.stderr]
    executed := batch.executed + 1 }
  if step.succeeded then { batch with succeeded := batch.succeeded + 1 }
  else { batch with
    messages := batch.messages ++ [failureWarning step.failure]
    failed := batch.failed ++ [step.failure] }

/-- The batch after a line for which the shell could not be started. -/
def refuse (batch : Batch) (refusal : SystemError) : Batch :=
  { batch with executed := batch.executed + 1, refusal := some refusal }

theorem record_of_succeeded (batch : Batch) {step : Step} (h : step.succeeded = true) :
    batch.record step =
      { batch with
        steps := batch.steps ++ [step]
        messages := batch.messages ++ [.output step.result.stderr]
        executed := batch.executed + 1
        succeeded := batch.succeeded + 1 } := by
  rw [record, if_pos h]

theorem record_of_failed (batch : Batch) {step : Step} (h : step.succeeded = false) :
    batch.record step =
      { batch with
        steps := batch.steps ++ [step]
        messages := batch.messages ++ [.output step.result.stderr, failureWarning step.failure]
        executed := batch.executed + 1
        failed := batch.failed ++ [step.failure] } := by
  rw [record, if_neg (by simp [h])]
  simp only [List.append_assoc, List.singleton_append]

@[simp] theorem steps_record (batch : Batch) (step : Step) :
    (batch.record step).steps = batch.steps ++ [step] := by
  cases h : step.succeeded with
  | true => rw [record_of_succeeded batch h]
  | false => rw [record_of_failed batch h]

@[simp] theorem refusal_record (batch : Batch) (step : Step) :
    (batch.record step).refusal = batch.refusal := by
  cases h : step.succeeded with
  | true => rw [record_of_succeeded batch h]
  | false => rw [record_of_failed batch h]

section Run

variable (execute : Nat → String → Except SystemError LineResult) (keepGoing : Bool)

/-- Goes on with the line at a place: the batch behind it, and whether this is its end. -/
def round (batch : Batch) (index : Nat) (line : String) : ForInStep Batch :=
  if Text.isBlankText line.toList then .yield batch
  else match execute index line with
    | .error refusal => .done (batch.refuse refusal)
    | .ok result =>
      let step : Step := ⟨index, line, result⟩
      if step.succeeded || keepGoing then .yield (batch.record step)
      else .done (batch.record step)

/-- Goes on with lines, of which the first stands at place `index`. -/
def runFrom (batch : Batch) (index : Nat) : List String → Batch
  | [] => batch
  | line :: lines =>
    match round execute keepGoing batch index line with
    | .done batch => batch
    | .yield batch => runFrom batch (index + 1) lines

/-- Executes lines. -/
def run (lines : List String) : Batch := runFrom execute keepGoing {} 0 lines

variable {execute keepGoing}

/-- A blank line changes nothing. -/
theorem round_of_blank {line : String} (h : Text.isBlankText line.toList = true) (batch : Batch)
    (index : Nat) : round execute keepGoing batch index line = .yield batch := by
  rw [round, if_pos h]

theorem round_of_refused {line : String} (h : Text.isBlankText line.toList = false) {index : Nat}
    {refusal : SystemError} (hexecute : execute index line = .error refusal) (batch : Batch) :
    round execute keepGoing batch index line = .done (batch.refuse refusal) := by
  rw [round, if_neg (by simp [h]), hexecute]

/-- A line that has been executed is recorded, and a failure may be the end. -/
theorem round_of_executed {line : String} (h : Text.isBlankText line.toList = false) {index : Nat}
    {result : LineResult} (hexecute : execute index line = .ok result) (batch : Batch) :
    round execute keepGoing batch index line =
      if Step.succeeded ⟨index, line, result⟩ || keepGoing then
        .yield (batch.record ⟨index, line, result⟩)
      else .done (batch.record ⟨index, line, result⟩) := by
  rw [round, if_neg (by simp [h]), hexecute]

/-- A batch that goes on goes on with the next line. -/
theorem runFrom_cons_of_yield {batch after : Batch} {index : Nat} {line : String}
    (h : round execute keepGoing batch index line = .yield after) (lines : List String) :
    runFrom execute keepGoing batch index (line :: lines) =
      runFrom execute keepGoing after (index + 1) lines := by
  rw [runFrom, h]

theorem runFrom_cons_of_done {batch after : Batch} {index : Nat} {line : String}
    (h : round execute keepGoing batch index line = .done after) (lines : List String) :
    runFrom execute keepGoing batch index (line :: lines) = after := by
  rw [runFrom, h]

end Run
end Batch
end CommandLine
end DocPipe
