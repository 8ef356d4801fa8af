import DocPipe.Proofs.CommandLine.Accounts
import DocPipe.Proofs.CommandLine.Handover

/-!
# Executing the lines of a pipeline

What a batch accounts for is kept in counts and records, and here it is followed to where it can be
seen: in the warnings, in the exit code, and in what is written at the end.  All of these are given
as texts (`Failure.warningLine`, `Failure.errorLine`, `Batch.json`), and `Reports` says which of them
there are.

The lines are those of a pipeline, so the place of a line is the number of an item.  That blank lines
are passed over changes nothing about it, since they are counted (`run_execute_accounts`).
-/

namespace DocPipe
namespace CommandLine

variable {results : Nat → LineResult}

/-! ## Reports -/

/-- Whether a message is a warning from a source. -/
def Message.warnsFrom (source : String) : Message → Bool
  | .warning s _ _ => s == source
  | _ => false

/-- Whether a message is a line of text. -/
def Message.isLine : Message → Bool
  | .line _ => true
  | _ => false

namespace Failure

/-- The line of a warning about a failure. -/
def warningLine (f : Failure) : String :=
  "WARN command failed index=" ++ toString f.index ++ " command=" ++ f.command ++
    " code=" ++ f.exitCode.elim "None" (fun code => "Some(" ++ toString code ++ ")") ++ "\n"

/-- The line of an error about a failure. -/
def errorLine (f : Failure) : String :=
  "error: command " ++ toString f.index ++
    " exited with " ++ f.exitCode.elim "signal" toString ++ ": " ++ f.command ++ "\n"

/-- A failure in JSON. -/
def json (f : Failure) : String :=
  "\x7b\"index\":" ++ toString f.index ++ ",\"command\":" ++ (Value.string f.command).toJson ++
    f.exitCode.elim "" (fun code => ",\"exit_code\":" ++ toString code) ++ "\x7d"

end Failure

/-- The result of a batch in JSON. -/
def Batch.json (batch : Batch) : String :=
  "\x7b\"executed\":" ++ toString batch.executed ++ ",\"succeeded\":" ++ toString batch.succeeded ++
    (if batch.failed = [] then ""
      else ",\"failed\":[" ++ ",".intercalate (batch.failed.map Failure.json) ++ "]") ++ "\x7d"

/-- What the program says about a batch: in a warning about each failure, in its exit code, and then
in a result or in errors, unless nothing is to be written. -/
structure Reports (out : Output) (batch : Batch) (outcome : Outcome) : Prop where
  warnings : (outcome.messages.filter (·.warnsFrom "jpipe::cmd::run")).map Message.text =
    batch.failed.map Failure.warningLine
  fails_iff : outcome.code.number = 3 ↔ ∃ step ∈ batch.steps, step.result.ending ≠ .exited 0
  succeeds_iff : outcome.code.number = 0 ↔ ∀ step ∈ batch.steps, step.result.ending = .exited 0
  /-- In JSON, the result stands behind what the lines have written. -/
  result : outcome.stdout = String.join (batch.steps.map (·.result.stdout)) ++
    if out.style = .json ∧ out.quiet = false then batch.json ++ "\n" else ""
  /-- In text, there is an error for each failure. -/
  errors : (outcome.messages.filter Message.isLine).map Message.text =
    if out.style = .text ∧ out.quiet = false then batch.failed.map Failure.errorLine else []

/-- The warning about a failure is a line. -/
theorem text_failureWarning (f : Failure) : (failureWarning f).text = f.warningLine := by
  have hwords : warningText "command failed" = "command failed" := by decide
  have hcode : codeText f.exitCode =
      f.exitCode.elim "None" fun code => "Some(" ++ toString code ++ ")" := by
    cases f.exitCode <;> rfl
  -- The two sides are cut into literals at different places, so they are compared character by
  -- character.
  refine String.toList_inj.mp ?_
  unfold Failure.warningLine
  simp [failureWarning, Message.text, detailText, hwords, hcode]

/-- The error about a failure is a line. -/
theorem text_failureLine (f : Failure) : (failureLine f).text = f.errorLine := by
  have hexit : exitText f.exitCode = f.exitCode.elim "signal" toString := by
    cases f.exitCode <;> rfl
  rw [failureLine, Message.text, hexit]
  rfl

theorem failureText_eq (f : Failure) : failureText f = f.json := by
  have hindex : (Value.string "index").toJson = "\"index\"" := by decide
  have hcommand : (Value.string "command").toJson = "\"command\"" := by decide
  have hcode : (Value.string "exit_code").toJson = "\"exit_code\"" := by decide
  refine String.toList_inj.mp ?_
  unfold failureText objectText Failure.json
  cases f.exitCode with
  | none => simp [hindex, hcommand]
  | some code => simp [hindex, hcommand, hcode]

/-- What is written about a batch is its result. -/
theorem batchText_eq (batch : Batch) : batchText batch = batch.json := by
  have hexecuted : (Value.string "executed").toJson = "\"executed\"" := by decide
  have hsucceeded : (Value.string "succeeded").toJson = "\"succeeded\"" := by decide
  have hfailed : (Value.string "failed").toJson = "\"failed\"" := by decide
  have hfailures : failureText = Failure.json := funext failureText_eq
  refine String.toList_inj.mp ?_
  unfold batchText objectText Batch.json
  cases batch.failed with
  | nil => simp [hexecuted, hsucceeded]
  | cons f fs => simp [hexecuted, hsucceeded, hfailed, hfailures]

/-- A step is warned about exactly if it has failed. -/
theorem filter_warnsFrom_stepMessages (steps : List Step) :
    (steps.flatMap stepMessages).filter (·.warnsFrom "jpipe::cmd::run") =
      ((steps.filter (!·.succeeded)).map Step.failure).map failureWarning := by
  induction steps with
  | nil => rfl
  | cons step steps ih =>
    rw [List.flatMap_cons, List.filter_append, ih]
    cases hstep : step.succeeded with
    | true => simp [stepMessages, hstep, Message.warnsFrom]
    | false => simp [stepMessages, hstep, Message.warnsFrom, failureWarning, executionSource]

/-- No line of text accompanies a step. -/
theorem filter_isLine_stepMessages (steps : List Step) :
    (steps.flatMap stepMessages).filter Message.isLine = [] := by
  rw [List.filter_eq_nil_iff]
  intro m hm
  obtain ⟨step, -, hm⟩ := List.mem_flatMap.mp hm
  rcases List.mem_cons.mp hm with rfl | hm
  · simp [Message.isLine]
  · cases hstep : step.succeeded with
    | true => simp [hstep] at hm
    | false =>
      rw [hstep, if_neg (by simp), List.mem_singleton] at hm
      simp [hm, failureWarning, Message.isLine]

/-- Error messages are no warnings. -/
theorem filter_warnsFrom_failureLine (failed : List Failure) (source : String) :
    (failed.map failureLine).filter (·.warnsFrom source) = [] := by
  simp [List.filter_eq_nil_iff, failureLine, Message.warnsFrom]

/-- Error messages are lines of text. -/
theorem filter_isLine_failureLine (failed : List Failure) :
    (failed.map failureLine).filter Message.isLine = failed.map failureLine := by
  simp [List.filter_eq_self, failureLine, Message.isLine]

/-- Warnings about stages come from elsewhere, and are no lines of text. -/
theorem filter_warnsFrom_violationWarning (violations : List Violation) :
    (violations.map violationWarning).filter (·.warnsFrom "jpipe::cmd::run") = [] := by
  simp [List.filter_eq_nil_iff, violationWarning, Message.warnsFrom, stageSource]

theorem filter_isLine_violationWarning (violations : List Violation) :
    (violations.map violationWarning).filter Message.isLine = [] := by
  simp [List.filter_eq_nil_iff, violationWarning, Message.isLine]

section Executed

variable (out : Output) (shell : String) {batch : Batch}

/-- The exit code of a batch that no shell has refused. -/
theorem code_executed (h : batch.refusal = none) :
    (out.executed shell batch).code = if batch.failed.isEmpty then .success else .failed := by
  rw [Output.executed, h]
  cases out.style <;> rfl

/-- The errors stand behind all other messages. -/
theorem messages_executed (h : batch.refusal = none) :
    (out.executed shell batch).messages =
      batch.messages ++
        if out.style = .text ∧ out.quiet = false then batch.failed.map failureLine else [] := by
  obtain ⟨style, quiet⟩ := out
  rw [Output.executed, h]
  cases style with
  | text => cases quiet <;> rfl
  | json => exact (List.append_nil _).symm

/-- The result stands behind what the lines have written. -/
theorem stdout_executed (h : batch.refusal = none) :
    (out.executed shell batch).stdout =
      batch.stdout ++
        if out.style = .json ∧ out.quiet = false then batchText batch ++ "\n" else "" := by
  obtain ⟨style, quiet⟩ := out
  rw [Output.executed, h]
  cases style with
  | text => exact String.append_empty.symm
  | json => cases quiet <;> rfl

/-- All messages: those about stages, those of the steps, and the errors. -/
theorem messages_after (htallies : Tallies batch) (h : batch.refusal = none)
    (violations : List Violation) :
    ((out.executed shell batch).after (violations.map violationWarning)).messages =
      violations.map violationWarning ++ (batch.steps.flatMap stepMessages ++
        if out.style = .text ∧ out.quiet = false then batch.failed.map failureLine else []) := by
  rw [← htallies.messages_eq, ← messages_executed out shell h]
  rfl

/-- The warnings are those about failures, apart from those about stages. -/
theorem filter_warnsFrom_after (htallies : Tallies batch) (h : batch.refusal = none)
    (violations : List Violation) :
    ((out.executed shell batch).after (violations.map violationWarning)).messages.filter
        (·.warnsFrom "jpipe::cmd::run") =
      batch.failed.map failureWarning := by
  rw [messages_after out shell htallies h, List.filter_append, List.filter_append,
    filter_warnsFrom_violationWarning, filter_warnsFrom_stepMessages, List.nil_append,
    ← htallies.failed_eq]
  split
  · rw [filter_warnsFrom_failureLine, List.append_nil]
  · exact List.append_nil _

/-- The lines of text are the errors. -/
theorem filter_isLine_after (htallies : Tallies batch) (h : batch.refusal = none)
    (violations : List Violation) :
    ((out.executed shell batch).after (violations.map violationWarning)).messages.filter
        Message.isLine =
      if out.style = .text ∧ out.quiet = false then batch.failed.map failureLine else [] := by
  rw [messages_after out shell htallies h, List.filter_append, List.filter_append,
    filter_isLine_violationWarning, filter_isLine_stepMessages, List.nil_append, List.nil_append]
  split
  · exact filter_isLine_failureLine batch.failed
  · rfl

/-- Nothing has failed exactly if everything has succeeded. -/
theorem Tallies.isEmpty_failed_iff (h : Tallies batch) :
    batch.failed.isEmpty = true ↔ ∀ step ∈ batch.steps, step.result.ending = .exited 0 := by
  simp [h.failed_eq, List.filter_eq_nil_iff, Step.succeeded_eq]

/-- **A batch that no shell has refused is reported.** -/
theorem reports_executed (htallies : Tallies batch) (hrefusal : batch.refusal = none)
    (violations : List Violation) :
    Reports out batch ((out.executed shell batch).after (violations.map violationWarning)) := by
  have hempty := htallies.isEmpty_failed_iff
  constructor
  · rw [filter_warnsFrom_after out shell htallies hrefusal, List.map_map]
    exact List.map_congr_left fun f _ => text_failureWarning f
  · show (out.executed shell batch).code.number = 3 ↔ _
    have hsome : (∃ step ∈ batch.steps, step.result.ending ≠ .exited 0) ↔
        ¬∀ step ∈ batch.steps, step.result.ending = .exited 0 := by
      simp
    rw [code_executed out shell hrefusal, hsome, ← hempty]
    cases batch.failed.isEmpty <;> simp [ExitCode.number]
  · show (out.executed shell batch).code.number = 0 ↔ _
    rw [code_executed out shell hrefusal, ← hempty]
    cases batch.failed.isEmpty <;> simp [ExitCode.number]
  · rw [← batchText_eq]
    exact stdout_executed out shell hrefusal
  · rw [filter_isLine_after out shell htallies hrefusal]
    split
    · rw [List.map_map]
      exact List.map_congr_left fun f _ => text_failureLine f
    · rfl

end Executed

/-! ## Executing a pipeline -/

/-- A line of a template is the template filled in for the item at its place, and with its place for
the number of the item. -/
theorem exists_item_of_render {pipeline : Pipeline} {template : String}
    (htemplate : pipeline.template = some template) {document : Value} {i : Nat} {line : String}
    (h : (pipeline.render document)[i]? = some line) :
    ∃ item, (pipeline.items document)[i]? = some item ∧
      line = (Template.expand template item i).text := by
  rw [Pipeline.render, List.getElem?_mapIdx, Option.map_eq_some_iff] at h
  obtain ⟨item, hitem, rfl⟩ := h
  exact ⟨item, hitem, by rw [Pipeline.line, htemplate]⟩

/-- The batch that a shell makes of lines. -/
def batchOf (env : Environment) (execution : Execution) (lines : List String) : Batch :=
  Batch.run (env.execute (shellName env execution)) execution.keepGoing lines

/-- The batch takes the steps that are due, and keeps account of them, as long as the shell can be
started. -/
theorem batchOf_of_starts {env : Environment} {execution : Execution} {lines : List String}
    (hstarts : ∀ i line, lines[i]? = some line → Text.isBlankText line.toList = false →
      env.execute (shellName env execution) i line = .ok (results i)) :
    Tallies (batchOf env execution lines) ∧ (batchOf env execution lines).refusal = none ∧
      (batchOf env execution lines).steps =
        attempted execution.keepGoing (dueSteps results lines) := by
  have hplaces : ∀ p ∈ lines.zipIdx, Text.isBlankText p.1.toList = false →
      env.execute (shellName env execution) p.2 p.1 = .ok (results p.2) := fun _ hp =>
    hstarts _ _ (List.mk_mem_zipIdx_iff_getElem?.mp hp)
  obtain ⟨hsteps, hrefusal⟩ : (batchOf env execution lines).steps = _ ∧ _ :=
    steps_runFrom hplaces
  exact ⟨Tallies.empty.runFrom _ _ rfl 0 lines, hrefusal, hsteps⟩

/-- **Executing accounts for every command.**  Whatever the lines of a pipeline are, and however they
end, as long as the shell can be started for those that are not blank: the batch accounts for the
lines, and so it does at every point, where it has taken the first of all steps and is at its end or
goes on with the lines that are left.  The place of a step is the number of the item for which its
line was filled in.  And however the program has been asked to write, there is a warning for each
failure, its exit code is 3 if there is one and 0 if there is none, and the counts are written as
they are. -/
theorem run_execute_accounts (env : Environment) (pipeline : Pipeline) (execution : Execution)
    (source : Source) {text : String} {input : Input} (results : Nat → LineResult)
    (htext : sourceText env source = .ok text) (hread : Input.read source.declared text = .ok input)
    (hstarts : ∀ i line, (pipeline.render input.value)[i]? = some line →
      Text.isBlankText line.toList = false →
        env.execute (shellName env execution) i line = .ok (results i)) :
    let lines := pipeline.render input.value
    let batch := batchOf env execution lines
    Accounts results execution.keepGoing lines batch ∧
    (∀ before after, lines = before ++ after →
      Accounts results execution.keepGoing before (batchOf env execution before) ∧
      (batchOf env execution before).steps <+: batch.steps ∧
      (batch = batchOf env execution before ∨
        batch = Batch.runFrom (env.execute (shellName env execution)) execution.keepGoing
          (batchOf env execution before) before.length after)) ∧
    (∀ template, pipeline.template = some template → ∀ step ∈ batch.steps,
      ∃ item, (pipeline.items input.value)[step.index]? = some item ∧
        step.command = (Template.expand template item step.index).text) ∧
    ∀ out verbosity, Reports out batch (Invocation.run env
      { command := .execute pipeline execution source, output := out, verbosity }) := by
  intro lines batch
  obtain ⟨htallies, hrefusal, hsteps⟩ := batchOf_of_starts hstarts
  have haccounts : Accounts results execution.keepGoing lines batch :=
    accounts_of_attempted htallies hrefusal hsteps
  refine ⟨haccounts, fun before after hlines => ?_, fun template htemplate step hstep => ?_,
    fun out verbosity => ?_⟩
  · have hbefore : before <+: lines := ⟨after, hlines.symm⟩
    have hstartsBefore : ∀ i line, before[i]? = some line → Text.isBlankText line.toList = false →
        env.execute (shellName env execution) i line = .ok (results i) := by
      intro i line hline
      have hplace : lines[i]? = some line := by
        rw [hlines, List.getElem?_append_left (List.getElem?_eq_some_iff.mp hline).1, hline]
      exact hstarts i line hplace
    obtain ⟨htalliesBefore, hrefusalBefore, hstepsBefore⟩ := batchOf_of_starts hstartsBefore
    refine ⟨accounts_of_attempted htalliesBefore hrefusalBefore hstepsBefore, ?_, ?_⟩
    · rw [hstepsBefore]
      exact hsteps ▸ isPrefix_attempted execution.keepGoing (isPrefix_dueSteps results hbefore)
    · have happend := Batch.runFrom_append (env.execute (shellName env execution))
        execution.keepGoing {} 0 before after
      rw [← hlines, Nat.zero_add] at happend
      exact happend
  · exact exists_item_of_render htemplate (haccounts.line_at step hstep)
  · rw [Invocation.run]
    simp only
    rw [withDocument_of_read htext hread]
    exact reports_executed out _ htallies hrefusal pipeline.violations

/-- An environment in which the line at each place ends as it is said, and by a signal behind
that. -/
def Environment.endingAs (endings : List Ending) (text : String) : Environment where
  stdin := text.toUTF8.data.toList
  contents := fun _ => .error .notFound
  setting? := fun _ => none
  execute := fun _ i _ => .ok { ending := endings.getD i .signaled }

/-- Four lines of which the first succeeds, the second is blank, the third exits with 3, and a signal
ends the fourth.  The batch stops at the third, or keeps going and records both failures. -/
theorem run_execute_accounts_four_lines :
    let lines := ["a", " ", "b", "c"]
    let endings : List Ending := [.exited 0, .exited 0, .exited 3]
    let results : Nat → LineResult := fun i => { ending := endings.getD i .signaled }
    let env := Environment.endingAs endings "[\"a\",\" \",\"b\",\"c\"]\n"
    let pipeline : Pipeline := { template := some "\x7b\x7b.\x7d\x7d" }
    (∃ batch outcome, batch = batchOf env {} lines ∧ Accounts results false lines batch ∧
      batch.steps.map Step.index = [0, 2] ∧ batch.executed = 2 ∧ batch.succeeded = 1 ∧
      batch.failed = [⟨2, "b", some 3⟩] ∧
      outcome = Invocation.run env { command := .execute pipeline {} {} } ∧
      outcome.code.number = 3 ∧ outcome.stdout = "" ∧
      (outcome.messages.filter Message.isLine).map Message.text =
        ["error: command 2 exited with 3: b\n"]) ∧
    ∃ batch outcome, batch = batchOf env { keepGoing := true } lines ∧
      Accounts results true lines batch ∧
      batch.steps.map Step.index = [0, 2, 3] ∧ batch.executed = 3 ∧ batch.succeeded = 1 ∧
      batch.failed = [⟨2, "b", some 3⟩, ⟨3, "c", none⟩] ∧
      outcome = Invocation.run env
        { command := .execute pipeline { keepGoing := true } {}, output := { style := .json } } ∧
      outcome.code.number = 3 ∧
      (outcome.messages.filter (·.warnsFrom "jpipe::cmd::run")).map Message.text =
        ["WARN command failed index=2 command=b code=Some(3)\n",
          "WARN command failed index=3 command=c code=None\n"] ∧
      outcome.stdout = "\x7b\"executed\":3,\"succeeded\":1,\"failed\":[" ++
        "\x7b\"index\":2,\"command\":\"b\",\"exit_code\":3\x7d," ++
        "\x7b\"index\":3,\"command\":\"c\"\x7d]\x7d\n" := by
  intro lines endings results env pipeline
  have hread : Input.read none "[\"a\",\" \",\"b\",\"c\"]\n" =
      .ok ⟨.array (lines.map .string), .json⟩ := by
    have hprinted : (Value.array (lines.map .string)).toJson ++ "\n" =
        "[\"a\",\" \",\"b\",\"c\"]\n" := by
      decide
    rw [← hprinted]
    refine read_printed_list ?_ ?_ ?_
    · simp [lines, Value.HasDistinctKeys, Value.parts]
    · simp [lines, Json.NumbersReread, Value.parts]
    · decide
  have hlines : pipeline.render (.array (lines.map .string)) = lines := by cbv
  have htext : sourceText env {} = .ok "[\"a\",\" \",\"b\",\"c\"]\n" :=
    sourceText_of_stdin (Text.decodeUtf8_toUTF8 _)
  have haccounts := fun execution => run_execute_accounts env pipeline execution {} results htext
    hread (fun i line _ _ => rfl)
  simp only [hlines] at haccounts
  constructor
  · obtain ⟨hstopped, -, -, hreports⟩ := haccounts {}
    have hreport := hreports {} 0
    refine ⟨_, _, rfl, hstopped, by decide, by decide, by decide, by decide, rfl, ?_, ?_, ?_⟩
    · exact hreport.fails_iff.mpr ⟨⟨2, "b", { ending := .exited 3 }⟩, by decide, by decide⟩
    · exact hreport.result.trans (by decide +kernel)
    · exact hreport.errors.trans (by decide +kernel)
  · obtain ⟨hkept, -, -, hreports⟩ := haccounts { keepGoing := true }
    have hreport := hreports { style := .json } 0
    refine ⟨_, _, rfl, hkept, by decide, by decide, by decide, by decide, rfl, ?_, ?_, ?_⟩
    · exact hreport.fails_iff.mpr ⟨⟨2, "b", { ending := .exited 3 }⟩, by decide, by decide⟩
    · exact hreport.warnings.trans (by decide +kernel)
    · exact hreport.result.trans (by decide +kernel)

end CommandLine
end DocPipe
