import DocPipe.Proofs.CommandLine.Handover
import DocPipe.Proofs.Pipeline.Violations

/-!
# Checking and running

`check` looks at the texts of the stages and at nothing else; `template`, and `run` when it does not
execute anything, take a document and run the stages on it.  All three say which stages make no
sense, the first in its result and the others in warnings, and this file shows that they say the
same.

Both reports are made of the violations of one pipeline, so there is nothing to compare but the ways
to it: that the arguments lead to the same pipeline, that a run warns about each violation and about
nothing else, and that without a log filter every warning is shown.

What is reported decides what a run does: a path or a filter in the report leaves it without items,
and then it writes nothing, or the empty list, and succeeds.
-/

namespace DocPipe
namespace CommandLine

/-! ## What the processes are asked to do -/

/-- The arguments for a process that checks the texts of the stages. -/
def checkArguments (select filter template : String) (style : Style) : List String :=
  "check" :: longOptions
    [("path", select), ("filter", filter), ("template", template), ("format", style.spelling)]

/-- The arguments for a process that runs the stages without executing anything. -/
def dryRunArguments (select filter template : String) (style : Style) : List String :=
  "run" :: longOptions
    [("template", template), ("select", select), ("filter", filter), ("format", style.spelling)]

/-- Options with values that pass every test. -/
theorem accepts_texts {specs : List OptionSpec} {style : Style} {texts : List (String × String)}
    (htexts : ∀ p ∈ texts, Accepts specs p.1 p.2)
    (hformat : specs.find? (·.name == "format") = some (choiceOption "format" ["text", "json"])) :
    ∀ p ∈ texts ++ [("format", style.spelling)], Accepts specs p.1 p.2 := by
  intro p hp
  rcases List.mem_append.mp hp with hp | hp
  · exact htexts p hp
  · rw [List.mem_singleton.mp hp]
    cases style <;> exact Accepts.of_find "format" (by decide) hformat rfl rfl

/-- The first process is asked to check the stages. -/
theorem ofArguments_checkArguments (select filter template : String) (style : Style) :
    Invocation.ofArguments (checkArguments select filter template style) =
      .ok
        { command := .check { select, filter, template := some template }
          output := { style } } := by
  have htexts : ∀ p ∈ [("path", select), ("filter", filter), ("template", template)],
      Accepts (checkCommand.options ++ commonOptions) p.1 p.2 := by
    simp only [List.forall_mem_cons]
    refine ⟨?_, ?_, ?_, by simp⟩
    · exact Accepts.of_find "path" (by decide) rfl rfl rfl
    · exact Accepts.of_find "filter" (by decide) rfl rfl rfl
    · exact Accepts.of_find "template" (by decide) rfl rfl rfl
  have haccepts : ∀ p ∈ [("path", select), ("filter", filter), ("template", template),
      ("format", style.spelling)], Accepts (checkCommand.options ++ commonOptions) p.1 p.2 :=
    accepts_texts htexts rfl
  have hdistinct : ["path", "filter", "template", "format"].Nodup := by decide
  rw [checkArguments, ofArguments_subcommand (by decide) (by decide) rfl,
    readSubcommand_longOptions_only haccepts hdistinct rfl]
  cases style <;> rfl

/-- The second process is asked to print what the stages make of the document. -/
theorem ofArguments_dryRunArguments (select filter template : String) (style : Style) :
    Invocation.ofArguments (dryRunArguments select filter template style) =
      .ok
        { command := .print { select, filter, template := some template } {}
          output := { style } } := by
  have htexts : ∀ p ∈ [("template", template), ("select", select), ("filter", filter)],
      Accepts (runCommand.options ++ commonOptions) p.1 p.2 := by
    simp only [List.forall_mem_cons]
    refine ⟨?_, ?_, ?_, by simp⟩
    · exact Accepts.of_find "template" (by decide) rfl rfl rfl
    · exact Accepts.of_find "select" (by decide) rfl rfl rfl
    · exact Accepts.of_find "filter" (by decide) rfl rfl rfl
  have haccepts : ∀ p ∈ [("template", template), ("select", select), ("filter", filter),
      ("format", style.spelling)], Accepts (runCommand.options ++ commonOptions) p.1 p.2 :=
    accepts_texts htexts rfl
  have hdistinct : ["template", "select", "filter", "format"].Nodup := by decide
  rw [dryRunArguments, ofArguments_subcommand (by decide) (by decide) rfl,
    readSubcommand_longOptions_only haccepts hdistinct rfl]
  cases style <;> rfl

/-! ## What is written about violations -/

/-- The line of a warning about a stage. -/
def warningLine (v : Violation) : String :=
  "WARN " ++ warningText v.message ++ " stage=" ++ v.stage.name ++ "\n"

/-- The line of a report about a stage. -/
def reportLine (v : Violation) : String := "- " ++ v.stage.name ++ ": " ++ v.message ++ "\n"

/-- What a process shows that checks stages: how it ends, and a report of all violations. -/
structure Checks (env : Environment) (args : List String) (style : Style)
    (violations : List Violation) (shown : Shown) : Prop where
  ends : run env args = .ok shown
  code : shown.code = if violations = [] then 0 else 2
  /-- In text, there is a word if all is well, -/
  passes : style = .text → violations = [] → shown.stdout = "ok\n" ∧ shown.stderr = ""
  /-- and a list among the errors otherwise. -/
  lists : style = .text → violations ≠ [] → shown.stdout = "" ∧
    shown.stderr = "error: check failed\n" ++ String.join (violations.map reportLine)
  /-- In JSON, the report is the result.  If all is well, it says so and nothing else; -/
  passes_json : style = .json → violations = [] →
    shown.stdout = "\x7b\"valid\":true\x7d\n" ∧ shown.stderr = ""
  /-- otherwise it lists the stages with the messages, in order. -/
  lists_json : style = .json → violations ≠ [] → shown.stderr = "" ∧
    shown.stdout =
      (Value.object
        [("valid", .bool false),
          ("errors", .array (violations.map fun v =>
            .object [("stage", .string v.stage.name), ("message", .string v.message)]))]).toJson
        ++ "\n"

/-- What a process shows that runs stages: it succeeds, and warns about all violations and about
nothing else. -/
structure Warns (env : Environment) (args : List String) (violations : List Violation)
    (shown : Shown) : Prop where
  ends : run env args = .ok shown
  code : shown.code = 0
  /-- The messages are one for each violation, as it is, -/
  messages : ∃ inv, Invocation.ofArguments args = .ok inv ∧
    (inv.run env).messages = violations.map violationWarning
  /-- and are written as lines, in which some characters are spelled out. -/
  stderr : shown.stderr = String.join (violations.map warningLine)

/-- A warning about a stage is a line. -/
theorem text_violationWarning (v : Violation) : (violationWarning v).text = warningLine v := by
  simp [violationWarning, Message.text, detailText, warningLine, String.append_assoc]

/-- Unless a variable turns them off, all warnings about stages are shown. -/
theorem stderr_violationWarnings {env : Environment} (hlog : env.setting? logVariable = none)
    (inv : Invocation) {outcome : Outcome} {violations : List Violation}
    (h : outcome.messages = violations.map violationWarning) :
    outcome.stderr (inv.logFilter env) = String.join (violations.map warningLine) := by
  have hshown : (violations.map violationWarning).filter (·.isShown (inv.logFilter env)) =
      violations.map violationWarning := by
    refine List.filter_eq_self.mpr fun m hm => ?_
    obtain ⟨v, -, rfl⟩ := List.mem_map.mp hm
    show (LogFilter.ofSetting (env.setting? logVariable) inv.verbosity).showsWarnings _ = true
    rw [hlog]
    exact LogFilter.showsWarnings_of_unset _ _
  rw [Outcome.stderr, h, hshown, List.map_map]
  exact congrArg String.join (List.map_congr_left fun v _ => text_violationWarning v)

/-- A warning about a stage is never empty. -/
theorem join_warningLine_eq_empty_iff {violations : List Violation} :
    String.join (violations.map warningLine) = "" ↔ violations = [] := by
  constructor
  · intro h
    cases violations with
    | nil => rfl
    | cons v violations =>
      rw [List.map_cons, String.join_cons] at h
      exact absurd h (by simp [warningLine])
  · rintro rfl
    rfl

/-- A report is a line of its own and one for each violation. -/
theorem stderr_checkMessages {outcome : Outcome} {violations : List Violation}
    (h : outcome.messages = checkMessages violations) (filter : LogFilter) :
    outcome.stderr filter = "error: check failed\n" ++ String.join (violations.map reportLine) := by
  have hshown : (checkMessages violations).filter (·.isShown filter) = checkMessages violations := by
    refine List.filter_eq_self.mpr fun m hm => ?_
    rcases List.mem_cons.mp hm with rfl | hm
    · rfl
    · obtain ⟨v, -, rfl⟩ := List.mem_map.mp hm
      rfl
  rw [Outcome.stderr, h, hshown, checkMessages, List.map_cons, String.join_cons, List.map_map]
  rfl

/-- The result of a check that has found nothing. -/
theorem toJson_checkValue_nil : (checkValue []).toJson ++ "\n" = "\x7b\"valid\":true\x7d\n" := by
  decide

/-- **A check reports the violations of its stages.** -/
theorem checks_of_arguments (env : Environment) {args : List String} {pipeline : Pipeline}
    {style : Style}
    (hargs : Invocation.ofArguments args =
      .ok { command := .check pipeline, output := { style } }) :
    ∃ shown, Checks env args style pipeline.violations shown := by
  generalize hviolations : pipeline.violations = violations
  have hrun : Invocation.run env { command := .check pipeline, output := { style } } =
      ({ style } : Output).checked violations :=
    congrArg (Output.checked { style }) hviolations
  refine ⟨_, { ends := run_of_arguments hargs hrun, code := ?_, passes := ?_, lists := ?_
               passes_json := ?_, lists_json := ?_ }⟩
  · cases style <;> cases violations <;> rfl
  · rintro rfl rfl
    exact ⟨rfl, rfl⟩
  · rintro rfl hne
    obtain ⟨v, violations, rfl⟩ := List.exists_cons_of_ne_nil hne
    exact ⟨rfl, stderr_checkMessages rfl _⟩
  · rintro rfl rfl
    exact ⟨toJson_checkValue_nil, rfl⟩
  · rintro rfl hne
    obtain ⟨v, violations, rfl⟩ := List.exists_cons_of_ne_nil hne
    exact ⟨rfl, rfl⟩

/-- **A run warns about the violations of its stages.** -/
theorem warns_of_arguments {env : Environment} {args : List String} {pipeline : Pipeline}
    {style : Style} {text : String} {input : Input} (hlog : env.setting? logVariable = none)
    (htext : Text.decodeUtf8 env.stdin = .ok text) (hread : Input.read none text = .ok input)
    (hargs : Invocation.ofArguments args =
      .ok { command := .print pipeline {}, output := { style } }) :
    ∃ shown, Warns env args pipeline.violations shown ∧
      shown.stdout = (printed { style } pipeline input.value).stdout := by
  have hrun := invocation_run_print htext hread pipeline { style }
  generalize houtcome : (printed { style } pipeline input.value).after
    (pipeline.violations.map violationWarning) = outcome at hrun
  have hmessages : outcome.messages = pipeline.violations.map violationWarning := by
    rw [← houtcome]
    exact List.append_nil _
  refine ⟨_, { ends := run_of_arguments hargs hrun, code := ?_
               messages := ⟨_, hargs, (congrArg Outcome.messages hrun).trans hmessages⟩
               stderr := stderr_violationWarnings hlog _ hmessages }, ?_⟩
  · rw [← houtcome]
    rfl
  · rw [← houtcome]
    rfl

/-! ## Checking and running -/

/-- **Checking and running agree about stages that make no sense**, whatever the texts of the stages
are and whatever document there is: what a check reports is what a run warns about, stage by stage
and in the order in which the stages run.  If a path or a filter is reported, no item is let through,
and the run has nothing to print.  If a template is reported for a key, that key is unresolved in
every item. -/
theorem check_agrees_with_run (env : Environment) (select filter template : String) (style : Style)
    {text : String} {input : Input} (hlog : env.setting? logVariable = none)
    (htext : Text.decodeUtf8 env.stdin = .ok text) (hread : Input.read none text = .ok input) :
    let pipeline : Pipeline := { select, filter, template := some template }
    (∃ checked,
      Checks env (checkArguments select filter template style) style pipeline.violations checked ∧
      ∀ args ∈ [wholeArguments select filter template none style,
          dryRunArguments select filter template style],
        ∃ shown, Warns env args pipeline.violations shown ∧
          (checked.code = 0 ↔ shown.stderr = "") ∧
          ((∃ v ∈ pipeline.violations, v.stage = .select ∨ v.stage = .filter) →
            shown.stdout = match style with
              | .text => ""
              | .json => "[]\n")) ∧
    (pipeline.violations.map Violation.stage).Sublist [.select, .filter, .template] ∧
    ((∃ v ∈ pipeline.violations, v.stage = .select ∨ v.stage = .filter) → ∀ root,
      pipeline.items root = [] ∧ pipeline.render root = []) ∧
    (⟨.template, Template.TemplateError.emptyPlaceholder.message⟩ ∈ pipeline.violations →
      ∀ item index, "" ∈ (Template.expand template item index).unresolved) ∧
    ∀ key cause,
      ⟨.template, (Template.TemplateError.invalidKey key cause).message⟩ ∈ pipeline.violations →
        ∀ item index, key ∈ (Template.expand template item index).unresolved := by
  intro pipeline
  have hnothing : (∃ v ∈ pipeline.violations, v.stage = .select ∨ v.stage = .filter) → ∀ root,
      pipeline.items root = [] ∧ pipeline.render root = [] := by
    rintro ⟨v, hv, hstage⟩ root
    have hitems := Pipeline.items_eq_nil_of_violation hv hstage root
    exact ⟨hitems, Pipeline.render_eq_nil_of_items hitems⟩
  obtain ⟨checked, hchecked⟩ : ∃ checked,
      Checks env (checkArguments select filter template style) style pipeline.violations checked :=
    checks_of_arguments env (ofArguments_checkArguments select filter template style)
  refine ⟨⟨checked, hchecked, fun args hargs => ?_⟩, pipeline.stages_sublist, hnothing,
    fun hmem item index => ?_, fun key cause hmem item index => ?_⟩
  · have hprint : Invocation.ofArguments args =
        .ok { command := .print pipeline {}, output := { style } } := by
      rcases List.mem_cons.mp hargs with rfl | hargs
      · exact ofArguments_wholeArguments select filter template (by simp) style
      · rw [List.mem_singleton.mp hargs]
        exact ofArguments_dryRunArguments select filter template style
    obtain ⟨shown, hshown, hstdout⟩ := warns_of_arguments hlog htext hread hprint
    refine ⟨shown, hshown, ?_, fun hv => ?_⟩
    · rw [hchecked.code, hshown.stderr, join_warningLine_eq_empty_iff]
      simp
    · rw [hstdout]
      show ({ style } : Output).lines (pipeline.render input.value) = _
      rw [(hnothing hv input.value).2]
      cases style <;> rfl
  · obtain ⟨e, he, hmessage⟩ := Pipeline.exists_of_mem_violations rfl hmem rfl
    rw [Template.eq_of_message_emptyPlaceholder hmessage] at he
    exact Template.mem_unresolved_of_parse he (.inl ⟨rfl, rfl⟩) item index
  · obtain ⟨e, he, hmessage⟩ := Pipeline.exists_of_mem_violations rfl hmem rfl
    obtain ⟨cause', rfl⟩ := Template.exists_of_message_invalidKey hmessage
    exact Template.mem_unresolved_of_parse he (.inr ⟨cause', rfl⟩) item index

/-- A bracket that is not closed and a placeholder without a key: the check ends with 2 and lists
both, and the run warns about both and prints nothing.  In JSON, the list is the result of the check,
and the run prints the empty list. -/
theorem check_agrees_with_run_bracket :
    (∃ checked shown : Shown,
      run (.ofStdin "[true]\n") (checkArguments "a[" "" "\x7b\x7b\x7d\x7d" .text) = .ok checked ∧
      run (.ofStdin "[true]\n") (dryRunArguments "a[" "" "\x7b\x7b\x7d\x7d" .text) = .ok shown ∧
      checked.code = 2 ∧ shown.code = 0 ∧ shown.stdout = "" ∧
      checked.stderr = "error: check failed\n- select: unclosed '[' in path\n" ++
        "- template: empty placeholder '\x7b\x7b\x7d\x7d'\n" ∧
      shown.stderr = "WARN unclosed '[' in path stage=select\n" ++
        "WARN empty placeholder '\x7b\x7b\x7d\x7d' stage=template\n") ∧
    ∃ checked shown : Shown,
      run (.ofStdin "[true]\n") (checkArguments "a[" "" "\x7b\x7b\x7d\x7d" .json) = .ok checked ∧
      run (.ofStdin "[true]\n") (dryRunArguments "a[" "" "\x7b\x7b\x7d\x7d" .json) = .ok shown ∧
      checked.code = 2 ∧ shown.code = 0 ∧ checked.stderr = "" ∧ shown.stdout = "[]\n" ∧
      checked.stdout = "\x7b\"valid\":false,\"errors\":[" ++
        "\x7b\"stage\":\"select\",\"message\":\"unclosed '[' in path\"\x7d," ++
        "\x7b\"stage\":\"template\"," ++
        "\"message\":\"empty placeholder '\x7b\x7b\x7d\x7d'\"\x7d]\x7d\n" := by
  have hread : Input.read none "[true]\n" = .ok ⟨.array [.bool true], .json⟩ := by
    have hprinted : (Value.array [.bool true]).toJson ++ "\n" = "[true]\n" := by decide
    rw [← hprinted]
    refine read_printed_list ?_ ?_ ?_
    · simp [Value.HasDistinctKeys, Value.parts]
    · simp [Json.NumbersReread, Value.parts]
    · decide
  have hviolations : ({ select := "a[", template := some "\x7b\x7b\x7d\x7d" } : Pipeline).violations =
      [⟨.select, "unclosed '[' in path"⟩,
        ⟨.template, "empty placeholder '\x7b\x7b\x7d\x7d'"⟩] := by
    decide +kernel
  have hagrees := fun style => check_agrees_with_run (.ofStdin "[true]\n") "a[" ""
    "\x7b\x7b\x7d\x7d" style rfl (Text.decodeUtf8_toUTF8 _) hread
  constructor
  · obtain ⟨⟨checked, hchecked, hruns⟩, -, -, -, -⟩ := hagrees .text
    obtain ⟨shown, hshown, -, hstdout⟩ :=
      hruns _ (List.mem_cons_of_mem _ (List.mem_singleton.mpr rfl))
    rw [hviolations] at hchecked hshown hstdout
    refine ⟨checked, shown, hchecked.ends, hshown.ends, hchecked.code, hshown.code,
      hstdout ⟨_, List.mem_cons_self, .inl rfl⟩, ?_, ?_⟩
    · rw [(hchecked.lists rfl (by simp)).2]
      decide +kernel
    · rw [hshown.stderr]
      decide +kernel
  · obtain ⟨⟨checked, hchecked, hruns⟩, -, -, -, -⟩ := hagrees .json
    obtain ⟨shown, hshown, -, hstdout⟩ :=
      hruns _ (List.mem_cons_of_mem _ (List.mem_singleton.mpr rfl))
    rw [hviolations] at hchecked hshown hstdout
    obtain ⟨hstderr, hreport⟩ := hchecked.lists_json rfl (by simp)
    refine ⟨checked, shown, hchecked.ends, hshown.ends, hchecked.code, hshown.code, hstderr,
      hstdout ⟨_, List.mem_cons_self, .inl rfl⟩, ?_⟩
    rw [hreport]
    decide +kernel

end CommandLine
end DocPipe
