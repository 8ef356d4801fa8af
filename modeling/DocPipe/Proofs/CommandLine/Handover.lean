import Mathlib
import DocPipe.CommandLine.Run
import DocPipe.Proofs.CommandLine.Options
import DocPipe.Proofs.Filter.Tokens
import DocPipe.Proofs.Json.Container
import DocPipe.Proofs.Text.Utf8
import DocPipe.Proofs.Value.Decoded

/-!
# Handing items over to another process

A pipeline can be cut in two: one process selects and filters and prints a list of the items, and
another fills a template in for whatever list it is given.  The lines are those of a single process
that does all of it.

## What could go wrong on the way

The list is printed, encoded, decoded, found to be JSON and read, and each of these steps has to
give back what it was given.  Then the second process selects the root, which opens a list: the list
of items is opened, and that must happen once only, since an item may be a list itself.  Nothing is
filtered a second time, and the items are numbered from zero again.

The reader has room for `Json.maxDepth` brackets.  The list around the items takes one of them, so
the items have to do with one less.  Their keys are distinct because they come from a document.
-/

namespace DocPipe
namespace CommandLine

/-! ## What the processes are asked to do -/

/-- A style as the value of an option. -/
def Style.spelling : Style → String
  | .text => "text"
  | .json => "json"

/-- The arguments for a process that prints the items as a list. -/
def filterArguments (select filter : String) (limit : Option Nat) : List String :=
  "filter" :: (longOptions ([("select", select)] ++ limitOption limit ++ [("format", "json")]) ++
    ["--", filter])

/-- The arguments for a process that fills in a template for a list of items. -/
def templateArguments (template : String) (style : Style) : List String :=
  "template" :: (longOptions [("format", style.spelling)] ++ ["--", template])

/-- The arguments for a process that does both. -/
def wholeArguments (select filter template : String) (limit : Option Nat) (style : Style) :
    List String :=
  "template" ::
    (longOptions ([("select", select), ("filter", filter)] ++ limitOption limit ++
      [("format", style.spelling)]) ++ ["--", template])

/-- The first process is asked to print the items as a list. -/
theorem ofArguments_filterArguments (select filter : String) {limit : Option Nat}
    (hlimit : ∀ n ∈ limit, n < wordBound) :
    Invocation.ofArguments (filterArguments select filter limit) =
      .ok
        { command := .print { select, filter, limit } {}
          output := { style := .json } } := by
  have haccepts : ∀ p ∈ [("select", select)] ++ limitOption limit ++ [("format", "json")],
      Accepts (filterCommand.options ++ commonOptions) p.1 p.2 := by
    intro p hp
    rcases List.mem_append.mp hp with hp | hp
    · rcases List.mem_append.mp hp with hp | hp
      · rw [List.mem_singleton.mp hp]
        exact Accepts.of_find "select" (by decide) rfl rfl rfl
      · exact accepts_limitOption rfl hlimit p hp
    · rw [List.mem_singleton.mp hp]
      exact Accepts.of_find "format" (by decide) rfl rfl rfl
  rw [filterArguments, ofArguments_subcommand (by decide) (by decide) rfl]
  cases limit with
  | none =>
    have hdistinct : ["select", "format"].Nodup := by decide
    rw [readSubcommand_longOptions rfl haccepts hdistinct filter rfl]
    rfl
  | some n =>
    have hdistinct : ["select", "limit", "format"].Nodup := by decide
    rw [readSubcommand_longOptions rfl haccepts hdistinct filter rfl]
    show Except.ok
      ({ command := .print { select, filter, limit := wordOfText? (toString n).toList } {}
         output := { style := .json } } : Invocation) = _
    rw [wordOfText?_toString (hlimit n rfl)]

/-- The second process is asked to fill in the template for whatever it is given. -/
theorem ofArguments_templateArguments (template : String) (style : Style) :
    Invocation.ofArguments (templateArguments template style) =
      .ok
        { command := .print { template := some template } {}
          output := { style } } := by
  have haccepts : ∀ p ∈ [("format", style.spelling)],
      Accepts (templateCommand.options ++ commonOptions) p.1 p.2 := by
    intro p hp
    rw [List.mem_singleton.mp hp]
    cases style <;> exact Accepts.of_find "format" (by decide) rfl rfl rfl
  have hdistinct : ["format"].Nodup := by decide
  rw [templateArguments, ofArguments_subcommand (by decide) (by decide) rfl,
    readSubcommand_longOptions rfl haccepts hdistinct template rfl]
  cases style <;> rfl

/-- The single process is asked to do all of it. -/
theorem ofArguments_wholeArguments (select filter template : String) {limit : Option Nat}
    (hlimit : ∀ n ∈ limit, n < wordBound) (style : Style) :
    Invocation.ofArguments (wholeArguments select filter template limit style) =
      .ok
        { command := .print { select, filter, template := some template, limit } {}
          output := { style } } := by
  have haccepts : ∀ p ∈ [("select", select), ("filter", filter)] ++ limitOption limit ++
      [("format", style.spelling)],
      Accepts (templateCommand.options ++ commonOptions) p.1 p.2 := by
    intro p hp
    rcases List.mem_append.mp hp with hp | hp
    · rcases List.mem_append.mp hp with hp | hp
      · rcases List.mem_cons.mp hp with rfl | hp
        · exact Accepts.of_find "select" (by decide) rfl rfl rfl
        · rw [List.mem_singleton.mp hp]
          exact Accepts.of_find "filter" (by decide) rfl rfl rfl
      · exact accepts_limitOption rfl hlimit p hp
    · rw [List.mem_singleton.mp hp]
      cases style <;> exact Accepts.of_find "format" (by decide) rfl rfl rfl
  rw [wholeArguments, ofArguments_subcommand (by decide) (by decide) rfl]
  cases limit with
  | none =>
    have hdistinct : ["select", "filter", "format"].Nodup := by decide
    rw [readSubcommand_longOptions rfl haccepts hdistinct template rfl]
    cases style <;> rfl
  | some n =>
    have hdistinct : ["select", "filter", "limit", "format"].Nodup := by decide
    rw [readSubcommand_longOptions rfl haccepts hdistinct template rfl]
    have hlimit : wordOfText? (toString n).toList = some n := wordOfText?_toString (hlimit n rfl)
    cases style with
    | text =>
      show Except.ok
        ({ command := .print { select, filter, template := some template,
                               limit := wordOfText? (toString n).toList } {}
           output := { style := .text } } : Invocation) = _
      rw [hlimit]
    | json =>
      show Except.ok
        ({ command := .print { select, filter, template := some template,
                               limit := wordOfText? (toString n).toList } {}
           output := { style := .json } } : Invocation) = _
      rw [hlimit]

/-- Printing what a pipeline makes of standard input, with warnings about the pipeline in front. -/
theorem invocation_run_print {env : Environment} {text : String} {input : Input}
    (htext : Text.decodeUtf8 env.stdin = .ok text) (hread : Input.read none text = .ok input)
    (pipeline : Pipeline) (out : Output) :
    Invocation.run env { command := .print pipeline {}, output := out } =
      (printed out pipeline input.value).after (pipeline.violations.map violationWarning) := by
  rw [Invocation.run]
  exact withDocument_of_read (sourceText_of_stdin htext) hread out pipeline _

/-- A process that prints what a pipeline makes of standard input ends with just that. -/
theorem run_print (env : Environment) {args : List String} {pipeline : Pipeline} {out : Output}
    {text : String} {input : Input}
    (hargs : Invocation.ofArguments args = .ok { command := .print pipeline {}, output := out })
    (htext : Text.decodeUtf8 env.stdin = .ok text) (hread : Input.read none text = .ok input) :
    ∃ shown, run env args = .ok shown ∧
      shown.stdout = (printed out pipeline input.value).stdout ∧
      shown.code = ExitCode.success.number :=
  ⟨_, run_of_arguments hargs (invocation_run_print htext hread pipeline out), rfl, rfl⟩

/-! ## What is handed over -/

/-- The empty path opens a list, once. -/
theorem selectText_empty_array (items : List Value) :
    Path.selectText "" (.array items) = items := by
  have hparse : Path.parse "" = .ok [] := by
    rw [Path.parse, Path.parseChars]
    exact if_pos (Or.inl rfl)
  rw [Path.selectText, hparse]
  rfl

/-- The empty filter lets everything pass. -/
theorem evaluateText_empty (item : Value) : Filter.evaluateText "" item = true := by
  have hscan : Filter.Token.scan "".toList = .ok [] :=
    (Filter.scan_eq_nil_iff "".toList).mpr (by simp)
  have hparse : Filter.parse "" = .ok none := by
    rw [Filter.parse, hscan]
    rfl
  rw [Filter.evaluateText, Filter.tryEvaluate, hparse]
  rfl

/-- Without a path, a filter and a limit, the items of a list are its items. -/
theorem items_array (template : String) (items : List Value) :
    ({ template := some template } : Pipeline).items (.array items) = items := by
  rw [Pipeline.items, Pipeline.takeAtMost_none, selectText_empty_array]
  exact List.filter_eq_self.mpr fun item _ => evaluateText_empty item

/-- What is printed as a list is taken for JSON, and read as the list. -/
theorem read_printed_list {items : List Value} (hkeys : ∀ v ∈ items, v.HasDistinctKeys)
    (hnumbers : ∀ v ∈ items, Json.NumbersReread v)
    (hnesting : ∀ v ∈ items, v.nesting ≤ Json.maxDepth - 1) :
    Input.read none ((Value.array items).toJson ++ "\n") = .ok ⟨.array items, .json⟩ := by
  have hall : Json.NumbersReread (.array items) := by
    intro n hn
    rcases Value.mem_parts_array_iff.mp hn with heq | ⟨v, hv, hmem⟩
    · exact absurd heq (by simp)
    · exact hnumbers v hv n hmem
  have hbreak : ∀ c ∈ "\n".toList, Json.isJsonBlank c = true := by
    intro c hc
    have hlist : "\n".toList = ['\n'] := rfl
    rw [hlist, List.mem_singleton] at hc
    exact hc ▸ rfl
  exact Input.read_toJson_append rfl (Value.hasDistinctKeys_array_iff.mpr hkeys) hall
    (Value.nesting_array_le_iff.mpr hnesting) "\n" hbreak

/-- The items of a pipeline are parts of the document. -/
theorem mem_parts_of_mem_items {pipeline : Pipeline} {document item : Value}
    (h : item ∈ pipeline.items document) : item ∈ document.parts := by
  have hkept : ∀ (limit : Option Nat) (items : List Value),
      item ∈ Pipeline.takeAtMost limit items → item ∈ items := by
    intro limit items hitem
    cases limit with
    | none => exact hitem
    | some n => exact List.mem_of_mem_take hitem
  exact Path.mem_parts_of_mem_selectText (List.mem_filter.mp (hkept _ _ h)).1

/-! ## Both ways -/

/-- **Stages can be split over two processes without changing the result.** -/
theorem run_filter_then_template (env : Environment) (select filter template : String)
    (limit : Option Nat) (style : Style) {text : String} {input : Input}
    (hlimit : ∀ n ∈ limit, n < wordBound) (htext : Text.decodeUtf8 env.stdin = .ok text)
    (hread : Input.read none text = .ok input)
    (hnumbers : ∀ item ∈ ({ select, filter, limit } : Pipeline).items input.value,
      ∀ x, .number (.float x) ∈ item.parts → (Number.float x).IsReread)
    (hnesting : ∀ item ∈ ({ select, filter, limit } : Pipeline).items input.value,
      item.nesting ≤ 126) :
    ∃ first second whole,
      run env (filterArguments select filter limit) = .ok first ∧
      run { env with stdin := first.stdout.toUTF8.data.toList }
        (templateArguments template style) = .ok second ∧
      run env (wholeArguments select filter template limit style) = .ok whole ∧
      Input.read none first.stdout =
        .ok ⟨.array (({ select, filter, limit } : Pipeline).items input.value), .json⟩ ∧
      whole.stdout = ({ style } : Output).lines
        ((({ select, filter, limit } : Pipeline).items input.value).mapIdx fun index item =>
          (Template.expand template item index).text) ∧
      second.stdout = whole.stdout ∧ second.code = whole.code := by
  generalize hitems : ({ select, filter, limit } : Pipeline).items input.value = items
    at hnumbers hnesting ⊢
  have hkeys : ∀ item ∈ items, item.HasDistinctKeys := by
    intro item hitem
    rw [← hitems] at hitem
    exact (Input.hasDistinctKeys_of_read hread).of_mem_parts (mem_parts_of_mem_items hitem)
  obtain ⟨first, hfirst, hfirstOut, -⟩ :=
    run_print env (ofArguments_filterArguments select filter hlimit) htext hread
  have hlist : first.stdout = (Value.array items).toJson ++ "\n" := by
    rw [hfirstOut, ← hitems]
    rfl
  have hagain : Input.read none first.stdout = .ok ⟨.array items, .json⟩ := by
    rw [hlist]
    exact read_printed_list hkeys
      (fun item hitem => Json.numbersReread_of_float (hnumbers item hitem)) hnesting
  obtain ⟨second, hsecond, hsecondOut, hsecondCode⟩ :=
    run_print { env with stdin := first.stdout.toUTF8.data.toList }
      (ofArguments_templateArguments template style) (Text.decodeUtf8_toUTF8 first.stdout) hagain
  obtain ⟨whole, hwhole, hwholeOut, hwholeCode⟩ :=
    run_print env (ofArguments_wholeArguments select filter template hlimit style) htext hread
  have hwholeLines : whole.stdout = ({ style } : Output).lines
      (items.mapIdx fun index item => (Template.expand template item index).text) := by
    rw [hwholeOut, ← hitems]
    rfl
  have hsecondLines : second.stdout = ({ style } : Output).lines
      (items.mapIdx fun index item => (Template.expand template item index).text) := by
    rw [hsecondOut]
    show ({ style } : Output).lines
      ((({ template := some template } : Pipeline).items (.array items)).mapIdx _) = _
    rw [items_array]
    rfl
  exact ⟨first, second, whole, hfirst, hsecond, hwhole, hagain, hwholeLines,
    hsecondLines.trans hwholeLines.symm, hsecondCode.trans hwholeCode.symm⟩

/-- An environment with nothing but a text on standard input. -/
def Environment.ofStdin (text : String) : Environment where
  stdin := text.toUTF8.data.toList
  contents := fun _ => .error .notFound
  setting? := fun _ => none
  execute := fun _ _ _ => .error .notFound

/-- Items that are lists themselves are neither lost nor opened on the way. -/
theorem run_filter_then_template_lists :
    ∃ first second whole : Shown,
      run (.ofStdin "[[],[true],null]\n") (filterArguments "" "" (some 2)) = .ok first ∧
      run { Environment.ofStdin "[[],[true],null]\n" with
            stdin := first.stdout.toUTF8.data.toList }
        (templateArguments "\x7b\x7bindex\x7d\x7d \x7b\x7b.\x7d\x7d" .text) = .ok second ∧
      run (.ofStdin "[[],[true],null]\n")
        (wholeArguments "" "" "\x7b\x7bindex\x7d\x7d \x7b\x7b.\x7d\x7d" (some 2) .text) =
          .ok whole ∧
      second.stdout = "0 []\n1 [true]\n" ∧ whole.stdout = "0 []\n1 [true]\n" ∧
      second.code = whole.code := by
  have hread : Input.read none "[[],[true],null]\n" =
      .ok ⟨.array [.array [], .array [.bool true], .null], .json⟩ := by
    have hprinted : (Value.array [.array [], .array [.bool true], .null]).toJson ++ "\n" =
        "[[],[true],null]\n" := by
      decide
    rw [← hprinted]
    refine read_printed_list ?_ ?_ ?_
    · simp [Value.HasDistinctKeys, Value.parts, Value.partsOfItems]
    · simp [Json.NumbersReread, Value.parts, Value.partsOfItems]
    · decide
  have hitems : ({ select := "", filter := "", limit := some 2 } : Pipeline).items
      (.array [.array [], .array [.bool true], .null]) = [.array [], .array [.bool true]] := by
    cbv
  obtain ⟨first, second, whole, hfirst, hsecond, hwhole, -, hlines, hstdout, hcode⟩ :=
    run_filter_then_template (.ofStdin "[[],[true],null]\n") "" ""
      "\x7b\x7bindex\x7d\x7d \x7b\x7b.\x7d\x7d" (some 2) .text (by decide)
      (Text.decodeUtf8_toUTF8 _) hread
      (by
        rw [hitems]
        simp [Value.parts, Value.partsOfItems])
      (by
        rw [hitems]
        decide)
  have hwholeLines : whole.stdout = "0 []\n1 [true]\n" := by
    rw [hlines, hitems]
    cbv
  exact ⟨first, second, whole, hfirst, hsecond, hwhole, hstdout.trans hwholeLines, hwholeLines,
    hcode⟩

end CommandLine
end DocPipe
