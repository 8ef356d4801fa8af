import DocPipe.Proofs.CommandLine.Handover
import DocPipe.Proofs.CommandLine.Locality
import DocPipe.Proofs.Template.Normal

/-!
# Four ways to read a document

`select` and `filter` print items; `template`, and `run` when it does not execute anything, print
lines.  They share the stages, and are written four times over.  Here it is shown that they are one
program: a template with nothing but a point in it prints the items, and a dry run is the template
under another name.

## Items as lines

The two ways to print are not the same.  An item is printed by its text; a placeholder with a point
is filled in by a rule of its own, which counts null as nothing.  But nothing is shown as the empty
text, and so is null, and the same text takes the place of every other item.  Only in JSON there is
a difference: the items are values there, and the lines are strings.

## Arguments

What is said about the rest of the arguments is as little as possible: that they can be read by
themselves, by a subcommand that knows fewer options.  Where the document comes from, in which
format it is and whether anything is printed at all can be said in any spelling, or not at all.  The
document may be unreadable as well, and the texts of the stages may make no sense.
-/

namespace DocPipe

/-! ## Items as lines -/

namespace Template

/-- The template whose lines are the texts of the items. -/
def point : String := "\x7b\x7b.\x7d\x7d"

theorem parse_point : parse point = .ok [.placeholder "."] := by decide +kernel

/-- The line for an item is its text, even for null, which is not resolved. -/
theorem expand_point (item : Value) (index : Nat) :
    expand point item index = ⟨item.text, if item.isNull then ["."] else []⟩ := by
  have hvalue : keyValue? item "." = some item := if_pos rfl
  rw [expand_eq_fillPieces_of_parse parse_point,
    fillPieces_placeholder item index (by decide) hvalue]

end Template

namespace Pipeline

variable (select filter : String) (limit : Option Nat)

/-- **Without a template, a pipeline makes the lines that it makes with a point.** -/
theorem render_point (root : Value) :
    ({ select, filter, template := some Template.point, limit } : Pipeline).render root =
      ({ select, filter, limit } : Pipeline).render root := by
  have hline : ∀ (item : Value) (index : Nat),
      ({ select, filter, template := some Template.point, limit } : Pipeline).line item index =
        ({ select, filter, limit } : Pipeline).line item index :=
    fun item index => congrArg Template.Expansion.text (Template.expand_point item index)
  rw [render, render]
  exact List.mapIdx_eq_mapIdx_iff.mpr fun index hindex => hline _ index

/-- A point makes sense. -/
theorem violations_point :
    ({ select, filter, template := some Template.point, limit } : Pipeline).violations =
      ({ select, filter, limit } : Pipeline).violations := by
  have hnone : templateViolation? Template.point = none := by
    rw [templateViolation?, Template.parse_point]
  show _ ++ (templateViolation? Template.point).toList = _
  rw [hnone]
  rfl

/-- The lines of a pipeline without a template are the texts of its items. -/
theorem render_eq_map_text (root : Value) :
    ({ select, filter, limit } : Pipeline).render root =
      (({ select, filter, limit } : Pipeline).items root).map Value.text := by
  have hnumbers : ∀ items : List Value,
      items.mapIdx (fun _ item => item.text) = items.map Value.text :=
    fun items => by simp [List.ext_getElem_iff]
  exact hnumbers _

end Pipeline

namespace CommandLine

/-- What is printed of the items is printed of the lines, in text. -/
theorem printed_point {out : Output} (hstyle : out.style = .text) (select filter : String)
    (limit : Option Nat) (document : Value) :
    printed out { select, filter, template := some Template.point, limit } document =
      printed out { select, filter, limit } document := by
  have hlines : out.lines
      (({ select, filter, template := some Template.point, limit } : Pipeline).render document) =
        out.values (({ select, filter, limit } : Pipeline).items document) := by
    rw [Pipeline.render_point, Pipeline.render_eq_map_text, Output.lines, Output.values, hstyle]
  exact congrArg (fun stdout : String => ({ code := .success, stdout } : Outcome)) hlines

/-- **Printing items and printing lines with a point come to the same**, whatever the source is. -/
theorem invocation_run_point (env : Environment) {out : Output} (hstyle : out.style = .text)
    (select filter : String) (limit : Option Nat) (source : Source) (verbosity : Nat) :
    Invocation.run env
      { command := .print { select, filter, template := some Template.point, limit } source
        output := out, verbosity } =
      Invocation.run env
        { command := .print { select, filter, limit } source, output := out, verbosity } := by
  show withDocument env out _ source (printed out _) = withDocument env out _ source (printed out _)
  rw [withDocument, withDocument, Pipeline.violations_point]
  cases readDocument env out source with
  | error outcome => rfl
  | ok document =>
    show Outcome.after (printed out _ document) _ = Outcome.after (printed out _ document) _
    rw [printed_point hstyle]

/-! ## Arguments -/

section

variable {rest : List String} {read : Arguments}

/-- The options of `select` are known to `filter` and `template`, -/
theorem extends_select : Extends (selectCommand.options ++ commonOptions)
    (templateCommand.options ++ commonOptions) := by
  refine .of_subset (fun spec hspec => ?_) (by decide) (by decide)
  simp only [selectCommand, templateCommand, List.mem_append] at hspec ⊢
  tauto

/-- and theirs to `run`. -/
theorem extends_template : Extends (templateCommand.options ++ commonOptions)
    (runCommand.options ++ commonOptions) := by
  refine .of_subset (fun spec hspec => ?_) (by decide) (by decide)
  simp only [templateCommand, runCommand, List.cons_append, List.mem_cons, List.mem_append]
    at hspec ⊢
  tauto

/-- Arguments that can be read by themselves, long options, and whatever follows. -/
theorem readAll_rest_longOptions {specs specs' : List OptionSpec} {room : Nat}
    {options : List (String × String)} (hextends : Extends specs specs') (hdashes : "--" ∉ rest)
    (hrest : readAll specs 0 {} rest = .ok read) (haccepts : ∀ p ∈ options, Accepts specs' p.1 p.2)
    (hdistinct : (options.map Prod.fst).Nodup)
    (hnew : ∀ p ∈ options, p.1 ∉ specs.map OptionSpec.name) (tail : List String) :
    readAll specs' room {} (rest ++ longOptions options ++ tail) =
      readAll specs' room (Arguments.behind { options := options.reverse } read) tail := by
  have hfits : read.Fits specs 0 := (Arguments.Fits.empty specs 0).of_readAll hdashes hrest
  rw [List.append_assoc, readAll_first hextends hdashes hrest (Nat.zero_le room),
    readAll_longOptions haccepts hdistinct fun p hp => hfits.has_eq_false (hnew p hp)]
  rfl

/-- One argument more, behind the dashes or in front of all others, and nothing else changes. -/
theorem readAll_rest_operand {specs : List OptionSpec} (hdashes : "--" ∉ rest)
    (hrest : readAll specs 0 {} rest = .ok read) (operand : String) :
    readAll specs 1 {} (rest ++ ["--", operand]) = .ok { read with operands := [operand] } ∧
    (looksLikeOption operand = false →
      readAll specs 1 {} (operand :: rest) = .ok { read with operands := [operand] }) := by
  have hfits : read.Fits specs 0 := (Arguments.Fits.empty specs 0).of_readAll hdashes hrest
  have hnone : read.operands = [] := List.length_eq_zero_iff.mp (Nat.le_zero.mp hfits.operands)
  constructor
  · rw [readAll_first (.refl specs) hdashes hrest (Nat.zero_le 1),
      readAll_operand _ (by simp [hnone]), hnone]
  · intro hlooks
    have hne : operand ≠ "--" := by
      rintro rfl
      exact absurd hlooks (by decide)
    rw [readAll, if_neg hne, if_neg (by simp [hlooks])]
    show readAll specs 1 { operands := [operand] } rest = _
    rw [readAll_last (.refl specs) hdashes hrest (fun _ _ => rfl) (Nat.le_refl 1),
      Arguments.behind, hnone, List.append_nil]
    rfl

/-- The option for the template is no other option. -/
theorem value?_template_of_ne (template : String) {name : String} (hname : name ≠ "template") :
    Arguments.value? { options := [("template", template)] } name = none := by
  rw [Arguments.value?, List.lookup_cons, beq_eq_false_iff_ne.mpr hname]
  rfl

/-- The template of a dry run, in its long form or in its short form, and nothing else changes. -/
theorem readAll_rest_template (hdashes : "--" ∉ rest)
    (hrest : readAll (templateCommand.options ++ commonOptions) 0 {} rest = .ok read)
    (template : String) :
    readAll (runCommand.options ++ commonOptions) 0 {}
        (longOptions [("template", template)] ++ rest) =
      .ok (read.behind { options := [("template", template)] }) ∧
    (looksLikeOption template = false →
      readAll (runCommand.options ++ commonOptions) 0 {} ("-t" :: template :: rest) =
        .ok (read.behind { options := [("template", template)] })) := by
  have hfresh : ∀ spec ∈ templateCommand.options ++ commonOptions,
      Arguments.has { options := [("template", template)] } spec.name = false := by
    intro spec hspec
    have hname : spec.name ∈ (templateCommand.options ++ commonOptions).map OptionSpec.name :=
      List.mem_map_of_mem hspec
    have hne : spec.name ≠ "template" := fun heq => absurd (heq ▸ hname) (by decide)
    exact congrArg Option.isSome (value?_template_of_ne template hne)
  have hbehind : readAll (runCommand.options ++ commonOptions) 0
      { options := [("template", template)] } rest =
        .ok (read.behind { options := [("template", template)] }) :=
    readAll_last extends_template hdashes hrest hfresh (Nat.le_refl 0)
  constructor
  · have haccepts : ∀ p ∈ [("template", template)],
        Accepts (runCommand.options ++ commonOptions) p.1 p.2 := by
      intro p hp
      rw [List.mem_singleton.mp hp]
      exact Accepts.of_find "template" (by decide) rfl rfl rfl
    rw [readAll_longOptions haccepts (by simp) (fun _ _ => rfl)]
    exact hbehind
  · intro hlooks
    rw [readAll, if_neg (by decide), if_pos (by decide)]
    have hoption : readOption (runCommand.options ++ commonOptions) {} "-t" (some template) =
        .ok ({ options := [("template", template)] }, true) := by
      have hfind : (runCommand.options ++ commonOptions).find? (·.short == some 't') =
          some (textOption "template" (some 't')) := rfl
      have hletters : "-t".toList = ['-', 't'] := rfl
      rw [readOption, hletters]
      show readShort _ {} (some template) ['t'] = _
      rw [readShort, hfind]
      show (if looksLikeOption template = true then _ else _) = _
      rw [if_neg (by simp [hlooks])]
      rfl
    rw [List.head?_cons, hoption]
    exact hbehind

/-! ## What the processes are asked to do -/

/-- What a subcommand is asked to do by arguments that it can read. -/
theorem ofArguments_of_readAll {sub : Subcommand} (name : String) {l : List String}
    {args : Arguments} {command : Command} (hlooks : looksLikeOption name = false)
    (hhelp : name ≠ "help") (hfind : subcommands.find? (·.name == name) = some sub)
    (hread : readAll (sub.options ++ commonOptions) sub.room {} l = .ok args)
    (hcommand : sub.command? args = some command) :
    Invocation.ofArguments (name :: l) =
      .ok { command, output := args.output, verbosity := args.verbosity } := by
  rw [ofArguments_subcommand hlooks hhelp hfind]
  exact readSubcommand_of_readAll hread hcommand

/-- `select` is asked to print the places of a path. -/
theorem ofArguments_select_rest (hdashes : "--" ∉ rest)
    (hrest : readAll (selectCommand.options ++ commonOptions) 0 {} rest = .ok read)
    (select : String) :
    Invocation.ofArguments ("select" :: (rest ++ ["--", select])) =
      .ok
        { command := .print { select } read.source
          output := read.output, verbosity := read.verbosity } := by
  obtain ⟨hbehind, -⟩ := readAll_rest_operand hdashes hrest select
  have hasked := ofArguments_of_readAll "select" (by decide) (by decide) rfl hbehind rfl
  exact hasked

/-- `filter` is asked to print items. -/
theorem ofArguments_filter_rest (hdashes : "--" ∉ rest)
    (hrest : readAll (templateCommand.options ++ commonOptions) 0 {} rest = .ok read)
    (filter : String) :
    Invocation.ofArguments ("filter" :: (rest ++ ["--", filter])) =
      .ok
        { command := .print { read.stages with filter } read.source
          output := read.output, verbosity := read.verbosity } := by
  obtain ⟨hbehind, -⟩ := readAll_rest_operand hdashes hrest filter
  have hasked := ofArguments_of_readAll "filter" (by decide) (by decide) rfl hbehind rfl
  exact hasked

/-- The template of a dry run is asked for in addition to everything else. -/
theorem command?_run_behind (hfits : read.Fits (templateCommand.options ++ commonOptions) 0)
    (template : String) {args : Arguments}
    (hargs : read.behind { options := [("template", template)] } = args) :
    runCommand.command? args =
        some (.print { read.stages with template := some template } read.source) ∧
      args.output = read.output ∧ args.verbosity = read.verbosity := by
  have hvalue : ∀ name, name ≠ "template" → args.value? name = read.value? name := by
    intro name hname
    rw [← hargs, Arguments.value?_behind, value?_template_of_ne template hname, Option.or_none]
  have htemplate : args.value? "template" = some template := by
    rw [← hargs, Arguments.value?_behind, hfits.value?_eq_none (by decide)]
    rfl
  have hexec : args.value? "exec" = none := by
    rw [hvalue "exec" (by decide), hfits.value?_eq_none (by decide)]
  have hdry : args.execution? = none := by
    rw [Arguments.execution?, if_neg]
    show ¬(args.value? "exec").isSome = true
    simp [hexec]
  have hstages : args.stages = read.stages :=
    Arguments.stages_eq fun name hname => hvalue name (by revert name; decide)
  have hsource : args.source = read.source :=
    Arguments.source_eq fun name hname => hvalue name (by revert name; decide)
  refine ⟨?_, Arguments.output_eq fun name hname => hvalue name (by revert name; decide), ?_⟩
  · show (args.value? "template").map _ = _
    rw [htemplate, Option.map_some, hdry, hstages, hsource]
  · rw [← hargs, Arguments.verbosity_behind]
    rfl

/-- `template` is asked to print lines, -/
theorem ofArguments_template_rest (hdashes : "--" ∉ rest)
    (hrest : readAll (templateCommand.options ++ commonOptions) 0 {} rest = .ok read)
    (template : String) :
    ∀ l, l = rest ++ ["--", template] ∨ (looksLikeOption template = false ∧ l = template :: rest) →
      Invocation.ofArguments ("template" :: l) =
        .ok
          { command := .print { read.stages with template := some template } read.source
            output := read.output, verbosity := read.verbosity } := by
  obtain ⟨hbehind, hfront⟩ := readAll_rest_operand hdashes hrest template
  rintro l (rfl | ⟨hlooks, rfl⟩)
  · have hasked := ofArguments_of_readAll "template" (by decide) (by decide) rfl hbehind rfl
    exact hasked
  · have hasked := ofArguments_of_readAll "template" (by decide) (by decide) rfl (hfront hlooks) rfl
    exact hasked

/-- and so is `run`. -/
theorem ofArguments_run_rest (hdashes : "--" ∉ rest)
    (hrest : readAll (templateCommand.options ++ commonOptions) 0 {} rest = .ok read)
    (template : String) :
    ∀ l, l = longOptions [("template", template)] ++ rest ∨
        (looksLikeOption template = false ∧ l = "-t" :: template :: rest) →
      Invocation.ofArguments ("run" :: l) =
        .ok
          { command := .print { read.stages with template := some template } read.source
            output := read.output, verbosity := read.verbosity } := by
  have hfits : read.Fits (templateCommand.options ++ commonOptions) 0 :=
    (Arguments.Fits.empty _ 0).of_readAll hdashes hrest
  obtain ⟨hcommand, houtput, hverbosity⟩ := command?_run_behind hfits template rfl
  obtain ⟨hlong, hshort⟩ := readAll_rest_template hdashes hrest template
  rw [← houtput, ← hverbosity]
  rintro l (rfl | ⟨hlooks, rfl⟩)
  · exact ofArguments_of_readAll "run" (by decide) (by decide) rfl hlong hcommand
  · exact ofArguments_of_readAll "run" (by decide) (by decide) rfl (hshort hlooks) hcommand

/-! ## Stages -/

/-- The options for a path, a filter and a limit. -/
def stageTexts (select : String) (filter : Option String) (limit : Option Nat) :
    List (String × String) :=
  ("select", select) :: (limitOption limit ++ (filter.map fun text => ("filter", text)).toList)

section

variable (select : String) (filter : Option String) {limit : Option Nat}

theorem mem_names_of_mem_stageTexts :
    ∀ p ∈ stageTexts select filter limit, p.1 ∈ stageOptions.map OptionSpec.name := by
  cases filter <;> cases limit <;> simp [stageTexts, limitOption, stageOptions, textOption]

theorem nodup_stageTexts : ((stageTexts select filter limit).map Prod.fst).Nodup := by
  cases filter <;> cases limit <;> simp [stageTexts, limitOption]

theorem accepts_stageTexts (hlimit : ∀ n ∈ limit, n < wordBound) :
    ∀ p ∈ stageTexts select filter limit,
      Accepts (templateCommand.options ++ commonOptions) p.1 p.2 := by
  intro p hp
  rcases List.mem_cons.mp hp with rfl | hp
  · exact Accepts.of_find "select" (by decide) rfl rfl rfl
  · rcases List.mem_append.mp hp with hp | hp
    · exact accepts_limitOption rfl hlimit p hp
    · obtain ⟨text, -, rfl⟩ := Option.map_eq_some_iff.mp (Option.mem_toList.mp hp)
      exact Accepts.of_find "filter" (by decide) rfl rfl rfl

/-- The options for the stages ask for the stages. -/
theorem stages_stageTexts (hlimit : ∀ n ∈ limit, n < wordBound) :
    Arguments.stages { options := (stageTexts select filter limit).reverse } =
      { select, filter := filter.getD "", limit } := by
  cases limit with
  | none => cases filter <;> rfl
  | some n =>
    have hword : wordOfText? (toString n).toList = some n := wordOfText?_toString (hlimit n rfl)
    cases filter with
    | none =>
      show ({ select, limit := wordOfText? (toString n).toList } : Pipeline) = _
      rw [hword]
      rfl
    | some text =>
      show ({ select, filter := text, limit := wordOfText? (toString n).toList } : Pipeline) = _
      rw [hword]
      rfl

/-- With the options for the stages, arguments can still be read by themselves, and they ask for the
stages and for whatever they have asked for before. -/
theorem readAll_rest_stageTexts (hlimit : ∀ n ∈ limit, n < wordBound) (hdashes : "--" ∉ rest)
    (hrest : readAll (selectCommand.options ++ commonOptions) 0 {} rest = .ok read) :
    "--" ∉ rest ++ longOptions (stageTexts select filter limit) ∧
    ∃ args, readAll (templateCommand.options ++ commonOptions) 0 {}
        (rest ++ longOptions (stageTexts select filter limit)) = .ok args ∧
      args.stages = { select, filter := filter.getD "", limit } ∧
      args.source = read.source ∧ args.output = read.output ∧ args.verbosity = read.verbosity := by
  have hnew : ∀ name ∈ stageOptions.map OptionSpec.name,
      name ∉ (selectCommand.options ++ commonOptions).map OptionSpec.name := by
    decide
  have hfits : read.Fits (selectCommand.options ++ commonOptions) 0 :=
    (Arguments.Fits.empty _ 0).of_readAll hdashes hrest
  have hread : readAll (templateCommand.options ++ commonOptions) 0 {}
      (rest ++ longOptions (stageTexts select filter limit) ++ []) = _ :=
    readAll_rest_longOptions extends_select hdashes hrest (accepts_stageTexts select filter hlimit)
      (nodup_stageTexts select filter)
      (fun p hp => hnew p.1 (mem_names_of_mem_stageTexts select filter p hp)) []
  rw [List.append_nil, readAll] at hread
  have hstages := stages_stageTexts select filter hlimit
  have hverbosity :
      Arguments.verbosity { options := (stageTexts select filter limit).reverse } = 0 := by
    cases filter <;> cases limit <;> rfl
  have htexts : Arguments.Fits stageOptions 0
      { options := (stageTexts select filter limit).reverse } := by
    refine ⟨fun p hp => ?_, Nat.le_refl 0⟩
    exact List.mem_map.mp (mem_names_of_mem_stageTexts select filter p (List.mem_reverse.mp hp))
  generalize ({ options := (stageTexts select filter limit).reverse } : Arguments) = texts
    at hread hstages hverbosity htexts
  have hother : ∀ name, name ∉ stageOptions.map OptionSpec.name →
      (texts.behind read).value? name = read.value? name := by
    intro name hname
    rw [Arguments.value?_behind, htexts.value?_eq_none hname, Option.none_or]
  refine ⟨?_, texts.behind read, hread, ?_, ?_, ?_, ?_⟩
  · rw [List.mem_append, not_or]
    exact ⟨hdashes, notMem_longOptions _⟩
  · rw [← hstages]
    refine Arguments.stages_eq fun name hname => ?_
    rw [Arguments.value?_behind, hfits.value?_eq_none (hnew name hname), Option.or_none]
  · exact Arguments.source_eq fun name hname => hother name (by revert name; decide)
  · exact Arguments.output_eq fun name hname => hother name (by revert name; decide)
  · rw [Arguments.verbosity_behind, hverbosity, Nat.zero_add]

end

end

/-! ## Agreement -/

/-- **The commands that read a document agree.**  Without a template, the lines are those of a
point.  So `filter`, `template` with a point and a dry `run` with a point show the same in text, and
`select` shows it too if there is nothing to filter and no limit.  And with any template and in any
style, `template` and a dry `run` show the same. -/
theorem reading_commands_agree (env : Environment) (select filter : String) {limit : Option Nat}
    {rest : List String} {read : Arguments} (hlimit : ∀ n ∈ limit, n < wordBound)
    (hdashes : "--" ∉ rest)
    (hrest : readAll (selectCommand.options ++ commonOptions) 0 {} rest = .ok read) :
    (∀ root, ({ select, filter, limit } : Pipeline).render root =
      ({ select, filter, template := some Template.point, limit } : Pipeline).render root) ∧
    (read.output.style = .text → ∃ shown,
      run env ("filter" ::
        (rest ++ longOptions (stageTexts select none limit) ++ ["--", filter])) = .ok shown ∧
      run env ("template" ::
        (rest ++ longOptions (stageTexts select (some filter) limit) ++ ["--", Template.point])) =
          .ok shown ∧
      run env ("run" :: (longOptions [("template", Template.point)] ++
        (rest ++ longOptions (stageTexts select (some filter) limit)))) = .ok shown ∧
      (filter = "" → limit = none →
        run env ("select" :: (rest ++ ["--", select])) = .ok shown)) ∧
    ∀ (template : String) {rest' : List String} {read' : Arguments}, "--" ∉ rest' →
      readAll (templateCommand.options ++ commonOptions) 0 {} rest' = .ok read' →
      ∃ shown,
        run env ("template" :: (rest' ++ ["--", template])) = .ok shown ∧
        run env ("run" :: (longOptions [("template", template)] ++ rest')) = .ok shown ∧
        (looksLikeOption template = false →
          run env ("template" :: template :: rest') = .ok shown ∧
          run env ("run" :: "-t" :: template :: rest') = .ok shown) := by
  refine ⟨fun root => (Pipeline.render_point select filter limit root).symm, fun hstyle => ?_,
    fun template rest' read' hdashes' hrest' => ?_⟩
  · obtain ⟨hdashesPath, path, hpath, hpathStages, hpathSource, hpathOutput, hpathVerbosity⟩ :=
      readAll_rest_stageTexts select none hlimit hdashes hrest
    obtain ⟨hdashesAll, all, hall, hallStages, hallSource, hallOutput, hallVerbosity⟩ :=
      readAll_rest_stageTexts select (some filter) hlimit hdashes hrest
    have hpoint := invocation_run_point env hstyle select filter limit read.source read.verbosity
    have hfilter := ofArguments_filter_rest hdashesPath hpath filter
    have htemplate := ofArguments_template_rest hdashesAll hall Template.point _ (.inl rfl)
    have hdry := ofArguments_run_rest hdashesAll hall Template.point _ (.inl rfl)
    rw [hpathStages, hpathSource, hpathOutput, hpathVerbosity] at hfilter
    rw [hallStages, hallSource, hallOutput, hallVerbosity] at htemplate hdry
    have hlines := run_of_arguments htemplate hpoint
    have hdryLines := run_of_arguments hdry hpoint
    refine ⟨_, run_of_arguments hfilter rfl, hlines, hdryLines, ?_⟩
    rintro rfl rfl
    exact run_of_arguments (ofArguments_select_rest hdashes hrest select) rfl
  · have htemplate := ofArguments_template_rest hdashes' hrest' template
    have hdry := ofArguments_run_rest hdashes' hrest' template
    refine ⟨_, run_of_arguments (htemplate _ (.inl rfl)) rfl,
      run_of_arguments (hdry _ (.inl rfl)) rfl, fun hlooks => ⟨?_, ?_⟩⟩
    · exact run_of_arguments (htemplate _ (.inr ⟨hlooks, rfl⟩)) rfl
    · exact run_of_arguments (hdry _ (.inr ⟨hlooks, rfl⟩)) rfl

/-- A null is an empty line for all of them, and a list is opened once.  The limit of the last two
is said in a short form. -/
theorem reading_commands_agree_null :
    ∃ shown fewer : Shown,
      run (.ofStdin "[null,[true]]\n")
        ("filter" :: (longOptions [("select", "")] ++ ["--", ""])) = .ok shown ∧
      run (.ofStdin "[null,[true]]\n")
        ("template" :: (longOptions [("select", ""), ("filter", "")] ++
          ["--", "\x7b\x7b.\x7d\x7d"])) = .ok shown ∧
      run (.ofStdin "[null,[true]]\n")
        ("run" :: longOptions [("template", "\x7b\x7b.\x7d\x7d"), ("select", ""), ("filter", "")]) =
          .ok shown ∧
      run (.ofStdin "[null,[true]]\n") ["select", "--", ""] = .ok shown ∧
      shown.stdout = "\n[true]\n" ∧ shown.code = 0 ∧
      run (.ofStdin "[null,[true]]\n") ["template", "\x7b\x7bindex\x7d\x7d", "-n", "1"] =
        .ok fewer ∧
      run (.ofStdin "[null,[true]]\n") ["run", "-t", "\x7b\x7bindex\x7d\x7d", "-n", "1"] =
        .ok fewer := by
  have hnone : readAll (selectCommand.options ++ commonOptions) 0 {} [] = .ok {} := by rw [readAll]
  have hlimit : readAll (templateCommand.options ++ commonOptions) 0 {} ["-n", "1"] =
      .ok { options := [("limit", "1")] } := by
    have hoption : readOption (templateCommand.options ++ commonOptions) {} "-n" (some "1") =
        .ok ({ options := [("limit", "1")] }, true) := by
      cbv
    rw [readAll, if_neg (by decide), if_pos (by decide), List.head?_cons, hoption]
    show readAll _ 0 _ [] = _
    rw [readAll]
  have hread : Input.read none "[null,[true]]\n" =
      .ok ⟨.array [.null, .array [.bool true]], .json⟩ := by
    have hprinted : (Value.array [.null, .array [.bool true]]).toJson ++ "\n" =
        "[null,[true]]\n" := by
      decide
    rw [← hprinted]
    refine read_printed_list ?_ ?_ ?_
    · simp [Value.HasDistinctKeys, Value.parts, Value.partsOfItems]
    · simp [Json.NumbersReread, Value.parts, Value.partsOfItems]
    · decide
  have hunlimited : ∀ n ∈ (none : Option Nat), n < wordBound := by simp
  obtain ⟨-, hpoint, hany⟩ :=
    reading_commands_agree (.ofStdin "[null,[true]]\n") "" "" hunlimited (by simp) hnone
  obtain ⟨shown, hfilter, htemplate, hdry, hselect⟩ := hpoint rfl
  obtain ⟨fewer, -, -, hshort⟩ := hany "\x7b\x7bindex\x7d\x7d" (by decide) hlimit
  obtain ⟨htemplateShort, hdryShort⟩ := hshort (by decide)
  obtain ⟨shown', hshown', hstdout, hcode⟩ :=
    run_print (.ofStdin "[null,[true]]\n") (ofArguments_select_rest (by simp) hnone "")
      (Text.decodeUtf8_toUTF8 _) hread
  obtain rfl : shown' = shown := Except.ok.inj (hshown'.symm.trans (hselect rfl rfl))
  refine ⟨shown', fewer, hfilter, htemplate, hdry, hshown', ?_, hcode, htemplateShort, hdryShort⟩
  rw [hstdout]
  cbv

end CommandLine
end DocPipe
