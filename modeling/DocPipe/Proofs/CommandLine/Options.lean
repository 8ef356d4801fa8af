import DocPipe.CommandLine.Arguments
import DocPipe.Proofs.Text.Runs

/-!
# Arguments that are read as they are meant

An option can be spelled in several ways, and a value that begins with a dash is mistaken for an
option when it stands alone.  One spelling is safe whatever the values are: options in their long
form with an equals sign, and `--` in front of the argument that is no option.  Here it is shown
what a subcommand makes of arguments in that spelling.
-/

namespace DocPipe
namespace CommandLine

/-- Options in their long form, each with its value behind an equals sign. -/
def longOptions (options : List (String × String)) : List String :=
  options.map fun p => "--" ++ p.1 ++ "=" ++ p.2

/-- Whether a name is that of an option that takes a value, and the value passes its test. -/
def Accepts (specs : List OptionSpec) (name value : String) : Prop :=
  '=' ∉ name.toList ∧ ∃ spec accepts,
    specs.find? (·.name == name) = some spec ∧ spec.kind = .value accepts ∧ accepts value = true

theorem Accepts.of_find {specs : List OptionSpec} {spec : OptionSpec} {accepts : String → Bool}
    (name : String) {value : String} (hequal : '=' ∉ name.toList)
    (hfind : specs.find? (·.name == name) = some spec) (hkind : spec.kind = .value accepts)
    (hvalue : accepts value = true) : Accepts specs name value :=
  ⟨hequal, spec, accepts, hfind, hkind, hvalue⟩

theorem toList_longOption (name value : String) :
    ("--" ++ name ++ "=" ++ value).toList = '-' :: '-' :: (name.toList ++ '=' :: value.toList) := by
  rw [String.toList_append, String.toList_append, String.toList_append, List.append_assoc,
    List.append_assoc]
  rfl

/-- A long option is more than the dashes. -/
theorem longOption_ne_dashes (name value : String) : "--" ++ name ++ "=" ++ value ≠ "--" := by
  intro heq
  have hlist := congrArg String.toList heq
  rw [toList_longOption] at hlist
  exact absurd hlist (by simp)

theorem notMem_longOptions (options : List (String × String)) : "--" ∉ longOptions options := by
  intro hmem
  obtain ⟨p, -, heq⟩ := List.mem_map.mp hmem
  exact longOption_ne_dashes p.1 p.2 heq

/-- A long option is read up to its equals sign, and what stands behind that is its value. -/
theorem readOption_long {specs : List OptionSpec} {args : Arguments} {name value : String}
    (haccepts : Accepts specs name value) (hnew : args.has name = false) (next : Option String) :
    readOption specs args ("--" ++ name ++ "=" ++ value) next =
      .ok ({ args with options := (name, value) :: args.options }, false) := by
  obtain ⟨hequal, spec, accepts, hfind, hkind, hvalue⟩ := haccepts
  have hname : spec.name = name := by
    have hfound := List.find?_some hfind
    exact beq_iff_eq.mp hfound
  have hcharacter : ∀ c ∈ name.toList, (c != '=') = true := by
    intro c hc
    rw [bne_iff_ne]
    rintro rfl
    exact hequal hc
  have htake : (name.toList ++ '=' :: value.toList).takeWhile (· != '=') = name.toList :=
    Text.takeWhile_append_of_forall hcharacter (by simp)
  have hdrop : (name.toList ++ '=' :: value.toList).dropWhile (· != '=') = '=' :: value.toList :=
    Text.dropWhile_append_of_forall hcharacter (by simp)
  rw [readOption, toList_longOption]
  simp only
  rw [readLong, htake, hdrop, String.ofList_toList, hfind]
  simp only [addOption, afterEqual?, OptionKind.takesValue, hkind]
  rw [String.ofList_toList, Arguments.add, hkind]
  simp only
  rw [hname, hnew, hvalue]
  rfl

/-- **Long options are read one after the other**, as long as none is given twice. -/
theorem readAll_longOptions {specs : List OptionSpec} {room : Nat}
    {options : List (String × String)} {args : Arguments}
    (haccepts : ∀ p ∈ options, Accepts specs p.1 p.2)
    (hdistinct : (options.map Prod.fst).Nodup) (hnew : ∀ p ∈ options, args.has p.1 = false)
    (rest : List String) :
    readAll specs room args (longOptions options ++ rest) =
      readAll specs room { args with options := options.reverse ++ args.options } rest := by
  induction options generalizing args with
  | nil => rfl
  | cons p options ih =>
    obtain ⟨hp, hoptions⟩ := List.forall_mem_cons.mp haccepts
    obtain ⟨hnewp, hnew⟩ := List.forall_mem_cons.mp hnew
    rw [List.map_cons, List.nodup_cons] at hdistinct
    have hlooks : looksLikeOption ("--" ++ p.1 ++ "=" ++ p.2) = true := by
      rw [looksLikeOption, toList_longOption]
      rfl
    have hnew' : ∀ q ∈ options,
        Arguments.has { args with options := (p.1, p.2) :: args.options } q.1 = false := by
      intro q hq
      have hne : (q.1 == p.1) = false := by
        rw [beq_eq_false_iff_ne]
        intro heq
        exact hdistinct.1 (heq ▸ List.mem_map_of_mem hq)
      have hold := hnew q hq
      rw [Arguments.has] at hold ⊢
      rw [List.lookup_cons, hne]
      exact hold
    rw [longOptions, List.map_cons, List.cons_append, readAll,
      if_neg (longOption_ne_dashes p.1 p.2), if_pos hlooks,
      readOption_long hp hnewp]
    simp only [Bool.false_eq_true, if_false]
    rw [← longOptions, ih hoptions hdistinct.2 hnew', List.reverse_cons, List.append_assoc]
    rfl

/-- Behind the dashes stands an argument that is no option, whatever it looks like. -/
theorem readAll_operand (specs : List OptionSpec) {room : Nat} {args : Arguments}
    (hroom : args.operands.length < room) (operand : String) :
    readAll specs room args ["--", operand] =
      .ok { args with operands := operand :: args.operands } := by
  rw [readAll, if_pos rfl]
  show (args.addOperand room operand >>= fun args => pure args) = _
  rw [Arguments.addOperand, if_pos hroom]
  rfl

/-- What a subcommand makes of arguments that it can read. -/
theorem readSubcommand_of_readAll {sub : Subcommand} {rest : List String} {args : Arguments}
    {command : Command} (hread : readAll (sub.options ++ commonOptions) sub.room {} rest = .ok args)
    (hcommand : sub.command? args = some command) :
    readSubcommand sub {} rest =
      .ok { command, output := args.output, verbosity := args.verbosity } := by
  rw [readSubcommand, hread]
  simp only
  rw [hcommand]
  simp [Arguments.verbosity]

/-- **What a subcommand makes of long options and one argument behind the dashes.** -/
theorem readSubcommand_longOptions {sub : Subcommand} {options : List (String × String)}
    (hroom : sub.room = 1)
    (haccepts : ∀ p ∈ options, Accepts (sub.options ++ commonOptions) p.1 p.2)
    (hdistinct : (options.map Prod.fst).Nodup) (operand : String) {command : Command}
    (hcommand : sub.command? { options := options.reverse, operands := [operand] } =
      some command) :
    readSubcommand sub {} (longOptions options ++ ["--", operand]) =
      .ok
        { command
          output := Arguments.output { options := options.reverse, operands := [operand] }
          verbosity :=
            Arguments.verbosity { options := options.reverse, operands := [operand] } } := by
  have hread : readAll (sub.options ++ commonOptions) sub.room {}
      (longOptions options ++ ["--", operand]) =
        .ok { options := options.reverse, operands := [operand] } := by
    rw [readAll_longOptions haccepts hdistinct (fun _ _ => rfl), List.append_nil,
      readAll_operand _ (by rw [hroom]; exact Nat.zero_lt_one)]
  exact readSubcommand_of_readAll hread hcommand

/-- **What a subcommand makes of long options alone.** -/
theorem readSubcommand_longOptions_only {sub : Subcommand} {options : List (String × String)}
    (haccepts : ∀ p ∈ options, Accepts (sub.options ++ commonOptions) p.1 p.2)
    (hdistinct : (options.map Prod.fst).Nodup) {command : Command}
    (hcommand : sub.command? { options := options.reverse } = some command) :
    readSubcommand sub {} (longOptions options) =
      .ok
        { command
          output := Arguments.output { options := options.reverse }
          verbosity := Arguments.verbosity { options := options.reverse } } := by
  have hread : readAll (sub.options ++ commonOptions) sub.room {} (longOptions options) =
      .ok { options := options.reverse } := by
    rw [← List.append_nil (longOptions options),
      readAll_longOptions haccepts hdistinct (fun _ _ => rfl), List.append_nil, readAll]
  exact readSubcommand_of_readAll hread hcommand

/-- The name of a subcommand hands the other arguments over to it. -/
theorem ofArguments_subcommand {sub : Subcommand} {name : String} {rest : List String}
    (hlooks : looksLikeOption name = false) (hhelp : name ≠ "help")
    (hfind : subcommands.find? (·.name == name) = some sub) :
    Invocation.ofArguments (name :: rest) = readSubcommand sub {} rest := by
  rw [Invocation.ofArguments, readLeading, if_neg (by simp [hlooks]), if_neg hhelp, hfind]

/-! ## Limits -/

/-- The option for a limit, if there is one. -/
def limitOption (limit : Option Nat) : List (String × String) :=
  (limit.map fun n => ("limit", toString n)).toList

/-- A limit that is a word is accepted by every subcommand that has the option. -/
theorem accepts_limitOption {specs : List OptionSpec} {limit : Option Nat}
    (hfind : specs.find? (·.name == "limit") =
      some { name := "limit", short := some 'n',
             kind := .value fun v => (wordOfText? v.toList).isSome })
    (hlimit : ∀ n ∈ limit, n < wordBound) :
    ∀ p ∈ limitOption limit, Accepts specs p.1 p.2 := by
  intro p hp
  rw [limitOption, Option.mem_toList, Option.map_eq_some_iff] at hp
  obtain ⟨n, hn, rfl⟩ := hp
  refine Accepts.of_find "limit" (by decide) hfind rfl ?_
  rw [wordOfText?_toString (hlimit n hn)]
  rfl

end CommandLine
end DocPipe
