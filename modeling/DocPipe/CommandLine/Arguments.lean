import DocPipe.CommandLine.Invocation
import DocPipe.Number.Word

/-!
# Reading the arguments

    [-v]... select PATH [options]
    [-v]... filter EXPR [options]
    [-v]... template TEMPLATE [options]
    [-v]... run -t TEMPLATE [options]
    [-v]... check [--path PATH] [--filter EXPR] [--template TEMPLATE]

Options stand anywhere behind the subcommand.  A long option takes its value behind an equals sign
or from the next argument; a short one also directly behind its letter, and short ones without a
value can be joined.  A value from the next argument must not itself look like an option.  Behind
`--` everything is taken as it is.

Arguments are read from the left, and the first thing that ends the reading counts, be it a request
for help or a mistake.  What is missing shows only at the end.
-/

namespace DocPipe
namespace CommandLine

/-- What can end the reading of arguments early. -/
inductive Stop where
  | usage
  | help
  | version
  deriving DecidableEq, Repr

/-- What an option does. -/
inductive OptionKind where
  /-- It is given or not. -/
  | flag
  /-- It can be given several times. -/
  | count
  /-- It has a value, which has to pass a test. -/
  | value (accepts : String → Bool)
  /-- It ends the reading. -/
  | stop (reason : Stop)

/-- An option and its names. -/
structure OptionSpec where
  name : String
  short : Option Char := none
  kind : OptionKind

/-- The arguments read so far: options with their values, and the other arguments, each in
reverse. -/
structure Arguments where
  options : List (String × String) := []
  operands : List String := []
  deriving Repr

namespace Arguments

/-- Whether an option is given. -/
def has (args : Arguments) (name : String) : Bool := (args.options.lookup name).isSome

/-- The value of an option. -/
def value? (args : Arguments) (name : String) : Option String := args.options.lookup name

/-- Adds an option.  Only one that is counted can be added twice. -/
def add (args : Arguments) (spec : OptionSpec) (value : String) : Except Stop Arguments :=
  let added := { args with options := (spec.name, value) :: args.options }
  match spec.kind with
  | .stop reason => .error reason
  | .count => .ok added
  | .flag => if args.has spec.name then .error .usage else .ok added
  | .value accepts =>
    if args.has spec.name || !accepts value then .error .usage else .ok added

/-- Adds an argument that is no option, if there is room for it. -/
def addOperand (args : Arguments) (room : Nat) (operand : String) : Except Stop Arguments :=
  if args.operands.length < room then .ok { args with operands := operand :: args.operands }
  else .error .usage

end Arguments

/-- Whether an option takes a value. -/
def OptionKind.takesValue : OptionKind → Bool
  | .value _ => true
  | _ => false

/-- Whether an argument looks like an option; a dash alone does not. -/
def looksLikeOption (arg : String) : Bool :=
  match arg.toList with
  | '-' :: _ :: _ => true
  | _ => false

/-- The value behind an equals sign. -/
def afterEqual? : List Char → Option (List Char)
  | '=' :: cs => some cs
  | _ => none

/-- Adds an option whose value, if it takes one, is attached or is the next argument; with whether
the next argument has been used. -/
def addOption (args : Arguments) (spec : OptionSpec) (attached : Option (List Char))
    (next : Option String) : Except Stop (Arguments × Bool) :=
  match spec.kind.takesValue, attached, next with
  | false, none, _ => (args.add spec "").map (·, false)
  | false, some _, _ => .error .usage
  | true, some value, _ => (args.add spec (String.ofList value)).map (·, false)
  | true, none, some value =>
    if looksLikeOption value then .error .usage else (args.add spec value).map (·, true)
  | true, none, none => .error .usage

/-- Reads a long option from behind its dashes. -/
def readLong (specs : List OptionSpec) (args : Arguments) (body : List Char)
    (next : Option String) : Except Stop (Arguments × Bool) :=
  let name := String.ofList (body.takeWhile (· != '='))
  match specs.find? (·.name == name) with
  | none => .error .usage
  | some spec => addOption args spec (afterEqual? (body.dropWhile (· != '='))) next

/-- Reads short options from behind their dash. -/
def readShort (specs : List OptionSpec) (args : Arguments) (next : Option String) :
    List Char → Except Stop (Arguments × Bool)
  | [] => .ok (args, false)
  | c :: cs =>
    match specs.find? (·.short == some c) with
    | none => .error .usage
    | some spec =>
      if spec.kind.takesValue then
        addOption args spec (if cs.isEmpty then none else some ((afterEqual? cs).getD cs)) next
      else
        match args.add spec "" with
        | .error reason => .error reason
        | .ok args => readShort specs args next cs

/-- Reads an argument that looks like an option. -/
def readOption (specs : List OptionSpec) (args : Arguments) (arg : String) (next : Option String) :
    Except Stop (Arguments × Bool) :=
  match arg.toList with
  | '-' :: '-' :: body => readLong specs args body next
  | _ :: letters => readShort specs args next letters
  | [] => .error .usage

/-- Reads the arguments of a subcommand, which has room for some that are no options. -/
def readAll (specs : List OptionSpec) (room : Nat) (args : Arguments) (rest : List String) :
    Except Stop Arguments :=
  match rest with
  | [] => .ok args
  | arg :: rest =>
    if arg = "--" then rest.foldlM (·.addOperand room ·) args
    else if looksLikeOption arg then
      match readOption specs args arg rest.head? with
      | .error reason => .error reason
      | .ok (args, usesNext) => readAll specs room args (if usesNext then rest.tail else rest)
    else
      match args.addOperand room arg with
      | .error reason => .error reason
      | .ok args => readAll specs room args rest
termination_by rest.length
decreasing_by
  all_goals simp only [List.length_cons]
  · split
    · rw [List.length_tail]
      omega
    · exact Nat.lt_succ_self _
  · exact Nat.lt_succ_self _

/-! ## Options -/

/-- An option with any value. -/
def textOption (name : String) (short : Option Char) : OptionSpec :=
  { name, short, kind := .value fun _ => true }

/-- An option whose value is one of the given words. -/
def choiceOption (name : String) (choices : List String) : OptionSpec :=
  { name, kind := .value choices.contains }

/-- An option without a value. -/
def flagOption (name : String) (short : Option Char) : OptionSpec := { name, short, kind := .flag }

/-- The options that may stand anywhere. -/
def commonOptions : List OptionSpec :=
  [{ name := "help", short := some 'h', kind := .stop .help },
    { name := "verbose", short := some 'v', kind := .count }]

/-- The options in front of the subcommand. -/
def leadingOptions : List OptionSpec :=
  { name := "version", short := some 'V', kind := .stop .version } :: commonOptions

/-- The options on how to write. -/
def outputOptions : List OptionSpec :=
  [choiceOption "format" ["text", "json"], flagOption "quiet" (some 'q')]

/-- The options on where the document comes from. -/
def sourceOptions : List OptionSpec :=
  [{ name := "input", short := some 'i', kind := .value (· != "") },
    choiceOption "input-format" ["auto", "json", "yaml"]]

/-- The options on the stages in front of the template. -/
def stageOptions : List OptionSpec :=
  [textOption "select" (some 's'), textOption "filter" (some 'f'),
    { name := "limit", short := some 'n', kind := .value fun v => (wordOfText? v.toList).isSome }]

/-- The options on executing lines. -/
def executionOptions : List OptionSpec :=
  [flagOption "exec" none, textOption "shell" none, flagOption "keep-going" none]

namespace Arguments

/-- How to write. -/
def output (args : Arguments) : Output :=
  { style := if args.value? "format" = some "json" then .json else .text
    quiet := args.has "quiet" }

/-- Where the document comes from.  A dash names standard input. -/
def source (args : Arguments) : Source :=
  { file := (args.value? "input").filter (· != "-")
    declared :=
      match args.value? "input-format" with
      | some "json" => some .json
      | some "yaml" => some .yaml
      | _ => none }

/-- The pipeline of the stages in front of the template. -/
def stages (args : Arguments) : Pipeline :=
  { select := (args.value? "select").getD ""
    filter := (args.value? "filter").getD ""
    limit := (args.value? "limit").bind fun v => wordOfText? v.toList }

/-- How to execute lines, if that is asked for. -/
def execution? (args : Arguments) : Option Execution :=
  if args.has "exec" then
    some { shell := args.value? "shell", keepGoing := args.has "keep-going" }
  else none

/-- How often more detail is asked for. -/
def verbosity (args : Arguments) : Nat := args.options.countP (·.1 == "verbose")

end Arguments

/-! ## Subcommands -/

/-- A subcommand: its options, how many other arguments it has room for, and what it asks for,
unless something is missing. -/
structure Subcommand where
  name : String
  options : List OptionSpec
  room : Nat
  command? : Arguments → Option Command

/-- `select PATH` -/
def selectCommand : Subcommand where
  name := "select"
  options := sourceOptions ++ outputOptions
  room := 1
  command? args := args.operands.head?.map fun path => .print { select := path } args.source

/-- `filter EXPR`, which stands in for the option of the same name. -/
def filterCommand : Subcommand where
  name := "filter"
  options := stageOptions ++ sourceOptions ++ outputOptions
  room := 1
  command? args := args.operands.head?.map fun filter =>
    .print { args.stages with filter } args.source

/-- `template TEMPLATE` -/
def templateCommand : Subcommand where
  name := "template"
  options := stageOptions ++ sourceOptions ++ outputOptions
  room := 1
  command? args := args.operands.head?.map fun template =>
    .print { args.stages with template := some template } args.source

/-- `run -t TEMPLATE` -/
def runCommand : Subcommand where
  name := "run"
  options :=
    textOption "template" (some 't') :: stageOptions ++ executionOptions ++ sourceOptions
      ++ outputOptions
  room := 0
  command? args := (args.value? "template").map fun template =>
    let pipeline := { args.stages with template := some template }
    match args.execution? with
    | none => .print pipeline args.source
    | some execution => .execute pipeline execution args.source

/-- `check` -/
def checkCommand : Subcommand where
  name := "check"
  options :=
    [textOption "path" none, textOption "filter" none, textOption "template" none] ++ outputOptions
  room := 0
  command? args := some <| .check
    { select := (args.value? "path").getD "", filter := (args.value? "filter").getD ""
      template := args.value? "template" }

/-- The subcommands. -/
def subcommands : List Subcommand :=
  [selectCommand, filterCommand, templateCommand, runCommand, checkCommand]

/-- What a subcommand with the given arguments asks for. -/
def readSubcommand (sub : Subcommand) (leading : Arguments) (rest : List String) :
    Except Stop Invocation :=
  match readAll (sub.options ++ commonOptions) sub.room {} rest with
  | .error reason => .error reason
  | .ok args =>
    match sub.command? args with
    | none => .error .usage
    | some command =>
      .ok { command, output := args.output, verbosity := leading.verbosity + args.verbosity }

/-- A request for help on a subcommand, or on all. -/
def readHelp : List String → Stop
  | [] => .help
  | [name] => if name = "help" ∨ subcommands.any (·.name == name) then .help else .usage
  | _ => .usage

/-- What the arguments behind some leading options ask for. -/
def readLeading (leading : Arguments) (rest : List String) : Except Stop Invocation :=
  match rest with
  | [] => .error .usage
  | arg :: rest =>
    if looksLikeOption arg then
      match readOption leadingOptions leading arg none with
      | .error reason => .error reason
      | .ok (leading, _) => readLeading leading rest
    else if arg = "help" then .error (readHelp rest)
    else
      match subcommands.find? (·.name == arg) with
      | none => .error .usage
      | some sub => readSubcommand sub leading rest

/-- What the arguments of the program ask for. -/
def Invocation.ofArguments (args : List String) : Except Stop Invocation := readLeading {} args

end CommandLine
end DocPipe
