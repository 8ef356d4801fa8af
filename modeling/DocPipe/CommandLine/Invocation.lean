import DocPipe.Input
import DocPipe.Pipeline

/-!
# What the program is asked to do

There are five subcommands, and they come down to three things: to print what a pipeline makes of a
document, to hand its lines to a shell, and to check its texts without a document.  `select` and
`filter` are pipelines without a template, and `run` without `--exec` is `template` under another
name.
-/

namespace DocPipe
namespace CommandLine

/-- How results and errors are written. -/
inductive Style where
  | text
  | json
  deriving DecidableEq, Repr

/-- How results and errors are written, and whether they are at all. -/
structure Output where
  style : Style := .text
  quiet : Bool := false
  deriving DecidableEq, Repr

/-- Where the document comes from, standard input unless a file is named, and the format that has
been declared for it. -/
structure Source where
  file : Option String := none
  declared : Option Format := none
  deriving DecidableEq, Repr

/-- How lines are executed. -/
structure Execution where
  /-- The shell that has been asked for. -/
  shell : Option String := none
  /-- Whether a line is executed even though one in front of it has failed. -/
  keepGoing : Bool := false
  deriving DecidableEq, Repr

/-- What the program is asked to do. -/
inductive Command where
  | print (pipeline : Pipeline) (source : Source)
  | execute (pipeline : Pipeline) (execution : Execution) (source : Source)
  | check (pipeline : Pipeline)
  deriving DecidableEq, Repr

/-- What the program is asked to do, and how it is to talk about it. -/
structure Invocation where
  command : Command
  output : Output := {}
  /-- How often more detail has been asked for. -/
  verbosity : Nat := 0
  deriving DecidableEq, Repr

end CommandLine
end DocPipe
