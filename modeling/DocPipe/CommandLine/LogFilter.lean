/-!
# Which warnings are shown

Warnings can be turned off by an environment variable.  It holds directives with commas between
them: a level, which goes for everything, or a source and a level, which goes for what comes from
sources whose names begin that way.  Of the directives that go for a source, the one that names it
most closely counts.

A variable that is not set, or does not make sense, leaves the level to the options.
-/

namespace DocPipe
namespace CommandLine

/-- How much is shown: of warnings, everything from `warning` on. -/
inductive Level where
  | off
  | error
  | warning
  | info
  | debug
  | trace
  deriving DecidableEq, Repr

namespace Level

/-- Whether warnings are shown. -/
def showsWarnings : Level → Bool
  | .off | .error => false
  | _ => true

/-- The level that a word or a digit denotes. -/
def ofWord? (word : List Char) : Option Level :=
  match String.ofList (word.map Char.toLower) with
  | "off" | "0" => some .off
  | "error" | "1" => some .error
  | "warn" | "2" => some .warning
  | "info" | "3" => some .info
  | "debug" | "4" => some .debug
  | "trace" | "5" => some .trace
  | _ => none

/-- The level when more detail has been asked for a number of times. -/
def ofVerbosity : Nat → Level
  | 0 => .warning
  | 1 => .info
  | 2 => .debug
  | _ => .trace

end Level

/-- A level for the sources whose names begin in a certain way. -/
structure Directive where
  source : List Char := []
  level : Level
  deriving DecidableEq, Repr

namespace Directive

/-- The characters of the names of sources. -/
def isSourceChar (c : Char) : Bool := c.isAlphanum || c == '_' || c == ':' || c == '-'

/-- The directive that a text denotes.  A source without a level is shown in all detail. -/
def ofText? (text : List Char) : Option Directive :=
  match Level.ofWord? text with
  | some level => some { level }
  | none =>
    let source := text.takeWhile isSourceChar
    if source = [] then none
    else match text.dropWhile isSourceChar with
      | [] => some { source, level := .trace }
      | '=' :: word => (Level.ofWord? word).map fun level => { source, level }
      | _ => none

/-- Whether the directive goes for a source. -/
def goesFor (d : Directive) (source : String) : Bool := d.source.isPrefixOf source.toList

end Directive

/-- Directives, of which the most specific one counts and the last of equals. -/
abbrev LogFilter := List Directive

namespace LogFilter

/-- The parts of a text between commas. -/
def splitAtCommas : List Char → List (List Char)
  | [] => [[]]
  | c :: cs =>
    if c = ',' then [] :: splitAtCommas cs
    else match splitAtCommas cs with
      | [] => [[c]]
      | part :: parts => (c :: part) :: parts

/-- The directives that a text holds.  None at all means that only errors are shown. -/
def ofText? (text : String) : Option LogFilter :=
  let parts := (splitAtCommas text.toList).filter (· != [])
  if parts.isEmpty then some [{ level := .error }] else parts.mapM Directive.ofText?

/-- The more specific of two directives, and the second of equals. -/
def closer (best : Option Directive) (d : Directive) : Option Directive :=
  match best with
  | none => some d
  | some b => if b.source.length ≤ d.source.length then some d else some b

/-- Whether warnings from a source are shown. -/
def showsWarnings (filter : LogFilter) (source : String) : Bool :=
  ((filter.filter (·.goesFor source)).foldl closer none).any (·.level.showsWarnings)

/-- The filter for a setting of the variable and a verbosity. -/
def ofSetting (setting : Option String) (verbosity : Nat) : LogFilter :=
  (setting.bind ofText?).getD [{ level := .ofVerbosity verbosity }]

/-- When no variable is set, warnings are shown at any verbosity. -/
theorem showsWarnings_of_unset (verbosity : Nat) (source : String) :
    (ofSetting none verbosity).showsWarnings source = true := by
  have h : (Level.ofVerbosity verbosity).showsWarnings = true := by
    unfold Level.ofVerbosity
    split <;> rfl
  simp [ofSetting, showsWarnings, Directive.goesFor, closer, h]

end LogFilter
end CommandLine
end DocPipe
