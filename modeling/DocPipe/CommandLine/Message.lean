import DocPipe.CommandLine.LogFilter

/-!
# What the program says

Results go to standard output, and everything else to standard error: warnings, error messages, and
what executed lines write there.  Warnings have a source, and the log filter decides by it whether
they are shown.

A warning can quote what it is about, and a terminal would act on some of the characters in that.
So the text of a warning spells these characters out; its details and everything else stay as they
are.
-/

namespace DocPipe
namespace CommandLine

/-- A message on standard error. -/
inductive Message where
  /-- A warning: where it comes from, what it says, and details by name. -/
  | warning (source : String) (text : String) (details : List (String × String))
  /-- A line of text. -/
  | line (text : String)
  /-- What an executed line has written. -/
  | output (text : String)
  deriving DecidableEq, Repr

/-- The controls below U+0080 that a terminal acts upon other than by moving on: the bell, the
backspace, the form feed, the escape and the delete. -/
def terminalControls : List Char := ['\x07', '\x08', '\x0c', '\x1b', '\x7f']

/-- A character as it is written in the text of a warning. -/
def spelledOut (c : Char) : List Char :=
  let digits := Nat.toDigits 16 c.toNat
  if terminalControls.contains c then
    ['\\', 'x'] ++ List.replicate (2 - digits.length) '0' ++ digits
  else if 0x80 ≤ c.toNat ∧ c.toNat ≤ 0x9F then ['\\', 'u', '\x7b'] ++ digits ++ ['\x7d']
  else [c]

/-- The text of a warning. -/
def warningText (text : String) : String := String.ofList (text.toList.flatMap spelledOut)

/-- A detail of a warning. -/
def detailText (detail : String × String) : String := " " ++ detail.1 ++ "=" ++ detail.2

/-- The message as it is written. -/
def Message.text : Message → String
  | .warning _ text details =>
    "WARN " ++ warningText text ++ String.join (details.map detailText) ++ "\n"
  | .line text => text ++ "\n"
  | .output text => text

/-- Whether a log filter lets a message through. -/
def Message.isShown (filter : LogFilter) : Message → Bool
  | .warning source _ _ => filter.showsWarnings source
  | _ => true

end CommandLine
end DocPipe
