/-!
# What can be wrong with a JSON text

A reader that stops says why, and where.  The where is a line and a column; lines count from one,
and the column is the number of bytes of the line up to and including the one that gave offence, so
it is zero when that byte is the line break itself.

While reading, only the text that is left is at hand.  A `Fault` therefore records that rest, and by
how many bytes the offending place lies inside it; `Fault.locate` turns the pair into a line and a
column once the whole text is known.
-/

namespace DocPipe
namespace Json

-- Sums start from the numeral zero, whatever algebra is in scope.
attribute [local instance (high)] Zero.ofOfNat0

/-- Why a JSON text is refused. -/
inductive Cause where
  | endInList
  | endInObject
  | endInString
  | endInValue
  | expectedColon
  | expectedListEnd
  | expectedObjectEnd
  | unknownWord
  | expectedValue
  | badEscape
  | badNumber
  | numberTooLarge
  | controlInString
  | keyNotString
  | loneSurrogate
  | trailingComma
  | trailingText
  | unfinishedSurrogate
  | tooDeep
  deriving DecidableEq, Repr

/-- The cause in words. -/
def Cause.message : Cause → String
  | .endInList => "EOF while parsing a list"
  | .endInObject => "EOF while parsing an object"
  | .endInString => "EOF while parsing a string"
  | .endInValue => "EOF while parsing a value"
  | .expectedColon => "expected `:`"
  | .expectedListEnd => "expected `,` or `]`"
  | .expectedObjectEnd => "expected `,` or `\x7d`"
  | .unknownWord => "expected ident"
  | .expectedValue => "expected value"
  | .badEscape => "invalid escape"
  | .badNumber => "invalid number"
  | .numberTooLarge => "number out of range"
  | .controlInString => "control character (\\u0000-\\u001F) found while parsing a string"
  | .keyNotString => "key must be a string"
  | .loneSurrogate => "lone leading surrogate in hex escape"
  | .trailingComma => "trailing comma"
  | .trailingText => "trailing characters"
  | .unfinishedSurrogate => "unexpected end of hex escape"
  | .tooDeep => "recursion limit exceeded"

/-- A refusal while reading: the cause, the text left at that point, and the bytes of it that belong
to the offending place. -/
structure Fault where
  cause : Cause
  rest : List Char
  past : Nat
  deriving DecidableEq, Repr

/-- A refusal with its place in the text. -/
structure Error where
  cause : Cause
  line : Nat
  column : Nat
  deriving DecidableEq, Repr

/-- The refusal in words. -/
def Error.message (e : Error) : String :=
  e.cause.message ++ " at line " ++ toString e.line ++ " column " ++ toString e.column

/-- How many bytes a text takes up. -/
def byteCount (cs : List Char) : Nat := (cs.map Char.utf8Size).sum

/-- The line and the column after `bytes` bytes of a text, when `line` and `column` are those at its
start. -/
def advance (line column bytes : Nat) : List Char → Nat × Nat
  | [] => (line, column)
  | c :: cs =>
    if bytes = 0 then (line, column)
    else if c = '\n' then advance (line + 1) 0 (bytes - 1) cs
    else advance line (column + min bytes c.utf8Size) (bytes - c.utf8Size) cs

/-- Places a refusal in the whole text.  The offending place never lies beyond the end. -/
def Fault.locate (f : Fault) (text : List Char) : Error :=
  let (line, column) := advance 1 0 (byteCount text - byteCount f.rest + f.past) text
  ⟨f.cause, line, column⟩

end Json
end DocPipe
