import DocPipe.Text.DecimalDigit
import DocPipe.Text.Quoted
import DocPipe.Value.Text

/-!
# The literals of a filter

A literal is what a field is compared with: a quoted string, or one of the bare words that denote a
number, a truth value or null.

A word has to pass twice to be a number.  It has to have the shape of one,

    -?\d+(\.\d+)?([eE][+-]?\d+)?

where a digit may come from any script; so `inf`, a leading plus or a trailing point do not count.
And it has to be read as a binary64 number, for which only ASCII digits will do.
-/

namespace DocPipe
namespace Filter

/-- The right-hand side of a comparison. -/
inductive Literal where
  | number (x : Binary64)
  | string (s : String)
  | bool (b : Bool)
  | null
  deriving DecidableEq, Repr

namespace Literal

/-- The text of a literal, as it is compared with the text of a value. -/
def text : Literal → String
  | .number x => String.ofList x.plainText
  | .string s => s
  | .bool b => Value.boolText b
  | .null => "null"

/-- The literal as it is written in a filter. -/
def written : Literal → String
  | .string s => Text.quoted s
  | l => l.text

/-- What follows the digits at the start of a text, which has to start with one. -/
def skipDigits? : List Char → Option (List Char)
  | [] => none
  | c :: cs => if Text.isDecimalDigit c then some (cs.dropWhile Text.isDecimalDigit) else none

/-- What follows a point and the digits behind it; a text without a point is left as it is. -/
def skipFraction? : List Char → Option (List Char)
  | '.' :: cs => skipDigits? cs
  | cs => some cs

/-- What follows an exponent; a text without an `e` is left as it is. -/
def skipExponent? : List Char → Option (List Char)
  | [] => some []
  | c :: cs => if c = 'e' ∨ c = 'E' then skipDigits? (Numeral.splitSign cs).2 else some (c :: cs)

/-- The text behind one minus sign. -/
def dropMinus : List Char → List Char
  | '-' :: cs => cs
  | cs => cs

/-- Whether a word has the shape of a number, with digits of any script. -/
def looksLikeNumber (word : List Char) : Bool :=
  ((skipDigits? (dropMinus word)).bind skipFraction?).bind skipExponent? = some []

/-- The number that a bare word denotes. -/
def numberOfWord? (word : List Char) : Option Binary64 :=
  if looksLikeNumber word then Binary64.ofText? word else none

/-- The literal that a bare word denotes. -/
def ofWord? (word : String) : Option Literal :=
  if word = "true" then some (.bool true)
  else if word = "false" then some (.bool false)
  else if word = "null" then some .null
  else (numberOfWord? word.toList).map .number

end Literal
end Filter
end DocPipe
