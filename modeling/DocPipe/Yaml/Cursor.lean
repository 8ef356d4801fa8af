/-!
# Characters and places in a YAML text

YAML is read by lines and columns: what a character means depends on how far its line is indented.
A `Cursor` is the text that is left together with the place it begins at.

A line ends at a carriage return, a line feed, both together, or one of three separators that come
from typography.  In the text of a scalar all of them become a line feed, except the two that
separate lines and paragraphs inside a running text, which are kept.
-/

namespace DocPipe
namespace Yaml

-- Sums start from the numeral zero, whatever algebra is in scope.
attribute [local instance (high)] Zero.ofOfNat0

/-- The characters that a YAML text may contain. -/
def isAllowed (c : Char) : Bool :=
  let n := c.toNat
  n == 0x09 || n == 0x0A || n == 0x0D || (0x20 ≤ n && n ≤ 0x7E) || n == 0x85
    || (0xA0 ≤ n && n ≤ 0xFFFD) || 0x10000 ≤ n

/-- The characters that end a line. -/
def isBreak (c : Char) : Bool :=
  c == '\n' || c == '\r' || c == '\u0085' || c == '\u2028' || c == '\u2029'

/-- The characters that separate words in a line. -/
def isSpacing (c : Char) : Bool := c == ' ' || c == '\t'

/-- The characters that end a word. -/
def isGap (c : Char) : Bool := isSpacing c || isBreak c

/-- The characters of the names of anchors, handles and directives. -/
def isNameChar (c : Char) : Bool := c.isAlphanum || c == '_' || c == '-'

/-- Whether a text starts with one of the given characters. -/
def startsWith (test : Char → Bool) : List Char → Bool
  | [] => false
  | c :: _ => test c

/-- Whether a word ends here: at a gap, or at the end of the text. -/
def atGap (cs : List Char) : Bool := cs.isEmpty || startsWith isGap cs

/-- A place in a text, and the text from there on. -/
structure Cursor where
  rest : List Char
  line : Nat
  column : Nat
  /-- How many bytes stand in front. -/
  index : Nat
  deriving Repr

namespace Cursor

/-- The start of a text. -/
def start (text : List Char) : Cursor := ⟨text, 0, 0, 0⟩

/-- How many bytes the next `n` characters take up. -/
def byteCount (n : Nat) (cur : Cursor) : Nat := ((cur.rest.take n).map Char.utf8Size).sum

/-- Behind the next `n` characters, none of which ends the line. -/
def skip (n : Nat) (cur : Cursor) : Cursor :=
  { cur with
    rest := cur.rest.drop n, column := cur.column + n, index := cur.index + cur.byteCount n }

/-- Behind the characters that pass a test, none of which ends the line. -/
def skipWhile (test : Char → Bool) (cur : Cursor) : Cursor :=
  cur.skip (cur.rest.takeWhile test).length

/-- How many characters the line break here consists of. -/
def breakLength : List Char → Nat
  | '\r' :: '\n' :: _ => 2
  | _ => 1

/-- Behind the line break that stands here. -/
def skipBreak (cur : Cursor) : Cursor :=
  let n := breakLength cur.rest
  { rest := cur.rest.drop n, line := cur.line + 1, column := 0
    index := cur.index + cur.byteCount n }

/-- What the line break that stands here contributes to the text of a scalar. -/
def breakText (c : Char) : List Char := if c = '\u2028' ∨ c = '\u2029' then [c] else ['\n']

/-- Behind the blanks and the comment at the end of a line, and its break if there is one; nothing
if something else is left in the line. -/
def endLine? (cur : Cursor) : Option Cursor :=
  let cur := cur.skipWhile isSpacing
  let cur := if startsWith (· == '#') cur.rest then cur.skipWhile (!isBreak ·) else cur
  if cur.rest.isEmpty then some cur
  else if startsWith isBreak cur.rest then some cur.skipBreak
  else none

/-- Whether the line begins with three of the given character, as a word of their own. -/
def atMarker (c : Char) (cur : Cursor) : Bool :=
  cur.column == 0 && [c, c, c].isPrefixOf cur.rest && atGap (cur.rest.drop 3)

/-- Whether a document begins or ends here by a marker. -/
def atDocumentMarker (cur : Cursor) : Bool := cur.atMarker '-' || cur.atMarker '.'

/-- Skipping characters makes progress. -/
theorem length_skip_lt {cur : Cursor} {c : Char} {cs : List Char} (h : cur.rest = c :: cs)
    {n : Nat} (hn : 0 < n) : (cur.skip n).rest.length < cur.rest.length := by
  simp only [skip, List.length_drop, h, List.length_cons]
  omega

/-- Skipping a line break makes progress. -/
theorem length_skipBreak_lt {cur : Cursor} {c : Char} {cs : List Char} (h : cur.rest = c :: cs) :
    cur.skipBreak.rest.length < cur.rest.length := by
  have : 0 < breakLength cur.rest := by
    unfold breakLength
    split <;> decide
  simp only [skipBreak, List.length_drop, h, List.length_cons] at *
  omega

end Cursor
end Yaml
end DocPipe
