import DocPipe.Text.HexDigit
import DocPipe.Yaml.Cursor
import DocPipe.Yaml.Error

/-!
# Plain and quoted scalars

A plain or a quoted scalar may run over several lines, and is then folded: a single line break
becomes a space, further ones stay, and the blanks around them go.  What stands between two words is
collected as a `Gap`, and folded when the next word shows that the scalar goes on.

In double quotes a backslash begins an escape, and one at the end of a line joins the lines without
a space.
-/

namespace DocPipe
namespace Yaml

/-- What stands between two words of a scalar. -/
structure Gap where
  /-- The blanks, as long as there is no line break. -/
  blanks : List Char := []
  /-- What the first line break contributes; an escaped one contributes nothing. -/
  first : Option (List Char) := none
  /-- What the other line breaks contribute. -/
  others : List Char := []
  deriving Repr

namespace Gap

/-- Whether a line ends in the gap. -/
def breaksLine (gap : Gap) : Bool := gap.first.isSome

/-- Whether there is no gap. -/
def isNothing (gap : Gap) : Bool := gap.blanks.isEmpty && gap.first.isNone

/-- The gap with another blank.  Blanks around line breaks do not count. -/
def addBlank (gap : Gap) (c : Char) : Gap :=
  if gap.breaksLine then gap else { gap with blanks := gap.blanks ++ [c] }

/-- The gap with another line break. -/
def addBreak (gap : Gap) (c : Char) : Gap :=
  if gap.breaksLine then { gap with others := gap.others ++ Cursor.breakText c }
  else { gap with first := some (Cursor.breakText c) }

/-- What a gap contributes to the text of a scalar. -/
def folded (gap : Gap) : List Char :=
  match gap.first with
  | none => gap.blanks
  | some ['\n'] => if gap.others.isEmpty then [' '] else gap.others
  | some first => first ++ gap.others

end Gap

/-- The characters that delimit flow collections. -/
def isFlowIndicator (c : Char) : Bool :=
  c == ',' || c == '[' || c == ']' || c == '\x7b' || c == '\x7d'

/-! ## Plain scalars -/

/-- Whether a plain scalar cannot go on behind a gap: the indentation is too small, a document
begins or ends, or a comment begins. -/
def plainEndsBehind (inFlow : Bool) (indent : Nat) (gap : Gap) (cur : Cursor) : Bool :=
  (!gap.isNothing && ((!inFlow && cur.column < indent) || startsWith (· == '#') cur.rest))
    || cur.atDocumentMarker

/-- Whether a plain scalar ends at an indicator. -/
def plainEndsAt (inFlow : Bool) (c : Char) (rest : List Char) : Bool :=
  (c == ':' && atGap rest) || (inFlow && isFlowIndicator c)

/-- Whether a colon stands in a flow collection where it could mean either thing. -/
def isAmbiguousColon (inFlow : Bool) (c : Char) (rest : List Char) : Bool :=
  inFlow && c == ':' && startsWith (fun d => isFlowIndicator d || d == '?') rest

/-- The text of a plain scalar, whether the last gap in it ends a line, and the place behind it.
`indent` is the least column at which a further line may begin.  What has been read comes in
reverse. -/
def plainScalar (inFlow : Bool) (indent : Nat) (text : List Char) (gap : Gap) (cur : Cursor) :
    Except Error (List Char × Bool × Cursor) :=
  match _h : cur.rest with
  | [] => .ok (text.reverse, gap.breaksLine, cur)
  | c :: rest =>
    if isSpacing c then
      if gap.breaksLine && cur.column < indent && c == '\t' then .error .tabIndentation
      else plainScalar inFlow indent text (gap.addBlank c) (cur.skip 1)
    else if isBreak c then plainScalar inFlow indent text (gap.addBreak c) cur.skipBreak
    else if plainEndsBehind inFlow indent gap cur then .ok (text.reverse, gap.breaksLine, cur)
    else if isAmbiguousColon inFlow c rest then .error (.unexpectedCharacter c)
    else if plainEndsAt inFlow c rest then .ok (text.reverse, gap.breaksLine, cur)
    else plainScalar inFlow indent (c :: (gap.folded.reverse ++ text)) {} (cur.skip 1)
termination_by cur.rest.length
decreasing_by
  · exact Cursor.length_skip_lt _h (by decide)
  · exact Cursor.length_skipBreak_lt _h
  · exact Cursor.length_skip_lt _h (by decide)

/-! ## Quoted scalars -/

/-- The character that a short escape stands for. -/
def shortEscape? : Char → Option Char
  | '0' => some '\x00'
  | 'a' => some '\x07'
  | 'b' => some '\x08'
  | 't' => some '\t'
  | '\t' => some '\t'
  | 'n' => some '\n'
  | 'v' => some '\x0b'
  | 'f' => some '\x0c'
  | 'r' => some '\r'
  | 'e' => some '\x1b'
  | ' ' => some ' '
  | '"' => some '"'
  | '/' => some '/'
  | '\\' => some '\\'
  | 'N' => some '\u0085'
  | '_' => some '\u00a0'
  | 'L' => some '\u2028'
  | 'P' => some '\u2029'
  | _ => none

/-- How many hexadecimal digits follow the letter of an escape by code point. -/
def escapeDigits? : Char → Option Nat
  | 'x' => some 2
  | 'u' => some 4
  | 'U' => some 8
  | _ => none

/-- The character with the given code point, if there is one. -/
def charOfCodePoint? (n : Nat) : Option Char :=
  if n.isValidChar then some (Char.ofNat n) else none

/-- The character that the escape behind a backslash stands for, and the length of the escape. -/
def escaped? : List Char → Option (Char × Nat)
  | [] => none
  | c :: rest =>
    match escapeDigits? c with
    | none => (shortEscape? c).map (·, 1)
    | some n =>
      if (rest.take n).length < n then none
      else ((Text.numberIn? 16 (rest.take n)).bind charOfCodePoint?).map (·, n + 1)

/-- The text of a quoted scalar from behind its opening quote, and the place behind the closing one.
What has been read comes in reverse. -/
def quotedScalar (quote : Char) (text : List Char) (gap : Gap) (cur : Cursor) :
    Except Error (List Char × Cursor) :=
  match _h : cur.rest with
  | [] => .error .unterminatedScalar
  | c :: rest =>
    let soFar := gap.folded.reverse ++ text
    if cur.atDocumentMarker then .error .unterminatedScalar
    else if isSpacing c then quotedScalar quote text (gap.addBlank c) (cur.skip 1)
    else if isBreak c then quotedScalar quote text (gap.addBreak c) cur.skipBreak
    else if c == quote then
      if quote == '\'' && startsWith (· == '\'') rest then
        quotedScalar quote ('\'' :: soFar) {} (cur.skip 2)
      else .ok (soFar.reverse, cur.skip 1)
    else if quote == '"' && c == '\\' then
      if startsWith isBreak rest then
        quotedScalar quote soFar { first := some [] } (cur.skip 1).skipBreak
      else match escaped? rest with
        | none => .error .unknownEscape
        | some (d, n) => quotedScalar quote (d :: soFar) {} (cur.skip (n + 1))
    else quotedScalar quote (c :: soFar) {} (cur.skip 1)
termination_by cur.rest.length
decreasing_by
  · exact Cursor.length_skip_lt _h (by decide)
  · exact Cursor.length_skipBreak_lt _h
  · exact Cursor.length_skip_lt _h (by decide)
  · refine Nat.lt_of_le_of_lt ?_ (Cursor.length_skip_lt _h (Nat.one_pos))
    simp [Cursor.skipBreak]
  · exact Cursor.length_skip_lt _h (Nat.succ_pos _)
  · exact Cursor.length_skip_lt _h (by decide)

end Yaml
end DocPipe
