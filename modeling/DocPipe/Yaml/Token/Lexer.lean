import DocPipe.Yaml.Token.BlockScalar
import DocPipe.Yaml.Token.FlowScalar
import DocPipe.Yaml.Token.Tag

/-!
# Reading the tokens of a YAML text

Two things make this more than cutting a text into words.

**Indentation.**  Block collections begin where a line is indented further than what is around it,
and end where one is indented less.  The lexer keeps the columns of the collections that are open,
and puts in the marks for their ends as soon as a token stands further left.  Inside brackets and
braces indentation means nothing.

**Keys.**  A key need not be announced; that something was one shows only at the colon behind it.
So the lexer remembers, for each level of brackets, the last place at which a key could have begun,
and when a colon follows, the mark for the key is inserted there.  The key and its colon have to be
in one line, and the colon not more than 1024 bytes behind the beginning of the key.  A place that
begins a line of a block mapping *must* turn out to be a key, since nothing else can stand there.

Every step consumes some of the text, so a step for each character is enough to read all of it.
-/

namespace DocPipe
namespace Yaml

/-- A place at which a key may have begun. -/
structure KeyStart where
  /-- How many tokens stand in front. -/
  position : Nat
  /-- Whether nothing but a key can stand there. -/
  required : Bool
  line : Nat
  column : Nat
  index : Nat
  deriving Repr

/-- The state of the lexer. -/
structure Lexer where
  cursor : Cursor
  /-- The tokens that have been read, the last one first. -/
  tokens : List Token := []
  /-- How many tokens have been read. -/
  count : Nat := 0
  /-- The columns of the open block collections, the innermost first. -/
  indents : List Nat := []
  /-- Where a key may have begun. -/
  keyStart : Option KeyStart := none
  /-- The same for the levels of brackets outside the current one. -/
  outerKeyStarts : List (Option KeyStart) := []
  /-- Whether a key may begin here. -/
  keyAllowed : Bool := true
  deriving Repr

namespace Lexer

/-- Whether the place is inside brackets or braces. -/
def inFlow (s : Lexer) : Bool := !s.outerKeyStarts.isEmpty

/-- The column of the innermost block collection. -/
def indent? (s : Lexer) : Option Nat := s.indents.head?

/-- Whether a column lies further right than the innermost block collection. -/
def isIndented (s : Lexer) (column : Nat) : Bool := s.indent?.all (· < column)

/-- Appends a token. -/
def emit (s : Lexer) (token : Token) : Lexer :=
  { s with tokens := token :: s.tokens, count := s.count + 1 }

/-- Inserts a token behind the first `position` ones. -/
def insert (s : Lexer) (position : Nat) (token : Token) : Lexer :=
  { s with tokens := s.tokens.insertIdx (s.count - position) token, count := s.count + 1 }

/-- Appends the token that the next `n` characters are. -/
def take (s : Lexer) (n : Nat) (token : Token) : Lexer :=
  { s.emit token with cursor := s.cursor.skip n }

/-! ## Indentation -/

/-- Closes the block collections for which a test on their columns holds, from the innermost out. -/
def closeBlocks (s : Lexer) (test : Nat → Bool) : Lexer :=
  let closed := (s.indents.takeWhile test).length
  if s.inFlow then s
  else { s with
    indents := s.indents.drop closed
    tokens := List.replicate closed .blockEnd ++ s.tokens
    count := s.count + closed }

/-- Opens a block collection, unless one is open at that column; its mark goes to a position among
the tokens. -/
def openBlock (s : Lexer) (column position : Nat) (token : Token) : Lexer :=
  if !s.inFlow && s.isIndented column then
    { s.insert position token with indents := column :: s.indents }
  else s

/-- Opens a block collection here. -/
def openBlockHere (s : Lexer) (token : Token) : Lexer :=
  s.openBlock s.cursor.column s.count token

/-! ## Keys -/

/-- Gives up the place at which a key may have begun. -/
def dropKey (s : Lexer) : Except Error Lexer :=
  match s.keyStart with
  | some start => if start.required then .error .missingColon else .ok { s with keyStart := none }
  | none => .ok s

/-- Remembers this place as one at which a key may begin, if one may; none may behind it. -/
def noteKey (s : Lexer) : Except Error Lexer := do
  if !s.keyAllowed then return s
  let required := !s.inFlow && s.indent? == some s.cursor.column
  let s ← s.dropKey
  return { s with
    keyStart := some ⟨s.count, required, s.cursor.line, s.cursor.column, s.cursor.index⟩ }

/-- Whether the text has gone on too far for something to be a key. -/
def isStale (cur : Cursor) (start : KeyStart) : Bool :=
  start.line < cur.line || start.index + 1024 < cur.index

/-- Forgets the place if it has become too distant.  Those of the levels outside wait until their
level is the current one again. -/
def freshKey (s : Lexer) : Except Error Lexer :=
  match s.keyStart with
  | some start => if isStale s.cursor start then s.dropKey else .ok s
  | none => .ok s

/-! ## Tokens -/

/-- The next place that is neither blank nor in a comment.  A tab counts as blank only where it
cannot be taken for indentation. -/
def skipBlanks (inFlow keyAllowed : Bool) (cur : Cursor) : Bool × Cursor :=
  match _h : cur.rest with
  | [] => (keyAllowed, cur)
  | c :: _ =>
    if c == ' ' || (c == '\t' && (inFlow || !keyAllowed)) || (c == '\ufeff' && cur.column == 0) then
      skipBlanks inFlow keyAllowed (cur.skip 1)
    else if c == '#' then
      skipBlanks inFlow keyAllowed (cur.skip ((cur.rest.tail.takeWhile (!isBreak ·)).length + 1))
    else if isBreak c then skipBlanks inFlow (keyAllowed || !inFlow) cur.skipBreak
    else (keyAllowed, cur)
termination_by cur.rest.length
decreasing_by
  · exact Cursor.length_skip_lt _h (by decide)
  · exact Cursor.length_skip_lt _h (Nat.succ_pos _)
  · exact Cursor.length_skipBreak_lt _h

/-- At the end of the text everything is closed. -/
def close (s : Lexer) : Except Error Lexer := (s.closeBlocks fun _ => true).dropKey

/-- A directive. -/
def lexDirective (s : Lexer) : Except Error Lexer := do
  let s ← s.close
  let (token, cursor) ← directive (s.cursor.skip 1)
  return { s.emit token with cursor, keyAllowed := false }

/-- The marker of the beginning or the end of a document. -/
def lexMarker (s : Lexer) (token : Token) : Except Error Lexer := do
  let s ← s.close
  return { s.take 3 token with keyAllowed := false }

/-- An opening bracket or brace, which may be the beginning of a key, and behind which keys may
begin. -/
def lexOpening (s : Lexer) (token : Token) : Except Error Lexer := do
  let s ← s.noteKey
  return { s.take 1 token with
    outerKeyStarts := s.keyStart :: s.outerKeyStarts, keyStart := none, keyAllowed := true }

/-- A closing bracket or brace. -/
def lexClosing (s : Lexer) (token : Token) : Except Error Lexer := do
  let s ← s.dropKey
  return { s.take 1 token with
    keyStart := s.outerKeyStarts.headD none
    outerKeyStarts := s.outerKeyStarts.tail
    keyAllowed := false }

/-- A comma. -/
def lexComma (s : Lexer) : Except Error Lexer := do
  let s ← s.dropKey
  return { s.take 1 .flowEntry with keyAllowed := true }

/-- In a block, the indicator of an entry has to stand where a key may, and opens a collection. -/
def enterBlock (s : Lexer) (indicator : Char) (token : Token) : Except Error Lexer :=
  if s.inFlow then .ok s
  else if s.keyAllowed then .ok (s.openBlockHere token)
  else .error (.misplacedIndicator indicator)

/-- A dash. -/
def lexDash (s : Lexer) : Except Error Lexer := do
  let s ← s.enterBlock '-' .blockSequenceStart
  let s ← s.dropKey
  return { s.take 1 .blockEntry with keyAllowed := true }

/-- A question mark, which announces a key. -/
def lexQuestion (s : Lexer) : Except Error Lexer := do
  let s ← s.enterBlock '?' .blockMappingStart
  let s ← s.dropKey
  return { s.take 1 .key with keyAllowed := !s.inFlow }

/-- A colon: behind something that turns out to be a key, or behind a key that was announced. -/
def lexColon (s : Lexer) : Except Error Lexer := do
  match s.keyStart with
  | some start =>
    let s := (s.insert start.position .key).openBlock start.column start.position .blockMappingStart
    return { s.take 1 .value with keyStart := none, keyAllowed := false }
  | none =>
    let s ← s.enterBlock ':' .blockMappingStart
    return { s.take 1 .value with keyAllowed := !s.inFlow }

/-- An alias or an anchor. -/
def lexAnchor (s : Lexer) (token : String → Token) : Except Error Lexer := do
  let s ← s.noteKey
  let (name, cursor) ← anchorName (s.cursor.skip 1)
  return { s.emit (token name) with cursor, keyAllowed := false }

/-- A tag. -/
def lexTag (s : Lexer) : Except Error Lexer := do
  let s ← s.noteKey
  let (token, cursor) ← tagToken s.inFlow s.cursor
  return { s.emit token with cursor, keyAllowed := false }

/-- A block scalar, which is never a key. -/
def lexBlockScalar (s : Lexer) (folds : Bool) : Except Error Lexer := do
  let s ← s.dropKey
  let (text, cursor) ← blockScalar folds s.indent? (s.cursor.skip 1)
  return { s.emit (.scalar (String.ofList text) false) with cursor, keyAllowed := true }

/-- A quoted scalar. -/
def lexQuoted (s : Lexer) (quote : Char) : Except Error Lexer := do
  let s ← s.noteKey
  let (text, cursor) ← quotedScalar quote [] {} (s.cursor.skip 1)
  return { s.emit (.scalar (String.ofList text) false) with cursor, keyAllowed := false }

/-- A plain scalar. -/
def lexPlain (s : Lexer) : Except Error Lexer := do
  let s ← s.noteKey
  let least := (s.indent?.map (· + 1)).getD 0
  let (text, breaksLine, cursor) ← plainScalar s.inFlow least [] {} s.cursor
  return { s.emit (.scalar (String.ofList text) true) with cursor, keyAllowed := breaksLine }

/-- Whether a plain scalar may begin with a character.  An indicator that is followed by something
else than a gap is none. -/
def startsPlain (inFlow : Bool) (c : Char) (rest : List Char) : Bool :=
  if c == '-' then !startsWith isSpacing rest
  else if c == '?' || c == ':' then !inFlow && !atGap rest
  else !(isGap c || isFlowIndicator c || "#&*!|>'\"%@\x60".toList.contains c)

/-- Reads the token that begins with `c`. -/
def lexToken (s : Lexer) (c : Char) (rest : List Char) : Except Error Lexer :=
  if c == '%' && s.cursor.column == 0 then s.lexDirective
  else if s.cursor.atMarker '-' then s.lexMarker .documentStart
  else if s.cursor.atMarker '.' then s.lexMarker .documentEnd
  else if c == '[' then s.lexOpening .flowSequenceStart
  else if c == '\x7b' then s.lexOpening .flowMappingStart
  else if c == ']' then s.lexClosing .flowSequenceEnd
  else if c == '\x7d' then s.lexClosing .flowMappingEnd
  else if c == ',' then s.lexComma
  else if c == '-' && atGap rest then s.lexDash
  else if c == '?' && (s.inFlow || atGap rest) then s.lexQuestion
  else if c == ':' && (s.inFlow || atGap rest) then s.lexColon
  else if c == '*' then s.lexAnchor .reference
  else if c == '&' then s.lexAnchor .anchor
  else if c == '!' then s.lexTag
  else if c == '|' && !s.inFlow then s.lexBlockScalar false
  else if c == '>' && !s.inFlow then s.lexBlockScalar true
  else if c == '\'' || c == '"' then s.lexQuoted c
  else if startsPlain s.inFlow c rest then s.lexPlain
  else .error (.unexpectedCharacter c)

/-- Reads up to `fuel` tokens. -/
def run : Nat → Lexer → Except Error Lexer
  | 0, s => .ok s
  | fuel + 1, s => do
    let (keyAllowed, cursor) := skipBlanks s.inFlow s.keyAllowed s.cursor
    let s ← freshKey { s with keyAllowed, cursor }
    let s := s.closeBlocks (cursor.column < ·)
    match cursor.rest with
    | [] => s.close
    | c :: rest => run fuel (← s.lexToken c rest)

end Lexer

/-- The tokens of a text. -/
def Token.scan (text : List Char) : Except Error (List Token) :=
  match text.find? (!isAllowed ·) with
  | some c => .error (.forbiddenCharacter c)
  | none => (Lexer.run (text.length + 1) { cursor := .start text }).map (·.tokens.reverse)

end Yaml
end DocPipe
