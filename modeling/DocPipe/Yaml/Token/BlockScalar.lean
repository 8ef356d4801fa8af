import DocPipe.Yaml.Cursor
import DocPipe.Yaml.Error

/-!
# Block scalars

A block scalar is a header and the indented lines below it.  The header says how line breaks inside
the text count (`|` keeps them, `>` folds them), what happens to those at its end, and, if the first
line begins with a blank, how far the lines are indented.  Otherwise the first line that is not
empty shows the indentation, and so may the empty lines in front of it.

Folding joins two lines by a space, unless one of them begins with a blank.
-/

namespace DocPipe
namespace Yaml

/-- What happens to the line breaks at the end of a block scalar. -/
inductive Chomping where
  /-- All go. -/
  | strip
  /-- One stays. -/
  | clip
  /-- All stay. -/
  | keep
  deriving DecidableEq, Repr

/-- What the header of a block scalar says. -/
structure BlockHeader where
  chomping : Chomping
  /-- How much further than what is around it the text is indented, if that is said. -/
  increment : Option Nat
  deriving Repr

/-- The chomping indicator at the start of a text. -/
def chomping? : List Char → Option Chomping
  | '+' :: _ => some .keep
  | '-' :: _ => some .strip
  | _ => none

/-- The indentation indicator at the start of a text.  Zero is none. -/
def increment? : List Char → Except Error (Option Nat)
  | '0' :: _ => .error .malformedBlockHeader
  | c :: _ => .ok (if c.isDigit then some (c.toNat - 48) else none)
  | [] => .ok none

/-- The two indicators in either order, and how long they are together. -/
def blockIndicators (cs : List Char) : Except Error (BlockHeader × Nat) :=
  match chomping? cs with
  | some chomping => (increment? (cs.drop 1)).map fun increment =>
      (⟨chomping, increment⟩, 1 + increment.toList.length)
  | none => (increment? cs).map fun increment =>
      match increment with
      | none => (⟨.clip, none⟩, 0)
      | some n =>
        match chomping? (cs.drop 1) with
        | some chomping => (⟨chomping, some n⟩, 2)
        | none => (⟨.clip, some n⟩, 1)

/-- The header from behind `|` or `>`, and the start of the next line. -/
def blockHeader (cur : Cursor) : Except Error (BlockHeader × Cursor) := do
  let (header, length) ← blockIndicators cur.rest
  match (cur.skip length).endLine? with
  | some cur => return (header, cur)
  | none => throw .malformedBlockHeader

/-- What has been read of the text of a block scalar. -/
structure BlockText where
  /-- The text up to the last line that is not empty, without its break, in reverse. -/
  text : List Char := []
  /-- The break of that line. -/
  first : List Char := []
  /-- The breaks of the empty lines behind it. -/
  others : List Char := []
  /-- Whether that line begins with a blank. -/
  startsBlank : Bool := false
  deriving Repr

namespace BlockText

/-- The text when another line begins with `c`. -/
def beginLine (folds : Bool) (block : BlockText) (c : Char) : BlockText :=
  let joins := folds && block.first == ['\n'] && !block.startsBlank && !isSpacing c
  let first := if !joins then block.first else if block.others.isEmpty then [' '] else []
  { text := c :: ((first ++ block.others).reverse ++ block.text), startsBlank := isSpacing c }

/-- The text when it has ended. -/
def chomp (chomping : Chomping) (block : BlockText) : List Char :=
  block.text.reverse ++
    match chomping with
    | .strip => []
    | .clip => block.first
    | .keep => block.first ++ block.others

end BlockText

/-- What a block scalar does with the next character depends on whether its line has begun, and on
the indentation: what is known of it, and the widest seen so far. -/
structure BlockState where
  inLine : Bool := false
  indent : Option Nat
  widest : Nat := 0
  block : BlockText := {}
  deriving Repr

namespace BlockState

/-- The indentation of the first line; `least` is the smallest that it can be. -/
def settledIndent (least : Nat) (s : BlockState) (cur : Cursor) : Nat :=
  s.indent.getD (max (max s.widest cur.column) (max least 1))

/-- Whether the place is still inside the indentation. -/
def inIndent (s : BlockState) (cur : Cursor) : Bool := s.indent.all (cur.column < ·)

end BlockState

/-- The text of a block scalar from behind its header, and the place behind it. -/
def blockLines (folds : Bool) (least : Nat) (s : BlockState) (cur : Cursor) :
    Except Error (BlockText × Cursor) :=
  match _h : cur.rest with
  | [] => .ok (s.block, cur)
  | c :: _ =>
    if s.inLine then
      if isBreak c then
        blockLines folds least
          { s with inLine := false, block := { s.block with first := Cursor.breakText c } }
          cur.skipBreak
      else
        blockLines folds least { s with block := { s.block with text := c :: s.block.text } }
          (cur.skip 1)
    else if s.inIndent cur && c == ' ' then blockLines folds least s (cur.skip 1)
    else if s.inIndent cur && c == '\t' then .error .tabIndentation
    else if isBreak c then
      let others := s.block.others ++ Cursor.breakText c
      blockLines folds least
        { s with widest := max s.widest cur.column, block := { s.block with others } }
        cur.skipBreak
    else
      let indent := s.settledIndent least cur
      if cur.column = indent then
        blockLines folds least
          { inLine := true, indent := some indent, block := s.block.beginLine folds c }
          (cur.skip 1)
      else .ok (s.block, cur)
termination_by cur.rest.length
decreasing_by
  · exact Cursor.length_skipBreak_lt _h
  · exact Cursor.length_skip_lt _h (by decide)
  · exact Cursor.length_skip_lt _h (by decide)
  · exact Cursor.length_skipBreak_lt _h
  · exact Cursor.length_skip_lt _h (by decide)

/-- The text of a block scalar from behind `|` or `>`, and the place behind it.  `indent` is the
indentation of the collection around it. -/
def blockScalar (folds : Bool) (indent : Option Nat) (cur : Cursor) :
    Except Error (List Char × Cursor) := do
  let (header, cur) ← blockHeader cur
  let least := (indent.map (· + 1)).getD 0
  let given := header.increment.map (indent.getD 0 + ·)
  let (block, cur) ← blockLines folds least { indent := given } cur
  return (block.chomp header.chomping, cur)

end Yaml
end DocPipe
