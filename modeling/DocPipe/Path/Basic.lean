import DocPipe.Text.Quoted
import DocPipe.Value.Basic

/-!
# Paths

A path names places inside a document.  It is a list of steps, each of which goes down one level: to
the value of a key, to the item at a position, or to every item of a list.  The empty path names the
document itself.
-/

namespace DocPipe

/-- One step of a path. -/
inductive Segment where
  | field (name : String)
  | index (i : Nat)
  | wildcard
  deriving DecidableEq, Repr

/-- The steps of a path, from the root down. -/
abbrev Path := List Segment

/-- Why a text is not a path. -/
inductive PathError where
  /-- A part between two points, or at either end, is missing. -/
  | emptySegment
  /-- An opening bracket has no closing one. -/
  | unclosedBracket
  /-- What stands between brackets is neither a star nor a position. -/
  | invalidIndex (text : String)
  /-- A character stands where none like it may. -/
  | unexpectedCharacter (found : Char) (position : Nat)
  deriving DecidableEq, Repr

/-- The refusal in words. -/
def PathError.message : PathError → String
  | .emptySegment => "path segment must not be empty"
  | .unclosedBracket => "unclosed '[' in path"
  | .invalidIndex text =>
    "invalid array index: " ++ Text.quoted text ++ " (expected a non-negative integer or '*')"
  | .unexpectedCharacter found position =>
    "unexpected " ++ Text.quotedChar found ++ " at position " ++ toString position

end DocPipe
