import DocPipe.Text.HexDigit
import DocPipe.Yaml.Cursor
import DocPipe.Yaml.Error
import DocPipe.Yaml.Token

/-!
# Anchors, tags and directives

These tokens are made of names and of the characters of a URI, in which a percent sign and two
hexadecimal digits stand for a byte.  A byte of value zero ends what the URI says, though not the
URI itself.

A tag is a handle and a suffix.  The handle is one exclamation mark, or a name between two of them;
if there is nothing but the mark, the mark is the whole tag.  A tag can also be written in full,
between angle brackets, and has no handle then.

## Escapes

Bytes are escaped by the character: the first byte says how many follow, each of them has to be
escaped as well, and each has to be one that does not begin a character.  That is all that is asked
of them, so forms that are too long, surrogates and what lies beyond the last character pass.
-/

namespace DocPipe
namespace Yaml

/-! ## Names -/

/-- The name here, and the place behind it. -/
def takeName (cur : Cursor) : List Char × Cursor :=
  (cur.rest.takeWhile isNameChar, cur.skipWhile isNameChar)

/-- Whether the name of an anchor may end here. -/
def endsAnchor (cs : List Char) : Bool :=
  atGap cs || startsWith (fun c => "?:,]\x7d%@\x60".toList.contains c) cs

/-- The name of an anchor or an alias from behind its indicator, and the place behind it. -/
def anchorName (cur : Cursor) : Except Error (String × Cursor) :=
  let (name, cur) := takeName cur
  if name.isEmpty || !endsAnchor cur.rest then .error .malformedAnchor
  else .ok (String.ofList name, cur)

/-! ## The characters of a URI -/

/-- The characters of a tag; one that is written in full may also contain the indicators of flow
sequences. -/
def isUriChar (inFull : Bool) (c : Char) : Bool :=
  isNameChar c || ";/?:@&=+$.%!~*'()".toList.contains c || (inFull && ",[]".toList.contains c)

/-- The byte that a percent sign and two digits at the start of a text stand for. -/
def escapedByte? : List Char → Option Nat
  | '%' :: a :: b :: _ => Text.numberIn? 16 [a, b]
  | _ => none

/-- How many bytes of a character follow the first one. -/
def furtherBytes? (first : Nat) : Option Nat :=
  if first < 0x80 then some 0
  else if 0xC0 ≤ first ∧ first < 0xE0 then some 1
  else if 0xE0 ≤ first ∧ first < 0xF0 then some 2
  else if 0xF0 ≤ first ∧ first < 0xF8 then some 3
  else none

/-- The first `n` of the bytes escaped at the start of a text, if none of them begins a
character. -/
def escapedTail? : Nat → List Char → Option (List Nat)
  | 0, _ => some []
  | n + 1, cs => do
    let byte ← escapedByte? cs
    if byte < 0x80 ∨ 0xC0 ≤ byte then failure
    return byte :: (← escapedTail? n (cs.drop 3))

/-- The bytes of the character that is escaped at the start of a text. -/
def escapedBytes? (cs : List Char) : Option (List Nat) := do
  let first ← escapedByte? cs
  return first :: (← escapedTail? (← furtherBytes? first) (cs.drop 3))

/-- The bytes that the URI characters here spell, and the place behind them.  What has been read
comes in reverse. -/
def uri (inFull : Bool) (read : List UInt8) (cur : Cursor) :
    Except Error (List UInt8 × Cursor) :=
  match _h : cur.rest with
  | [] => .ok (read.reverse, cur)
  | c :: _ =>
    if !isUriChar inFull c then .ok (read.reverse, cur)
    else if c != '%' then uri inFull (c.val.toUInt8 :: read) (cur.skip 1)
    else match escapedBytes? cur.rest with
      | none => .error .malformedTag
      | some bytes =>
        uri inFull ((bytes.map Nat.toUInt8).reverse ++ read)
          (cur.skip (3 * (bytes.length - 1) + 3))
termination_by cur.rest.length
decreasing_by all_goals exact Cursor.length_skip_lt _h (by omega)

/-- What a row of bytes says: a byte of value zero ends it. -/
def meant (bytes : List UInt8) : Tag := ⟨bytes.takeWhile (· != 0)⟩

/-- What the URI characters here say, of which there has to be one. -/
def someUri (inFull : Bool) (cur : Cursor) : Except Error (Tag × Cursor) := do
  let (bytes, cur) ← uri inFull [] cur
  if bytes.isEmpty then throw .malformedTag
  return (meant bytes, cur)

/-! ## Tags -/

/-- What may be a handle: an exclamation mark, a name, and whether another mark closes it. -/
def tagHandle (cur : Cursor) : List Char × Bool × Cursor :=
  let (name, cur) := takeName (cur.skip 1)
  if startsWith (· == '!') cur.rest then ('!' :: name ++ ['!'], true, cur.skip 1)
  else ('!' :: name, false, cur)

/-- The handle and the suffix of the tag here, and the place behind it. -/
def tagParts (cur : Cursor) : Except Error (List Char × Tag × Cursor) := do
  if startsWith (· == '<') (cur.rest.drop 1) then
    let (suffix, cur) ← someUri true (cur.skip 2)
    if !startsWith (· == '>') cur.rest then throw .malformedTag
    return ([], suffix, cur.skip 1)
  let (handle, closed, cur) := tagHandle cur
  if closed then
    let (suffix, cur) ← someUri false cur
    return (handle, suffix, cur)
  let (bytes, cur) ← uri false ((handle.drop 1).map (·.val.toUInt8)).reverse cur
  let suffix := meant bytes
  return if suffix.bytes.isEmpty then ([], .ofText "!", cur) else (['!'], suffix, cur)

/-- The tag here, and the place behind it. -/
def tagToken (inFlow : Bool) (cur : Cursor) : Except Error (Token × Cursor) := do
  let (handle, suffix, cur) ← tagParts cur
  if atGap cur.rest || (inFlow && startsWith (· == ',') cur.rest) then
    return (.tag (String.ofList handle) suffix, cur)
  throw .malformedTag

/-! ## Directives -/

/-- A number of a version, of at most nine digits, and the place behind it. -/
def versionNumber (cur : Cursor) : Except Error (Nat × Cursor) :=
  let digits := cur.rest.takeWhile Char.isDigit
  if digits.isEmpty || 9 < digits.length then .error .malformedDirective
  else .ok (Nat.ofDigitChars 10 digits 0, cur.skip digits.length)

/-- The version behind the name of its directive. -/
def versionDirective (cur : Cursor) : Except Error (Token × Cursor) := do
  let (major, cur) ← versionNumber (cur.skipWhile isSpacing)
  if !startsWith (· == '.') cur.rest then throw .malformedDirective
  let (minor, cur) ← versionNumber (cur.skip 1)
  return (.versionDirective major minor, cur)

/-- The handle and what it stands for, behind the name of the directive. -/
def tagDirective (cur : Cursor) : Except Error (Token × Cursor) := do
  let cur := cur.skipWhile isSpacing
  if !startsWith (· == '!') cur.rest then throw .malformedDirective
  let (handle, closed, cur) := tagHandle cur
  if (!closed && handle != ['!']) || !startsWith isSpacing cur.rest then throw .malformedDirective
  let (stem, cur) ← someUri true (cur.skipWhile isSpacing)
  if !atGap cur.rest then throw .malformedDirective
  return (.tagDirective (String.ofList handle) stem, cur)

/-- The directive from behind its percent sign, and the start of the next line. -/
def directive (cur : Cursor) : Except Error (Token × Cursor) := do
  let (name, cur) := takeName cur
  if !atGap cur.rest then throw .malformedDirective
  let (token, cur) ←
    if name = "YAML".toList then versionDirective cur
    else if name = "TAG".toList then tagDirective cur
    else throw .malformedDirective
  match cur.endLine? with
  | some cur => return (token, cur)
  | none => throw .malformedDirective

end Yaml
end DocPipe
