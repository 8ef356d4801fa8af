import DocPipe.Text.CaseMap
import DocPipe.Text.Cased

/-!
# Lower case

The text operators of a filter ignore case by comparing lower-case texts.  Almost every character
has a lower-case form of its own, wherever it stands.  There are two exceptions, and both are in
the standard's special casing:

* the capital I with a dot becomes two characters, an `i` and a combining dot;
* the capital sigma becomes `ς` at the end of a word and `σ` elsewhere.

The second is why `toLower` carries what stands before a character.  It is carried reversed, so that
"the nearest letter before" and "the nearest letter after" are the same search on two lists.
-/

namespace DocPipe
namespace Text

/-- Whether the nearest character that is not looked through is a letter with case. -/
def meetsCased (cs : List Char) : Bool :=
  match cs.dropWhile isCaseIgnorable with
  | [] => false
  | c :: _ => isCased c

/-- Whether a sigma between `before` (read backwards) and `after` ends its word: there is a letter
before it and none after it. -/
def endsWord (before after : List Char) : Bool := meetsCased before && !meetsCased after

/-- The lower-case form of one character that stands between `before` (read backwards) and
`after`. -/
def lowerAt (before : List Char) (c : Char) (after : List Char) : List Char :=
  if c.toNat < 0x80 then [c.toLower]
  else if c = 'Σ' then [if endsWord before after then 'ς' else 'σ']
  else if c = 'İ' then ['i', '\u0307']
  else [lowerBeyondAscii c]

/-- The lower-case form of a text that follows `before` (read backwards). -/
def lowerFrom (before : List Char) : List Char → List Char
  | [] => []
  | c :: rest => lowerAt before c rest ++ lowerFrom (c :: before) rest

/-- The lower-case form of a text. -/
def toLower (cs : List Char) : List Char := lowerFrom [] cs

@[simp] theorem toLower_nil : toLower [] = [] := rfl

/-- An ASCII character lowers by itself, wherever it stands. -/
theorem lowerAt_ascii {before after : List Char} {c : Char} (h : c.toNat < 0x80) :
    lowerAt before c after = [c.toLower] := by
  simp [lowerAt, h]

end Text
end DocPipe
