import DocPipe.Text.DefaultIgnorable
import DocPipe.Text.GraphemeExtend
import DocPipe.Text.Unprintable

/-!
# Quoted text in messages

A message that cites what it complains about puts it in quotes, a text in double ones and a single
character in single ones.  Inside, whatever a reader could mistake is spelled out: the five short
escapes, and a code point in braces for a mark that would attach to the quote or leave no trace.
The quote that encloses is escaped and the other one is not.
-/

namespace DocPipe
namespace Text

/-- A code point in braces, such as `\u{301}`: hexadecimal in small letters, no leading zeros. -/
def escapeCodePoint (c : Char) : List Char :=
  '\\' :: 'u' :: '\x7b' :: (Nat.toDigits 16 c.toNat ++ ['\x7d'])

/-- Whether `c` cannot stand for itself between quotes: it would attach to what is before it, be
passed over, or leave no mark. -/
def needsCodePoint (c : Char) : Bool :=
  isGraphemeExtend c || isDefaultIgnorable c || isUnprintable c

/-- One character between quotes of the given kind. -/
def escapeWithin (quote c : Char) : List Char :=
  if c = '\x00' then ['\\', '0']
  else if c = '\t' then ['\\', 't']
  else if c = '\r' then ['\\', 'r']
  else if c = '\n' then ['\\', 'n']
  else if c = '\\' then ['\\', '\\']
  else if c = quote then ['\\', quote]
  else if needsCodePoint c then escapeCodePoint c
  else [c]

/-- A text in double quotes. -/
def quoted (s : String) : String :=
  String.ofList ('"' :: (s.toList.flatMap (escapeWithin '"') ++ ['"']))

/-- A single character in single quotes. -/
def quotedChar (c : Char) : String :=
  String.ofList ('\'' :: (escapeWithin '\'' c ++ ['\'']))

end Text
end DocPipe
