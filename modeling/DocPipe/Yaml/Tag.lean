import DocPipe.Text.Utf8

/-!
# What tags say

A tag says of what type a node is.  It is written as a URI, and the escapes of a URI spell bytes, so
a tag is a row of bytes and need not be text at all.

The types that every reader knows have tags that begin alike.  A tag that begins with an exclamation
mark is local: it names a type that only the writer of the document knows.
-/

namespace DocPipe
namespace Yaml

/-- A tag. -/
structure Tag where
  bytes : List UInt8
  deriving DecidableEq, Repr

namespace Tag

/-- The tag that a text spells. -/
def ofText (text : String) : Tag := ⟨text.toUTF8.toList⟩

/-- What the tags of the common types begin with. -/
def commonStem : Tag := ofText "tag:yaml.org,2002:"

/-- A tag that is made of two parts. -/
def append (stem suffix : Tag) : Tag := ⟨stem.bytes ++ suffix.bytes⟩

/-- The tag of a common type. -/
def common (name : String) : Tag := commonStem.append (ofText name)

/-- The mark in front of local tags. -/
def localMark : UInt8 := '!'.val.toUInt8

/-- Whether a tag is local. -/
def isLocal (tag : Tag) : Bool := tag.bytes.head? == some localMark

/-- The text of a tag, if it is one. -/
def text? (tag : Tag) : Option String := (Text.decodeUtf8 tag.bytes).toOption

/-- The name of the type that a local tag names.  There is none if the tag is no text. -/
def localName? (tag : Tag) : Option String := if tag.isLocal then tag.text? else none

@[simp] theorem bytes_append (stem suffix : Tag) :
    (stem.append suffix).bytes = stem.bytes ++ suffix.bytes := rfl

end Tag
end Yaml
end DocPipe
