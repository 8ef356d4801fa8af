import DocPipe.Yaml.Tag

/-!
# The tokens of a YAML text

Besides what is written, the tokens mark where block collections begin and end.  Nothing marks these
in the text but its indentation, so the lexer, which alone knows columns, puts the marks in, and
everything behind it can forget about them.
-/

namespace DocPipe
namespace Yaml

/-- A token of a YAML text. -/
inductive Token where
  | versionDirective (major minor : Nat)
  | tagDirective (handle : String) (stem : Tag)
  | documentStart
  | documentEnd
  | blockSequenceStart
  | blockMappingStart
  | blockEnd
  | flowSequenceStart
  | flowSequenceEnd
  | flowMappingStart
  | flowMappingEnd
  /-- The dash of an item. -/
  | blockEntry
  /-- The comma behind an item. -/
  | flowEntry
  /-- In front of a key. -/
  | key
  /-- In front of the value of a key. -/
  | value
  /-- The name of an anchor where the anchored node is wanted again. -/
  | reference (name : String)
  | anchor (name : String)
  /-- A tag: a handle and what follows it.  A tag that is written in full has an empty handle. -/
  | tag (handle : String) (suffix : Tag)
  /-- A scalar; it is plain if it stands without quotes and in the line. -/
  | scalar (text : String) (plain : Bool)
  deriving DecidableEq, Repr

end Yaml
end DocPipe
