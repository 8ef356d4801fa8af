/-!
# What can be wrong with a YAML text

The causes are grouped by what the reader was looking at: characters and tokens, directives, the
shape of the document, and the meaning of its nodes.
-/

namespace DocPipe
namespace Yaml

/-- Why a text is not a YAML document, or not one that is a `Value`. -/
inductive Error where
  /-- A character that no YAML text may contain. -/
  | forbiddenCharacter (c : Char)
  /-- A character that begins no token. -/
  | unexpectedCharacter (c : Char)
  /-- The first thing in the line of a mapping is not followed by a colon. -/
  | missingColon
  /-- A block collection begins where none may. -/
  | misplacedIndicator (indicator : Char)
  /-- A tab takes the place of indentation. -/
  | tabIndentation
  /-- A quoted scalar does not end before the text or the document does. -/
  | unterminatedScalar
  /-- A backslash is followed by no escape. -/
  | unknownEscape
  /-- Something else than indicators stands behind `|` or `>`. -/
  | malformedBlockHeader
  /-- An anchor or an alias has no name, or the name runs into something else. -/
  | malformedAnchor
  /-- A tag is empty, or runs into something else. -/
  | malformedTag
  /-- A directive is unknown or malformed. -/
  | malformedDirective
  /-- A directive is given twice for one document. -/
  | repeatedDirective
  /-- The document wants another version of YAML. -/
  | unsupportedVersion
  /-- A tag uses a handle that no directive declares. -/
  | undeclaredHandle (handle : String)
  /-- A token stands where another one is needed. -/
  | unexpectedToken (wanted : String)
  /-- There is more than one document. -/
  | moreThanOneDocument
  /-- An alias names no anchor in front of it. -/
  | unknownAnchor (name : String)
  /-- Collections nest too deeply. -/
  | tooDeep
  /-- Aliases unfold to too much. -/
  | tooManyAliases
  /-- The key of a mapping is a collection. -/
  | collectionAsKey
  /-- A tag names a type of its own. -/
  | localTag (tag : String)
  /-- A scalar is not what its tag promises. -/
  | notA (wanted : String)
  /-- An integer fits no word and is still written exactly. -/
  | integerOutOfRange
  deriving DecidableEq, Repr

/-- The refusal in words. -/
def Error.message : Error → String
  | .forbiddenCharacter _ => "control characters are not allowed"
  | .unexpectedCharacter _ => "found a character that cannot start any token"
  | .missingColon => "could not find expected ':'"
  | .misplacedIndicator '-' => "block sequence entries are not allowed in this context"
  | .misplacedIndicator '?' => "mapping keys are not allowed in this context"
  | .misplacedIndicator _ => "mapping values are not allowed in this context"
  | .tabIndentation => "found a tab character that violates indentation"
  | .unterminatedScalar => "found unexpected end of a quoted scalar"
  | .unknownEscape => "found unknown escape"
  | .malformedBlockHeader => "did not find expected comment or line break"
  | .malformedAnchor => "did not find expected name of an anchor"
  | .malformedTag => "did not find expected tag"
  | .malformedDirective => "found malformed directive"
  | .repeatedDirective => "found duplicate directive"
  | .unsupportedVersion => "found incompatible YAML document"
  | .undeclaredHandle handle => "found undefined tag handle " ++ handle
  | .unexpectedToken wanted => "did not find expected " ++ wanted
  | .moreThanOneDocument => "found more than one document"
  | .unknownAnchor name => "unknown anchor " ++ name
  | .tooDeep => "recursion limit exceeded"
  | .tooManyAliases => "repetition limit exceeded"
  | .collectionAsKey => "invalid type: collection, expected a string"
  | .localTag tag => "invalid type: enum " ++ tag
  | .notA wanted => "invalid value, expected " ++ wanted
  | .integerOutOfRange => "invalid type: integer out of range"

end Yaml
end DocPipe
