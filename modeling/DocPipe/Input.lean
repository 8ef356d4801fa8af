import DocPipe.Json.Reader
import DocPipe.Text.Blank
import DocPipe.Yaml.Reader

/-!
# Reading documents

A document comes as JSON or as YAML.  The reader may be told which, or may have to find out.

Nearly every JSON text is also a YAML text, but not the other way round, and the two disagree about
some of those that are both.  So an unlabelled text that begins with a brace or a bracket is read as
JSON first, and every other text as YAML first; the second reading is only tried when the first has
failed.  If both fail, the text is blamed for what it looked like.
-/

namespace DocPipe

/-- The formats of documents. -/
inductive Format where
  | json
  | yaml
  deriving DecidableEq, Repr

/-- What a format is called. -/
def Format.name : Format → String
  | .json => "json"
  | .yaml => "yaml"

/-- Why a text is not a document. -/
inductive InputError where
  | json (cause : Json.Error)
  | yaml (cause : Yaml.Error)
  | empty
  deriving DecidableEq, Repr

/-- The refusal in words. -/
def InputError.message : InputError → String
  | .json cause => "failed to parse as JSON: " ++ cause.message
  | .yaml cause => "failed to parse as YAML: " ++ cause.message
  | .empty => "input is empty"

/-- A document, and the format that it was read as. -/
structure Input where
  value : Value
  format : Format
  deriving Repr

namespace Input

/-- Reads a text as JSON. -/
def readJson (text : String) : Except InputError Input :=
  match Json.read text with
  | .ok v => .ok ⟨v, .json⟩
  | .error e => .error (.json e)

/-- Reads a text as YAML. -/
def readYaml (text : String) : Except InputError Input :=
  match Yaml.read text with
  | .ok v => .ok ⟨v, .yaml⟩
  | .error e => .error (.yaml e)

/-- The first reading that succeeds; if neither does, the refusal is that of the first. -/
def firstOf (first : Except InputError Input) (second : Unit → Except InputError Input) :
    Except InputError Input :=
  match first with
  | .ok input => .ok input
  | .error e =>
    match second () with
    | .ok input => .ok input
    | .error _ => .error e

/-- Whether a text begins the way that JSON lists and objects do. -/
def looksLikeJson (text : String) : Bool :=
  match Text.trimStart text.toList with
  | c :: _ => c == '\x7b' || c == '['
  | [] => false

/-- Reads a text whose format has not been declared. -/
def readEither (text : String) : Except InputError Input :=
  if looksLikeJson text then firstOf (readJson text) fun _ => readYaml text
  else firstOf (readYaml text) fun _ => readJson text

/-- Reads a text in the declared format, if one is declared. -/
def read (declared : Option Format) (text : String) : Except InputError Input :=
  if Text.isBlankText text.toList then .error .empty
  else match declared with
    | some .json => readJson text
    | some .yaml => readYaml text
    | none => readEither text

end Input
end DocPipe
