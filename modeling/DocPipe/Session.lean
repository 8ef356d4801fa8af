import DocPipe.Input
import DocPipe.Pipeline

/-!
# Sessions

A session holds a document and a pipeline.  The pipeline is built stage by stage, and its lines can
become the next document.
-/

namespace DocPipe

/-- A document and the pipeline that is being built for it. -/
structure Session where
  document : Value := .null
  pipeline : Pipeline := {}
  deriving Repr

namespace Session

/-- The items of the document. -/
def items (s : Session) : List Value := s.pipeline.items s.document

/-- The lines for the document. -/
def lines (s : Session) : List String := s.pipeline.render s.document

/-- Takes a text as the document. -/
def load (s : Session) (declared : Option Format) (text : String) :
    Except InputError (Session × Format) :=
  (Input.read declared text).map fun input => ({ s with document := input.value }, input.format)

/-- Takes the lines for the document as the next document. -/
def feedBack (s : Session) (declared : Option Format) : Except InputError (Session × Format) :=
  s.load declared ("\n".intercalate s.lines)

end Session
end DocPipe
