import DocPipe.Yaml.Node.Parser
import DocPipe.Yaml.Scalar
import DocPipe.Yaml.Token.Lexer

/-!
# Reading YAML

The value of a document is that of its root.  A mapping becomes an object, and its keys are taken as
they are written: what they would mean as scalars does not matter.

## References

A reference stands for the value of the node that it refers to, wherever that is.  A document can so
unfold to far more than its text, or without end.  Two limits keep this in check: what unfolds may
nest only as deep as what is written, and there may be no more than a hundred references for each
event of the document.
-/

namespace DocPipe
namespace Yaml

/-- Computing a value, counting the references that may still be followed. -/
abbrev Unfolding := StateT Nat (Except Error)

/-- The node that a node stands for: itself, unless it is a reference. -/
def target (anchored : List (Nat × Node)) : Node → Unfolding Node
  | .reference anchor => do
    let budget ← get
    if budget = 0 then throw .tooManyAliases
    set (budget - 1)
    match anchored.lookup anchor with
    | some node => return node
    | none => throw (.unknownAnchor (toString anchor))
  | node => return node

/-- Refuses tags that name types of their own. -/
def checkTag (properties : Properties) : Unfolding Unit :=
  match properties.tag.bind Tag.localName? with
  | some name => throw (.localTag name)
  | none => return ()

/-- The key that a node stands for. -/
def keyText (anchored : List (Nat × Node)) (node : Node) : Unfolding String := do
  match ← target anchored node with
  | .scalar _ text _ => return text
  | _ => throw .collectionAsKey

/-- The value of a scalar with the given properties. -/
def scalarOf (properties : Properties) (text : String) (plain : Bool) : Unfolding Value := do
  checkTag properties
  scalarValue properties.tag text plain

/-- The value of a node; `room` is how deep collections may still nest. -/
def valueOf (anchored : List (Nat × Node)) : Nat → Node → Unfolding Value
  | 0, node => do
    match ← target anchored node with
    | .scalar properties text plain => scalarOf properties text plain
    | _ => throw .tooDeep
  | room + 1, node => do
    match ← target anchored node with
    | .scalar properties text plain => scalarOf properties text plain
    | .sequence properties items => do
      checkTag properties
      return .array (← items.mapM (valueOf anchored room))
    | .mapping properties entries => do
      checkTag properties
      let pairs ← entries.mapM fun entry => do
        let key ← keyText anchored entry.1
        return (key, ← valueOf anchored room entry.2)
      return .object (Fields.ofPairs pairs)
    | .reference _ => throw .tooDeep

/-- The value of a root. -/
def Node.value (root : Node) : Except Error Value :=
  ((valueOf root.anchored maxDepth root).run (100 * root.eventCount)).map Prod.fst

/-- The value of a YAML text. -/
def read (text : String) : Except Error Value := do
  (← Node.ofTokens (← Token.scan text.toList)).value

end Yaml
end DocPipe
