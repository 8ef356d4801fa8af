import DocPipe.Yaml.Tag

/-!
# The nodes of a YAML document

A node is a scalar, a collection, or a reference to a node that has been anchored further up.
References are not resolved here: a document may refer to a node from inside that same node, so what
the references stand for need not be a finite tree.
-/

namespace DocPipe
namespace Yaml

-- Sums start from the numeral zero, whatever algebra is in scope.
attribute [local instance (high)] Zero.ofOfNat0

/-- What may stand in front of a node: the number of its anchor, and its tag. -/
structure Properties where
  anchor : Option Nat := none
  tag : Option Tag := none
  deriving DecidableEq, Repr

/-- A node. -/
inductive Node where
  | scalar (properties : Properties) (text : String) (plain : Bool)
  | sequence (properties : Properties) (items : List Node)
  | mapping (properties : Properties) (entries : List (Node × Node))
  | reference (anchor : Nat)
  deriving Repr

namespace Node

/-- A node that is not written at all. -/
def missing (properties : Properties) : Node := .scalar properties "" true

/-- The properties of a node. -/
def properties : Node → Properties
  | .scalar p _ _ | .sequence p _ | .mapping p _ => p
  | .reference _ => {}

mutual

/-- Adds a node and the nodes below it to those that begin in front of it; the last one to begin
comes first. -/
def collect (earlier : List Node) (node : Node) : List Node :=
  match node with
  | .sequence _ items => collectItems (node :: earlier) items
  | .mapping _ entries => collectEntries (node :: earlier) entries
  | _ => node :: earlier

/-- Adds the nodes of a list of items. -/
def collectItems (earlier : List Node) : List Node → List Node
  | [] => earlier
  | item :: items => collectItems (item.collect earlier) items

/-- Adds the nodes of a list of entries, keys and values. -/
def collectEntries (earlier : List Node) : List (Node × Node) → List Node
  | [] => earlier
  | (key, value) :: entries => collectEntries (value.collect (key.collect earlier)) entries

end

/-- How many events a node alone is reported by: a collection has a beginning and an end. -/
def ownEvents : Node → Nat
  | .sequence _ _ | .mapping _ _ => 2
  | _ => 1

/-- How many events a node is reported by. -/
def eventCount (root : Node) : Nat := ((root.collect []).map ownEvents).sum

/-- The nodes that have an anchor, by its number.  If several have the same one, the last one to
begin comes first. -/
def anchored (root : Node) : List (Nat × Node) :=
  (root.collect []).filterMap fun node => node.properties.anchor.map (·, node)

end Node
end Yaml
end DocPipe
