import DocPipe.Path.Parser

/-!
# Following paths

There are two readings of a path.  `resolve` follows it to one place, and `select` to all the places
it names.

They treat a wildcard differently.  `resolve` ends there: its answer is the list whose items the
wildcard ranges over, and what follows the wildcard is not looked at.  `select` goes on from every
item, and the items that have no such place contribute nothing.

## Lists at the end

What `select` collects is meant to be gone through item by item, so a list at the end of a path
gives its items rather than itself; selecting the root of a list selects its items.  This happens
once: the items that a wildcard at the end of a path ranges over are not opened again, even if they
are lists.
-/

namespace DocPipe
namespace Path

/-- The value at the end of a path, starting from `v`. -/
def follow : Path → Value → Option Value
  | [], v => some v
  | .field name :: rest, v => (v.field? name).bind (follow rest)
  | .index i :: rest, v => (v.item? i).bind (follow rest)
  | .wildcard :: _, v => if v.items?.isSome then some v else none

/-- The place that a path leads to.  There are no places in null, not even for the empty path. -/
def resolve (path : Path) (root : Value) : Option Value :=
  if root.isNull then none else follow path root

/-- A list as its items, and anything else as itself. -/
def splice : Value → List Value
  | .array items => items
  | v => [v]

/-- All the places that a path names, in the order of the document. -/
def select : Path → Value → List Value
  | [], v => splice v
  | .field name :: rest, v => ((v.field? name).map (select rest)).getD []
  | .index i :: rest, v => ((v.item? i).map (select rest)).getD []
  | .wildcard :: rest, v =>
    if rest.isEmpty then v.items?.getD [] else (v.items?.getD []).flatMap (select rest)

/-- The place that a text leads to; a text that is no path leads nowhere. -/
def resolveText (text : String) (root : Value) : Option Value :=
  match parse text with
  | .ok path => resolve path root
  | .error _ => none

/-- The places that a text names; a text that is no path names none. -/
def selectText (text : String) (root : Value) : List Value :=
  match parse text with
  | .ok path => select path root
  | .error _ => []

@[simp] theorem follow_nil (v : Value) : follow [] v = some v := rfl

@[simp] theorem resolve_null (path : Path) : resolve path .null = none := rfl

/-- On anything but null, resolving is following. -/
theorem resolve_eq_follow {root : Value} (h : root.isNull = false) (path : Path) :
    resolve path root = follow path root := by
  simp [resolve, h]

end Path
end DocPipe
