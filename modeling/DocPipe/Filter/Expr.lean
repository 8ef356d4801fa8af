import DocPipe.Filter.Comparison
import DocPipe.Path.Lookup

/-!
# Filter expressions

A filter combines comparisons by `and`, `or` and `not`.  A comparison names a field by a path; when
the path leads nowhere in an item, the comparison is false there, whatever the operator.

The word `value` is a path like any other, except that on an item without fields it means the item
itself.
-/

namespace DocPipe
namespace Filter

/-- The left-hand side of a comparison: a path, as written and as read. -/
structure Field where
  raw : String
  path : Path
  deriving DecidableEq, Repr

/-- The value that a field stands for in an item. -/
def Field.resolve (field : Field) (item : Value) : Option Value :=
  if field.raw = "value" ∧ item.isPrimitive then some item else Path.resolve field.path item

/-- What joins two expressions. -/
inductive Connective where
  | and
  | or
  deriving DecidableEq, Repr

/-- How a connective is written. -/
def Connective.spelling : Connective → String
  | .and => "and"
  | .or => "or"

/-- The connective of two truth values. -/
def Connective.apply : Connective → Bool → Bool → Bool
  | .and, a, b => a && b
  | .or, a, b => a || b

/-- A filter expression. -/
inductive Expr where
  | compare (field : Field) (op : Operator) (literal : Literal)
  | not (inner : Expr)
  | join (c : Connective) (left right : Expr)
  deriving DecidableEq, Repr

namespace Expr

/-- Whether an item passes. -/
def evaluate (item : Value) : Expr → Bool
  | .compare field op literal =>
    (field.resolve item).any fun actual => op.holds actual literal
  | .not inner => !evaluate item inner
  | .join c left right => c.apply (evaluate item left) (evaluate item right)

/-- The expression with every grouping written out. -/
def written : Expr → String
  | .compare field op literal => field.raw ++ " " ++ op.spelling ++ " " ++ literal.written
  | .not inner => "not (" ++ inner.written ++ ")"
  | .join c left right =>
    "(" ++ left.written ++ " " ++ c.spelling ++ " " ++ right.written ++ ")"

@[simp] theorem evaluate_not (item : Value) (e : Expr) :
    evaluate item (.not e) = !evaluate item e := rfl

@[simp] theorem evaluate_join (item : Value) (c : Connective) (l r : Expr) :
    evaluate item (.join c l r) = c.apply (evaluate item l) (evaluate item r) := rfl

end Expr
end Filter
end DocPipe
