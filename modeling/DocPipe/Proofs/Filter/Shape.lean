import DocPipe.Proofs.Filter.Reading

/-!
# The shape of an expression

The limits of the reader are limits on texts: so many parentheses and `not`s around one token, so
many connectives.  What has to be bounded is something else, namely the recursion of whatever walks
over an expression.  This file carries the one over to the other.

## What the limits bound

A parenthesis leaves no node behind, so only the `not`s of the nesting show in the expression; and a
connective is a node of its own.  `Derives.joins_eq` and `Derives.negations_le` say so along a
derivation.  Since connectives group from the left, they can all stand on one path.  Together these
give the height: every node of a path is a negation, a connective or the comparison at its end
(`Expr.height_le`).

## Walking with a budget

`Expr.evaluateWithin` and `Expr.writtenWithin` do what `Expr.evaluate` and `Expr.written` do, but
count how many of their calls are open inside one another, and give up when the budget is spent.  A
budget of the height is always enough.
-/

namespace DocPipe
namespace Filter

/-- The truth value on the left-hand side that decides, whatever the right-hand side is. -/
def Connective.decisive : Connective → Bool
  | .and => false
  | .or => true

/-- A left-hand side that does not decide leaves it to the right-hand side. -/
theorem Connective.apply_eq_ite (c : Connective) (a b : Bool) :
    c.apply a b = if a = c.decisive then a else b := by
  cases c <;> cases a <;> rfl

namespace Expr

/-! ## Measures -/

/-- The comparisons of an expression, from left to right. -/
def comparisons : Expr → List (Field × Operator × Literal)
  | .compare field op literal => [(field, op, literal)]
  | .not inner => inner.comparisons
  | .join _ left right => left.comparisons ++ right.comparisons

/-- How many connectives an expression has. -/
def joins : Expr → Nat
  | .compare _ _ _ => 0
  | .not inner => inner.joins
  | .join _ left right => left.joins + right.joins + 1

/-- The greatest number of negations on a path from the root to a comparison. -/
def negations : Expr → Nat
  | .compare _ _ _ => 0
  | .not inner => inner.negations + 1
  | .join _ left right => max left.negations right.negations

/-- The greatest number of nodes on a path from the root to a comparison. -/
def height : Expr → Nat
  | .compare _ _ _ => 1
  | .not inner => inner.height + 1
  | .join _ left right => max left.height right.height + 1

/-- There is one comparison more than there are connectives. -/
theorem length_comparisons (e : Expr) : e.comparisons.length = e.joins + 1 := by
  induction e with
  | compare field op literal => rfl
  | not inner ih => exact ih
  | join c left right ihleft ihright =>
    rw [comparisons, List.length_append, ihleft, ihright, joins]
    omega

/-- The nodes of a path are negations, connectives, and one comparison. -/
theorem height_le (e : Expr) : e.height ≤ e.joins + e.negations + 1 := by
  induction e with
  | compare field op literal => exact Nat.le_refl 1
  | not inner ih =>
    rw [height, joins, negations]
    omega
  | join c left right ihleft ihright =>
    rw [height, joins, negations]
    omega

/-! ## Walking with a budget -/

/-- Whether an item passes, as far as it can be told with `budget` calls open inside one another.
The right-hand side of a connective is looked at only if the left-hand side does not decide. -/
def evaluateWithin (item : Value) : Nat → Expr → Option Bool
  | 0, _ => none
  | _ + 1, .compare field op literal =>
    some ((field.resolve item).any fun actual => op.holds actual literal)
  | budget + 1, .not inner => (evaluateWithin item budget inner).map (!·)
  | budget + 1, .join c left right =>
    (evaluateWithin item budget left).bind fun passes =>
      if passes = c.decisive then some passes else evaluateWithin item budget right

/-- The expression with every grouping written out, as far as that can be done with `budget` calls
open inside one another. -/
def writtenWithin : Nat → Expr → Option String
  | 0, _ => none
  | _ + 1, .compare field op literal =>
    some (field.raw ++ " " ++ op.spelling ++ " " ++ literal.written)
  | budget + 1, .not inner => (writtenWithin budget inner).map fun text => "not (" ++ text ++ ")"
  | budget + 1, .join c left right =>
    (writtenWithin budget left).bind fun before =>
      (writtenWithin budget right).map fun after =>
        "(" ++ before ++ " " ++ c.spelling ++ " " ++ after ++ ")"

/-- A budget of the height is enough to evaluate an expression. -/
theorem evaluateWithin_of_height_le (item : Value) {e : Expr} {budget : Nat}
    (h : e.height ≤ budget) : e.evaluateWithin item budget = some (e.evaluate item) := by
  induction e generalizing budget with
  | compare field op literal =>
    obtain ⟨budget, rfl⟩ : ∃ n, budget = n + 1 := ⟨budget - 1, by rw [height] at h; omega⟩
    rfl
  | not inner ih =>
    rw [height] at h
    obtain ⟨budget, rfl⟩ : ∃ n, budget = n + 1 := ⟨budget - 1, by omega⟩
    rw [evaluateWithin, ih (by omega)]
    rfl
  | join c left right ihleft ihright =>
    rw [height] at h
    obtain ⟨budget, rfl⟩ : ∃ n, budget = n + 1 := ⟨budget - 1, by omega⟩
    rw [evaluateWithin, ihleft (by omega), ihright (by omega), evaluate_join, c.apply_eq_ite]
    show (if left.evaluate item = c.decisive then _ else _) = _
    split <;> rfl

/-- A budget of the height is enough to write an expression. -/
theorem writtenWithin_of_height_le {e : Expr} {budget : Nat} (h : e.height ≤ budget) :
    e.writtenWithin budget = some e.written := by
  induction e generalizing budget with
  | compare field op literal =>
    obtain ⟨budget, rfl⟩ : ∃ n, budget = n + 1 := ⟨budget - 1, by rw [height] at h; omega⟩
    rfl
  | not inner ih =>
    rw [height] at h
    obtain ⟨budget, rfl⟩ : ∃ n, budget = n + 1 := ⟨budget - 1, by omega⟩
    rw [writtenWithin, ih (by omega)]
    rfl
  | join c left right ihleft ihright =>
    rw [height] at h
    obtain ⟨budget, rfl⟩ : ∃ n, budget = n + 1 := ⟨budget - 1, by omega⟩
    rw [writtenWithin, ihleft (by omega), ihright (by omega)]
    rfl

end Expr

/-! ## The shape of what is derived -/

/-- How many connectives stand in front of what is derived. -/
def Nonterminal.joins : Nonterminal → Nat
  | .rest left => left.joins
  | _ => 0

/-- The negations on the paths of what stands in front of what is derived. -/
def Nonterminal.negations : Nonterminal → Nat
  | .rest left => left.negations
  | _ => 0

/-- Every connective of the tokens is one of the expression, and there are no others. -/
theorem Derives.joins_eq {k : Nonterminal} {ts : List Token} {e : Expr} {d : Nat}
    (h : Derives k ts e d) : e.joins = k.joins + connectives ts := by
  induction h with
  | @comparison f o l field op literal hfield hop hliteral =>
    rw [connectives_cons, connectives_cons o, hfield.connectives, hop.connectives,
      hliteral.connectives]
    rfl
  | @negation ts e d _ ih =>
    rw [connectives_cons, Expr.joins, ih]
    show 0 + connectives ts = 0 + (0 + connectives ts)
    omega
  | @group ts e d _ ih =>
    rw [connectives_cons, connectives_append, ih]
    show 0 + connectives ts = 0 + (0 + (connectives ts + 0))
    omega
  | @chain ts us l e d d' _ _ ih ihrest =>
    rw [connectives_append, ihrest]
    show l.joins + connectives us = 0 + (connectives ts + connectives us)
    rw [ih]
    show 0 + connectives ts + connectives us = 0 + (connectives ts + connectives us)
    omega
  | @done l => rfl
  | @more c ts us l r e d d' _ _ ih ihrest =>
    rw [connectives_cons, connectives_append, connectives_spelling, ihrest]
    show l.joins + r.joins + 1 + connectives us = l.joins + (1 + (connectives ts + connectives us))
    rw [ih]
    show l.joins + (0 + connectives ts) + 1 + connectives us = _
    omega

/-- Every negation on a path is a `not` around the tokens of the comparison at its end. -/
theorem Derives.negations_le {k : Nonterminal} {ts : List Token} {e : Expr} {d : Nat}
    (h : Derives k ts e d) : e.negations ≤ max k.negations d := by
  induction h with
  | comparison => exact Nat.zero_le _
  | @negation ts e d _ ih =>
    have ih' : e.negations ≤ max 0 d := ih
    show e.negations + 1 ≤ max 0 (d + 1)
    omega
  | @group ts e d _ ih =>
    have ih' : e.negations ≤ max 0 d := ih
    show e.negations ≤ max 0 (d + 1)
    omega
  | @chain ts us l e d d' _ _ ih ihrest =>
    have ih' : l.negations ≤ max 0 d := ih
    have ihrest' : e.negations ≤ max l.negations d' := ihrest
    show e.negations ≤ max 0 (max d d')
    omega
  | done => exact Nat.le_max_left _ _
  | @more c ts us l r e d d' _ _ ih ihrest =>
    have ih' : r.negations ≤ max 0 d := ih
    have ihrest' : e.negations ≤ max (max l.negations r.negations) d' := ihrest
    show e.negations ≤ max l.negations (max d d')
    omega

/-- **What is read keeps the limits**: few connectives, and few negations on a path. -/
theorem joins_le_and_negations_le {text : String} {e : Expr} (h : parse text = .ok (some e)) :
    e.joins ≤ maxConnectives ∧ e.negations ≤ maxNesting := by
  obtain ⟨ts, -, d, hd, hderives, hcount⟩ := parse_eq_some_iff.mp h
  have hjoins : e.joins = 0 + connectives ts := hderives.joins_eq
  have hnegations : e.negations ≤ max 0 d := hderives.negations_le
  constructor
  · omega
  · omega

end Filter
end DocPipe
