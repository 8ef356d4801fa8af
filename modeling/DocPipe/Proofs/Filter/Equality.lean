import DocPipe.Proofs.Filter.Shape
import DocPipe.Proofs.Number.PlainText

/-!
# Equal expressions

Two expressions are equal if they are built alike and differ in nothing but the sign of a zero.  The
numbers in them are compared as numbers, so an expression with a literal that is no number would not
even be equal to itself; what is read from a text has no such literal.

Nothing tells equal expressions apart: neither the connectives that are counted, nor any item that
they are evaluated on.
-/

namespace DocPipe
namespace Filter

namespace Literal

/-- Whether two literals are equal, numbers as numbers. -/
def numEq : Literal → Literal → Bool
  | .number x, .number y => x.numEq y
  | .string s, .string t => s == t
  | .bool a, .bool b => a == b
  | .null, .null => true
  | _, _ => false

variable {l m : Literal}

/-- Equal literals are the same or are two equal numbers. -/
theorem eq_or_number_of_numEq (h : l.numEq m = true) :
    l = m ∨ ∃ x y, l = .number x ∧ m = .number y ∧ x.numEq y = true := by
  unfold numEq at h
  split at h
  · next x y => exact .inr ⟨x, y, rfl, rfl, h⟩
  · exact .inl (congrArg Literal.string (beq_iff_eq.mp h))
  · exact .inl (congrArg Literal.bool (beq_iff_eq.mp h))
  · exact .inl rfl
  · exact absurd h (by simp)

/-- Equal literals have the same text. -/
theorem text_congr (h : l.numEq m = true) : l.text = m.text := by
  rcases eq_or_number_of_numEq h with rfl | ⟨x, y, rfl, rfl, hxy⟩
  · rfl
  · exact congrArg String.ofList (Binary64.plainText_congr hxy)

/-- The same values are equal to equal literals. -/
theorem equals_congr (h : l.numEq m = true) (actual : Value) :
    equals actual l = equals actual m := by
  rcases eq_or_number_of_numEq h with rfl | ⟨x, y, rfl, rfl, hxy⟩
  · rfl
  · have htext := text_congr h
    cases actual with
    | number n => exact Binary64.numEq_congr hxy n.toBinary64
    | string s => exact congrArg (fun t => some s == some t) htext
    | bool b => exact congrArg (fun t => some (Value.boolText b) == some t) htext
    | null => rfl
    | array items => rfl
    | object fields => rfl

/-- Every value stands in the same order to equal literals. -/
theorem order?_congr (h : l.numEq m = true) (actual : Value) :
    order? actual l = order? actual m := by
  rcases eq_or_number_of_numEq h with rfl | ⟨x, y, rfl, rfl, hxy⟩
  · rfl
  · cases actual with
    | number n => exact Binary64.compare?_congr hxy n.toBinary64
    | _ => rfl

/-- A comparison with equal literals comes out the same. -/
theorem holds_congr (h : l.numEq m = true) (op : Operator) (actual : Value) :
    op.holds actual l = op.holds actual m := by
  unfold Operator.holds
  rw [text_congr h]
  cases op with
  | symbol s =>
    show s.holds actual l = s.holds actual m
    unfold Symbol.holds
    rw [equals_congr h, order?_congr h]
  | _ => rfl

end Literal

namespace Expr

/-- Whether two expressions are equal, the numbers in them as numbers. -/
def numEq : Expr → Expr → Bool
  | .compare field op literal, .compare field' op' literal' =>
    field = field' ∧ op = op' ∧ literal.numEq literal'
  | .not inner, .not inner' => numEq inner inner'
  | .join c left right, .join c' left' right' =>
    c = c' ∧ numEq left left' ∧ numEq right right'
  | _, _ => false

variable {e f : Expr}

/-- Equal expressions have as many connectives. -/
theorem joins_congr (h : e.numEq f = true) : e.joins = f.joins := by
  fun_induction numEq e f with
  | case1 => rfl
  | case2 inner inner' ih => exact ih h
  | case3 c left right c' left' right' ihleft ihright =>
    obtain ⟨-, hleft, hright⟩ := of_decide_eq_true h
    rw [joins, joins, ihleft hleft, ihright hright]
  | case4 => exact absurd h (by simp)

/-- **Equal expressions let the same items pass.** -/
theorem evaluate_congr (h : e.numEq f = true) (item : Value) :
    e.evaluate item = f.evaluate item := by
  fun_induction numEq e f with
  | case1 field op literal field' op' literal' =>
    obtain ⟨rfl, rfl, hliteral⟩ := of_decide_eq_true h
    unfold evaluate
    simp only [Literal.holds_congr hliteral]
  | case2 inner inner' ih => rw [evaluate_not, evaluate_not, ih h]
  | case3 c left right c' left' right' ihleft ihright =>
    obtain ⟨rfl, hleft, hright⟩ := of_decide_eq_true h
    rw [evaluate_join, evaluate_join, ihleft hleft, ihright hright]
  | case4 => exact absurd h (by simp)

end Expr
end Filter
end DocPipe
