import DocPipe.Filter.Literal
import DocPipe.Filter.Operator
import DocPipe.Text.Lowercase

/-!
# Comparing a value with a literal

The six symbols and the three words compare differently.

* **Equality** compares two numbers as numbers and everything else by its text, so the string `42`
  equals the number.  Null equals only null, and a list or an object equals nothing.
* **Order** is an order of numbers.  A string is not ordered, even if it looks like a number.
* **The words** compare texts and ignore case.  On a list, `contains` asks for a member with the
  given text rather than for a part of a text.
-/

namespace DocPipe
namespace Filter

/-- Whether `needle` stands somewhere in `hay`. -/
def occursIn (needle : List Char) : List Char → Bool
  | [] => needle.isEmpty
  | c :: hay => needle.isPrefixOf (c :: hay) || occursIn needle hay

/-- Whether a value equals a literal. -/
def equals (actual : Value) (expected : Literal) : Bool :=
  match actual, expected with
  | .null, .null => true
  | .null, _ => false
  | _, .null => false
  | .number n, .number x => n.toBinary64.numEq x
  | .array _, _ => false
  | .object _, _ => false
  | v, l => v.scalarText? == some l.text

/-- The order of a value and a literal, when both are numbers. -/
def order? (actual : Value) (expected : Literal) : Option Ordering :=
  match actual, expected with
  | .number n, .number x => n.toBinary64.compare? x
  | _, _ => none

/-- The text of a scalar in lower case. -/
def loweredText? (v : Value) : Option (List Char) :=
  v.scalarText?.map fun t => Text.toLower t.toList

/-- Whether the lower-case text of a scalar passes a test; a value without a text passes none. -/
def textPasses (test : List Char → Bool) (v : Value) : Bool := (loweredText? v).any test

/-- Whether a value stands in the given relation to a literal. -/
def Symbol.holds (s : Symbol) (actual : Value) (expected : Literal) : Bool :=
  match s with
  | .equal => equals actual expected
  | .notEqual => !equals actual expected
  | .greater => (order? actual expected).any (·.isGT)
  | .less => (order? actual expected).any (·.isLT)
  | .greaterEqual => (order? actual expected).any (·.isGE)
  | .lessEqual => (order? actual expected).any (·.isLE)

/-- Whether a comparison of a value with a literal is true. -/
def Operator.holds (op : Operator) (actual : Value) (expected : Literal) : Bool :=
  let needle := Text.toLower expected.text.toList
  match op with
  | .symbol s => s.holds actual expected
  | .contains =>
    match actual with
    | .array items => items.any (textPasses (· == needle))
    | v => textPasses (occursIn needle) v
  | .startsWith => textPasses needle.isPrefixOf actual
  | .endsWith => textPasses needle.isSuffixOf actual

/-- The needle stands in a text exactly if the text is something, the needle, and something. -/
theorem occursIn_iff {needle hay : List Char} :
    occursIn needle hay = true ↔ ∃ before after, hay = before ++ needle ++ after := by
  induction hay with
  | nil =>
    simp only [occursIn, List.isEmpty_iff]
    constructor
    · rintro rfl; exact ⟨[], [], rfl⟩
    · rintro ⟨a, b, h⟩; simp at h; exact h.2.1
  | cons c hay ih =>
    simp only [occursIn, Bool.or_eq_true, List.isPrefixOf_iff_prefix, ih]
    constructor
    · rintro (⟨t, ht⟩ | ⟨a, b, rfl⟩)
      · exact ⟨[], t, by simp [ht]⟩
      · exact ⟨c :: a, b, by simp⟩
    · rintro ⟨a, b, h⟩
      cases a with
      | nil => exact .inl ⟨b, by simpa using h.symm⟩
      | cons x a =>
        simp only [List.cons_append, List.cons.injEq] at h
        exact .inr ⟨a, b, h.2⟩

end Filter
end DocPipe
