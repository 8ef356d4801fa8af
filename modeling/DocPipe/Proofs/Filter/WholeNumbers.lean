import DocPipe.Proofs.Filter.Written
import DocPipe.Proofs.Number.Integers

/-!
# Comparing integers

An item that is an integer is kept exactly, and so is the numeral in a filter, as long as it is
text.  To be compared, both become binary64 numbers, by different routes: one from the integer and
one from the decimal.  Beyond 2⁵³ this loses digits, and two integers may then come out as equal.

What is never lost is the order (`comparisons_keep_order`).  A comparison may find equal what is
not, but nothing smaller or larger that is not; the six symbols agree with each other in any case;
and they agree with the order of the integers if the numeral is below 2⁵³, however large the item
is.
-/

namespace DocPipe
namespace Filter

-- Powers are those of the core library, whatever algebra is in scope; hence the typed exponents.
attribute [local instance (high)] instPowNat

/-! ## Symbols and orders -/

/-- Whether a symbol stands for an order of its two sides. -/
def Symbol.accepts : Symbol → Ordering → Bool
  | .equal, o => o.isEq
  | .notEqual, o => o.isNe
  | .greater, o => o.isGT
  | .less, o => o.isLT
  | .greaterEqual, o => o.isGE
  | .lessEqual, o => o.isLE

/-- Of an order, exactly one of smaller, equal and larger is true, and the other symbols say what
follows from it. -/
theorem Symbol.accepts_agree (o : Ordering) :
    [less.accepts o, equal.accepts o, greater.accepts o].count true = 1 ∧
      notEqual.accepts o = !equal.accepts o ∧
      greaterEqual.accepts o = (greater.accepts o || equal.accepts o) ∧
      lessEqual.accepts o = (less.accepts o || equal.accepts o) := by
  cases o <;> decide

/-- A symbol between two numbers asks for the order of their ranks. -/
theorem Symbol.holds_number (s : Symbol) {n : Number} {x : Binary64}
    (hn : n.toBinary64.isNaN = false) (hx : x.isNaN = false) :
    s.holds (.number n) (.number x) = s.accepts (compare n.toBinary64.toInt x.toInt) := by
  have horder : order? (.number n) (.number x) = some (compare n.toBinary64.toInt x.toInt) := by
    show n.toBinary64.compare? x = _
    rw [Binary64.compare?, hn, hx]
    rfl
  have hequals : equals (.number n) (.number x) =
      (compare n.toBinary64.toInt x.toInt).isEq := by
    show (n.toBinary64.compare? x == some .eq) = _
    rw [show n.toBinary64.compare? x = _ from horder]
    cases compare n.toBinary64.toInt x.toInt <;> rfl
  unfold holds
  rw [horder, hequals]
  cases s with
  | notEqual => cases compare n.toBinary64.toInt x.toInt <;> rfl
  | _ => rfl

/-! ## The item itself -/

/-- The word that names an item without fields. -/
def itemField : Field := ⟨"value", [.field "value"]⟩

theorem isNamed_itemField : itemField.IsNamed := by
  have hpath : Path.parse "value" = .ok [.field "value"] := by decide +kernel
  exact ⟨by decide, .word (by decide) (by decide) (by decide) hpath⟩

/-- The comparison of an item without fields with a numeral, as a filter. -/
def comparisonText (s : Symbol) (p : Positional) : String :=
  "value" ++ " " ++ s.spelling ++ " " ++ String.ofList p.text

/-- **A comparison of an item with a numeral asks for the order of two ranks.** -/
theorem evaluateText_comparisonText (s : Symbol) (p : Positional) {n : Number}
    (hn : n.toBinary64.isNaN = false) :
    evaluateText (comparisonText s p) (.number n) =
      s.accepts (compare n.toBinary64.toInt p.toBinary64.toInt) := by
  have hscan : Token.scan (String.ofList p.text).toList = .ok [.word (String.ofList p.text)] :=
    Token.scan_word (Token.isPlain_text p)
  have hliteral : IsLiteral (.word (String.ofList p.text)) (.number p.toBinary64) := by
    refine .number ?_
    rw [String.toList_ofList]
    exact Literal.numberOfWord?_text p
  obtain ⟨ts, hspells⟩ := spells_comparison isNamed_itemField (.symbol s) hscan hliteral
  have hcount : 0 = 0 + connectives ts := hspells.derives.joins_eq
  have hparse := hspells.expr_of_term.parse_eq (Nat.zero_le _) (by omega)
  exact (evaluateText_eq hparse (.number n)).trans (s.holds_number hn p.isNaN_toBinary64)

/-! ## The order of the integers -/

/-- **Comparing integers never inverts their order.**  Equal integers are found equal; what is found
smaller or larger is; exactly one of the three is found, and the other symbols say what follows from
it.  All six symbols stand for the order of the integers if the one in the filter is below 2⁵³. -/
theorem comparisons_keep_order {a n : Int} (fits : FitsWord a) {p : Positional}
    (hp : p.DenotesInt n) :
    let holds := fun s => evaluateText (comparisonText s p) (.number (.integer a fits))
    (a = n → holds .equal = true ∧ holds .greaterEqual = true ∧ holds .lessEqual = true ∧
      holds .notEqual = false ∧ holds .greater = false ∧ holds .less = false) ∧
    (holds .less = true → a < n) ∧ (holds .greater = true → n < a) ∧
    [holds .less, holds .equal, holds .greater].count true = 1 ∧
    holds .notEqual = !holds .equal ∧
    holds .greaterEqual = (holds .greater || holds .equal) ∧
    holds .lessEqual = (holds .less || holds .equal) ∧
    (n.natAbs < 2 ^ (53 : Nat) → ∀ s, holds s = s.accepts (compare a n)) := by
  intro holds
  have hholds : ∀ s, holds s =
      s.accepts (compare (Binary64.ofInt a).toInt (Binary64.ofInt n).toInt) := by
    intro s
    rw [← hp.toInt_eq]
    exact evaluateText_comparisonText s p (Binary64.isNaN_ofInt a)
  have hle : a ≤ n → (Binary64.ofInt a).toInt ≤ (Binary64.ofInt n).toInt := Binary64.toInt_ofInt_le
  have hge : n ≤ a → (Binary64.ofInt n).toInt ≤ (Binary64.ofInt a).toInt := Binary64.toInt_ofInt_le
  simp only [hholds]
  refine ⟨?_, ?_, ?_, ?_⟩
  · rintro rfl
    rw [Int.compare_eq_eq.mpr rfl]
    decide
  · intro hless
    have := Int.compare_eq_lt.mp (Ordering.isLT_iff_eq_lt.mp hless)
    omega
  · intro hgreater
    have := Int.compare_eq_gt.mp (Ordering.isGT_iff_eq_gt.mp hgreater)
    omega
  · obtain ⟨hone, hnot, hgreater, hless⟩ :=
      Symbol.accepts_agree (compare (Binary64.ofInt a).toInt (Binary64.ofInt n).toInt)
    refine ⟨hone, hnot, hgreater, hless, ?_⟩
    intro hsmall s
    rw [Binary64.compare_toInt_ofInt hsmall]

/-- The smallest item and the smallest numeral that is told from all others. -/
theorem comparisons_keep_order_smallest :
    let smallest : Positional := .ofInt (-9007199254740991)
    FitsWord (-9223372036854775808) ∧ smallest.DenotesInt (-9007199254740991) ∧
      comparisonText .less smallest = "value < -9007199254740991" ∧
      evaluateText "value < -9007199254740991"
        (.number (.integer (-9223372036854775808) (by decide))) = true := by
  intro smallest
  have fits : FitsWord (-9223372036854775808) := by decide
  have hdenotes : smallest.DenotesInt (-9007199254740991) := Positional.denotesInt_ofInt _
  have htext : comparisonText .less smallest = "value < -9007199254740991" := by decide +kernel
  obtain ⟨-, -, -, -, -, -, -, hexact⟩ := comparisons_keep_order fits hdenotes
  refine ⟨fits, hdenotes, htext, ?_⟩
  rw [← htext]
  exact hexact (by decide) .less

end Filter
end DocPipe
