/-!
# Counts and positions

Positions in paths and limits on the number of items are counted in a machine word.  They are
written as a row of digits; a plus sign may stand in front, and any number of zeros.
-/

namespace DocPipe

-- Powers are those of the core library, whatever algebra is in scope; hence the typed exponents.
attribute [local instance (high)] instPowNat

/-- Counts and positions stay below this bound. -/
def wordBound : Nat := 2 ^ (64 : Nat)

/-- The count that a text denotes: digits with an optional plus sign in front. -/
def wordOfText? (text : List Char) : Option Nat :=
  let digits := match text with
    | '+' :: cs => cs
    | cs => cs
  if digits ≠ [] ∧ digits.all Char.isDigit ∧ Nat.ofDigitChars 10 digits 0 < wordBound then
    some (Nat.ofDigitChars 10 digits 0)
  else none

/-- A word that is written down is read as that word. -/
theorem wordOfText?_toString {n : Nat} (hn : n < wordBound) :
    wordOfText? (toString n).toList = some n := by
  have htext : (toString n).toList = Nat.toDigits 10 n := Nat.toList_repr
  have hdigits : ∀ c ∈ Nat.toDigits 10 n, c.isDigit = true := fun c hc =>
    Nat.isDigit_of_mem_toDigits (by omega) (by omega) hc
  have hvalue : Nat.ofDigitChars 10 (Nat.toDigits 10 n) 0 = n := Nat.ofDigitChars_ten_toDigits
  have hunsigned : ∀ cs, Nat.toDigits 10 n ≠ '+' :: cs := by
    intro cs heq
    have hplus := hdigits '+' (heq ▸ List.mem_cons_self)
    exact absurd hplus (by decide)
  rw [htext, wordOfText?]
  · rw [if_pos ⟨Nat.toDigits_ne_nil, List.all_eq_true.mpr hdigits, by rwa [hvalue]⟩, hvalue]
  · exact hunsigned

end DocPipe
