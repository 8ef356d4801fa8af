import DocPipe.Filter.Comparison
import DocPipe.Proofs.Number.IntegerText
import DocPipe.Proofs.Text.Lowercase

/-!
# Equality and the text operators

What equals a literal should contain it, start and end with it, and be a member of each list in
which it stands.  But equality compares two numbers as numbers, and the text operators compare the
text that a value has with the text of the literal.

* Except between two numbers, equal is what has the same text, and numbers that are equal as
  binary64 numbers are written alike.  So the text operators follow from equality.
* What is left is an integer, which keeps all its digits, and a number, which has lost those beyond
  the 53 bits of its significand.  Below 2⁵³ there are none to lose.  From there on, an integer may
  equal a literal and pass none of its tests (`large_integer_fails`), even if the literal is the
  integer itself in decimal.

`tests_of_equals` puts the two together, and says of the second case that all tests fail if the
texts differ, since that of the number is then no part of the integer's.
-/

namespace DocPipe

-- Powers are those of the core library, whatever algebra is in scope; hence the typed exponents.
attribute [local instance (high)] instPowNat

/-! ## Numerals in lower case -/

/-- A numeral has no letters, so lower case changes nothing. -/
theorem Positional.toLower_text (p : Positional) : Text.toLower p.text = p.text := by
  have hdigit : ∀ c : Char, c.isDigit = true → c.toNat < 0x80 ∧ c.toLower = c := by
    intro c hc
    have hrange : 48 ≤ c.toNat ∧ c.toNat ≤ 57 := Char.isDigit_iff_toNat.mp hc
    refine ⟨by omega, Char.toNat_inj.mp ?_⟩
    rw [Text.toNat_toLower, if_neg (by omega)]
  exact Text.lowerFrom_ascii (p.forall_mem_text (by decide) (by decide) hdigit) []

theorem toLower_intText (n : Int) : Text.toLower (intText n) = intText n := by
  rw [← Positional.text_ofInt, Positional.toLower_text]

theorem Binary64.toLower_plainText {x : Binary64} (h : x.isFinite = true) :
    Text.toLower x.plainText = x.plainText := by
  obtain ⟨p, htext, -⟩ := exists_positional_plainText h
  rw [← htext, p.toLower_text]

namespace Filter

open Text

variable {v : Value} {l : Literal}

/-! ## The same text -/

/-- The lower-case text of a value with the text of a literal is the text that is looked for. -/
theorem textPasses_of_scalarText? (h : v.scalarText? = some l.text) (test : List Char → Bool) :
    textPasses test v = test (toLower l.text.toList) := by
  rw [textPasses, loweredText?, h]
  rfl

/-- An item with the text of the literal makes it a member. -/
theorem contains_of_mem {items : List Value} (hmem : v ∈ items)
    (h : v.scalarText? = some l.text) : Operator.contains.holds (.array items) l = true := by
  show items.any (textPasses (· == toLower l.text.toList)) = true
  rw [List.any_eq_true]
  exact ⟨v, hmem, by rw [textPasses_of_scalarText? h, beq_self_eq_true]⟩

/-! ## Equal values -/

/-- What equals a literal has its text, or is an integer and the literal a number written like the
one nearest to the integer. -/
theorem scalarText?_of_equals (hv : v ≠ .null) (h : equals v l = true) :
    v.scalarText? = some l.text ∨ ∃ n fits x, v = .number (.integer n fits) ∧ l = .number x ∧
      x.plainText = (Binary64.ofInt n).plainText := by
  cases v with
  | null => exact absurd rfl hv
  | bool b =>
    cases l with
    | null => exact absurd h Bool.false_ne_true
    | _ => exact .inl (beq_iff_eq.mp h)
  | string s =>
    cases l with
    | null => exact absurd h Bool.false_ne_true
    | _ => exact .inl (beq_iff_eq.mp h)
  | number n =>
    cases l with
    | null => exact absurd h Bool.false_ne_true
    | number x =>
      have htext : n.toBinary64.plainText = x.plainText := Binary64.plainText_congr h
      cases n with
      | integer n fits => exact .inr ⟨n, fits, x, rfl, rfl, htext.symm⟩
      | float y => exact .inl (congrArg (fun t => some (String.ofList t)) htext)
    | _ => exact .inl (beq_iff_eq.mp h)
  | array items => cases l <;> exact absurd h Bool.false_ne_true
  | object fields => cases l <;> exact absurd h Bool.false_ne_true

/-- What equals something is no list, so `contains` looks at its text. -/
theorem holds_contains_of_equals (h : equals v l = true) :
    Operator.contains.holds v l = textPasses (occursIn (toLower l.text.toList)) v := by
  cases v with
  | array items => cases l <;> exact absurd h Bool.false_ne_true
  | _ => rfl

/-- **A test that the literal passes, and nothing that does not contain it, is passed by an equal
value exactly if it has the literal's text.** -/
theorem textPasses_iff_of_equals (hv : v ≠ .null) (h : equals v l = true) {test : List Char → Bool}
    (hself : test (toLower l.text.toList) = true)
    (hwithin : ∀ t, test t = true → toLower l.text.toList <:+: t) :
    textPasses test v = true ↔ v.scalarText? = some l.text := by
  constructor
  · intro hpass
    rcases scalarText?_of_equals hv h with htext | ⟨n, fits, x, rfl, rfl, hx⟩
    · exact htext
    · have hfits : n.natAbs < 2 ^ (64 : Nat) := by
        have := fits.1
        have := fits.2
        omega
      have hpart := hwithin _ hpass
      simp only [Literal.text, Number.plainText, String.toList_ofList] at hpart
      rw [hx, toLower_intText, Binary64.toLower_plainText (Binary64.isFinite_ofInt (by omega))]
        at hpart
      have htext := Binary64.plainText_ofInt_of_infix hfits hpart
      show some (String.ofList (intText n)) = some (String.ofList x.plainText)
      rw [hx, htext]
  · intro htext
    rw [textPasses_of_scalarText? htext]
    exact hself

/-- **What equals a literal passes its tests exactly if it has its text, which it has unless it is
an integer from 2⁵³ on and the literal a number.** -/
theorem tests_of_equals (hv : v ≠ .null) (h : equals v l = true) :
    (Operator.contains.holds v l = true ↔ v.scalarText? = some l.text) ∧
    (Operator.startsWith.holds v l = true ↔ v.scalarText? = some l.text) ∧
    (Operator.endsWith.holds v l = true ↔ v.scalarText? = some l.text) ∧
    (Operator.contains.holds (.array [v]) l = true ↔ v.scalarText? = some l.text) ∧
    (v.scalarText? = some l.text →
      ∀ items, v ∈ items → Operator.contains.holds (.array items) l = true) ∧
    (v.scalarText? = some l.text ∨ ∃ n fits x, v = .number (.integer n fits) ∧ l = .number x ∧
      2 ^ (53 : Nat) ≤ n.natAbs) := by
  refine ⟨?_, ?_, ?_, ?_, fun htext items hmem => contains_of_mem hmem htext, ?_⟩
  · rw [holds_contains_of_equals h]
    refine textPasses_iff_of_equals hv h (occursIn_iff.mpr ⟨[], [], by simp⟩) fun t ht => ?_
    obtain ⟨before, after, rfl⟩ := occursIn_iff.mp ht
    exact ⟨before, after, rfl⟩
  · exact textPasses_iff_of_equals hv h (List.isPrefixOf_iff_prefix.mpr (List.prefix_refl _))
      fun t ht => (List.isPrefixOf_iff_prefix.mp ht).isInfix
  · exact textPasses_iff_of_equals hv h (List.isSuffixOf_iff_suffix.mpr (List.suffix_refl _))
      fun t ht => (List.isSuffixOf_iff_suffix.mp ht).isInfix
  · have hsingle : Operator.contains.holds (.array [v]) l =
        textPasses (· == toLower l.text.toList) v := Bool.or_false _
    rw [hsingle]
    refine textPasses_iff_of_equals hv h (beq_self_eq_true _) fun t ht => ?_
    obtain rfl := beq_iff_eq.mp ht
    exact List.infix_refl _
  · rcases scalarText?_of_equals hv h with htext | ⟨n, fits, x, rfl, rfl, hx⟩
    · exact .inl htext
    · by_cases hsmall : n.natAbs < 2 ^ (53 : Nat)
      · refine .inl ?_
        show some (String.ofList (intText n)) = some (String.ofList x.plainText)
        rw [hx, Binary64.plainText_ofInt hsmall]
      · exact .inr ⟨n, fits, x, rfl, rfl, Nat.le_of_not_lt hsmall⟩

/-- An integer and the same number with a fraction of zero, which is not written. -/
theorem tests_of_equals_fraction :
    let v : Value := .number (.integer (-42) (by decide))
    let l : Literal := .number (Binary64.ofInt (-42))
    Literal.ofWord? "-42.0" = some l ∧ v ≠ .null ∧ equals v l = true ∧
      Operator.contains.holds v l = true ∧ Operator.startsWith.holds v l = true ∧
      Operator.endsWith.holds v l = true ∧
      Operator.contains.holds (.array [.null, v]) l = true := by
  intro v l
  have hword : Literal.ofWord? "-42.0" = some l := by decide +kernel
  have hv : v ≠ .null := by simp [v]
  have hequal : equals v l = true := by decide +kernel
  have htext : v.scalarText? = some l.text := by decide +kernel
  obtain ⟨hcontains, hstarts, hends, -, hmember, -⟩ := tests_of_equals hv hequal
  exact ⟨hword, hv, hequal, hcontains.mpr htext, hstarts.mpr htext, hends.mpr htext,
    hmember htext [.null, v] (by simp)⟩

/-- An integer that equals the literal that it is in decimal, and passes none of the tests for it:
of the number that it is, fewer digits are written. -/
theorem large_integer_fails :
    let v : Value := .number (.integer 1152921504606846976 (by decide))
    let l : Literal := .number (Binary64.ofInt 1152921504606846976)
    Literal.ofWord? "1152921504606846976" = some l ∧ v ≠ .null ∧ equals v l = true ∧
      Operator.contains.holds v l = false ∧ Operator.startsWith.holds v l = false ∧
      Operator.endsWith.holds v l = false ∧ Operator.contains.holds (.array [v]) l = false := by
  intro v l
  have hword : Literal.ofWord? "1152921504606846976" = some l := by decide +kernel
  have hv : v ≠ .null := by simp [v]
  exact ⟨hword, hv, by decide +kernel, by decide +kernel, by decide +kernel, by decide +kernel,
    by decide +kernel⟩

end Filter
end DocPipe
