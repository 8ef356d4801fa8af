import DocPipe.Filter.Comparison
import DocPipe.Proofs.Text.Lowercase

/-!
# The text operators and case

`contains`, `startsWith` and `endsWith` put the text of the value and that of the literal into lower
case, each as a whole, and compare what they get.

## ASCII

For ASCII letters this does what it should: it makes no difference in which case they are written,
in the value or in the literal, whatever stands around them (`holds_recased`).

## Cuts

It is not true that a text passes the test for its own parts.  A part is lowered by itself on one
side and within the whole on the other, and a capital sigma may end a word in the one and not in the
other.  `parts_pass_iff_keepsSigmas` says exactly when this happens, and `sigma_at_cuts` that it
does.  Parts without a capital sigma are safe (`parts_pass_of_notMem`).
-/

namespace DocPipe
namespace Filter

open Text

/-! ## Two strings -/

theorem contains_string (s n : String) :
    Operator.contains.holds (.string s) (.string n) =
      occursIn (toLower n.toList) (toLower s.toList) := rfl

theorem startsWith_string (s n : String) :
    Operator.startsWith.holds (.string s) (.string n) =
      (toLower n.toList).isPrefixOf (toLower s.toList) := rfl

theorem endsWith_string (s n : String) :
    Operator.endsWith.holds (.string s) (.string n) =
      (toLower n.toList).isSuffixOf (toLower s.toList) := rfl

/-! ## The case of ASCII letters -/

/-- Whether two values differ in nothing but the case of ASCII letters in their strings: in the
string that the value is, or in those of the list. -/
inductive Recased : Value → Value → Prop where
  | refl (v : Value) : Recased v v
  | string {s t : String} (h : SameLetters s.toList t.toList) : Recased (.string s) (.string t)
  | array {items items' : List Value} (h : List.Forall₂ Recased items items') :
      Recased (.array items) (.array items')

variable {v v' : Value}

/-- Such values have the same lower-case text. -/
theorem Recased.loweredText?_eq (h : Recased v v') : loweredText? v = loweredText? v' := by
  cases h with
  | refl => rfl
  | string hletters => exact congrArg some (toLower_congr hletters)
  | array => rfl

theorem Recased.textPasses_eq (h : Recased v v') (test : List Char → Bool) :
    textPasses test v = textPasses test v' := by
  unfold textPasses
  rw [h.loweredText?_eq]

/-- Among the items of two such lists, a test is passed in both or in neither. -/
theorem any_textPasses_eq {items items' : List Value} (h : List.Forall₂ Recased items items')
    (test : List Char → Bool) :
    items.any (textPasses test) = items'.any (textPasses test) := by
  induction h with
  | nil => rfl
  | cons hhead _ ih => rw [List.any_cons, List.any_cons, hhead.textPasses_eq, ih]

/-- A value is tested for containing a text as a list, or by its own text. -/
theorem Recased.holds_contains_eq (h : Recased v v') (l : Literal) :
    Operator.contains.holds v l = Operator.contains.holds v' l := by
  cases h with
  | refl => rfl
  | string hletters =>
    exact (Recased.string hletters).textPasses_eq (occursIn (toLower l.text.toList))
  | array hitems => exact any_textPasses_eq hitems (· == toLower l.text.toList)

/-- A literal is looked at in lower case only. -/
theorem holds_congr_of_toLower {op : Operator} (hop : ∀ s, op ≠ .symbol s) {l m : Literal}
    (h : toLower l.text.toList = toLower m.text.toList) (v : Value) :
    op.holds v l = op.holds v m := by
  unfold Operator.holds
  rw [h]
  cases op with
  | symbol s => exact absurd rfl (hop s)
  | contains => rfl
  | startsWith => rfl
  | endsWith => rfl

/-- **In which case ASCII letters are written makes no difference to the text operators,** neither
in the value nor in the literal, and whatever stands around the letters. -/
theorem holds_recased {s t : String} (hv : Recased v v') (hs : SameLetters s.toList t.toList) :
    Operator.contains.holds v (.string s) = Operator.contains.holds v' (.string t) ∧
      Operator.startsWith.holds v (.string s) = Operator.startsWith.holds v' (.string t) ∧
      Operator.endsWith.holds v (.string s) = Operator.endsWith.holds v' (.string t) := by
  have hlower : toLower (Literal.string s).text.toList = toLower (Literal.string t).text.toList :=
    toLower_congr hs
  refine ⟨?_, ?_, ?_⟩
  · rw [holds_congr_of_toLower (by simp) hlower, hv.holds_contains_eq]
  · rw [holds_congr_of_toLower (by simp) hlower]
    exact hv.textPasses_eq (toLower t.toList).isPrefixOf
  · rw [holds_congr_of_toLower (by simp) hlower]
    exact hv.textPasses_eq (toLower t.toList).isSuffixOf

/-- Letters beside a sigma that ends its word and beside one that does not, in a list that has
other items too. -/
theorem holds_recased_sigma :
    let v : Value := .array [.string "aΣ.b", .string "ΣaΣ", .number (.integer 7 (by decide))]
    let v' : Value := .array [.string "AΣ.B", .string "ΣAΣ", .number (.integer 7 (by decide))]
    Recased v v' ∧ SameLetters "ΣaΣ".toList "ΣAΣ".toList ∧
      Operator.contains.holds v (.string "ΣaΣ") = Operator.contains.holds v' (.string "ΣAΣ") ∧
      Operator.startsWith.holds v (.string "ΣaΣ") = Operator.startsWith.holds v' (.string "ΣAΣ") ∧
      Operator.endsWith.holds v (.string "ΣaΣ") = Operator.endsWith.holds v' (.string "ΣAΣ") := by
  intro v v'
  have hs : SameLetters "ΣaΣ".toList "ΣAΣ".toList := by
    unfold SameLetters
    decide
  have hdot : SameLetters "aΣ.b".toList "AΣ.B".toList := by
    unfold SameLetters
    decide
  have hv : Recased v v' :=
    .array (.cons (.string hdot) (.cons (.string hs) (.cons (.refl _) .nil)))
  exact ⟨hv, hs, holds_recased hv hs⟩

/-! ## Parts -/

/-- A list that has the length of the first part of another is its beginning only if it is that
part. -/
theorem isPrefixOf_append_iff {n l r : List Char} (h : l.length = n.length) :
    n.isPrefixOf (l ++ r) = true ↔ l = n := by
  rw [List.isPrefixOf_iff_prefix, List.prefix_iff_eq_take, ← h, List.take_left]
  exact eq_comm

theorem isSuffixOf_append_iff {n l r : List Char} (h : r.length = n.length) :
    n.isSuffixOf (l ++ r) = true ↔ r = n := by
  rw [List.isSuffixOf_iff_suffix, List.suffix_iff_eq_drop, List.length_append, h,
    Nat.add_sub_cancel, List.drop_left]
  exact eq_comm

/-- A list in which another of one item less stands, other than at the end, begins with it. -/
theorem eq_of_append_singleton {l n u v : List Char} {x : Char} (hlength : l.length = n.length)
    (hlast : n.getLast? ≠ some x) (h : l ++ [x] = u ++ n ++ v) : l = n := by
  have hsum := congrArg List.length h
  simp only [List.length_append, List.length_singleton] at hsum
  cases u with
  | nil => exact (List.append_inj h hlength).1
  | cons c u =>
    cases v with
    | nil =>
      rw [List.append_nil] at h
      by_cases hn : n = []
      · rw [hn, List.length_nil] at hlength
        rw [hn, List.eq_nil_of_length_eq_zero hlength]
      · have hend := congrArg List.getLast? h
        rw [List.getLast?_concat, List.getLast?_append_of_ne_nil _ hn] at hend
        exact absurd hend.symm hlast
    | cons d v =>
      simp only [List.length_cons] at hsum
      omega

theorem eq_of_singleton_append {l n u v : List Char} {x : Char} (hlength : l.length = n.length)
    (hhead : n.head? ≠ some x) (h : x :: l = u ++ n ++ v) : l = n := by
  have hreversed : l.reverse ++ [x] = v.reverse ++ n.reverse ++ u.reverse := by
    rw [← List.reverse_cons, h, List.reverse_append, List.reverse_append, List.append_assoc]
  have heq := eq_of_append_singleton (by rwa [List.length_reverse, List.length_reverse])
    (by rwa [List.getLast?_reverse]) hreversed
  exact List.reverse_inj.mp heq

/-- There is a small letter other than a given character. -/
theorem exists_letter_ne (o : Option Char) :
    ∃ x : Char, x.isAlpha = true ∧ x.toLower = x ∧ o ≠ some x := by
  by_cases h : o = some 'a'
  · exact ⟨'b', by decide, by decide, by rw [h]; decide⟩
  · exact ⟨'a', by decide, by decide, h⟩

/-- A text starts with its first part exactly if that part keeps its sigmas. -/
theorem startsWith_append_iff (n b : String) :
    Operator.startsWith.holds (.string (n ++ b)) (.string n) = true ↔
      KeepsSigmas [] n.toList b.toList := by
  have hparts := toLower_append_append [] n.toList b.toList
  rw [List.nil_append, lowerBetween, List.nil_append] at hparts
  rw [startsWith_string, String.toList_append, hparts,
    isPrefixOf_append_iff (length_lowerBetween_eq _ _ _), keepsSigmas_iff]

/-- A text ends with its last part exactly if that part keeps its sigmas. -/
theorem endsWith_append_iff (a n : String) :
    Operator.endsWith.holds (.string (a ++ n)) (.string n) = true ↔
      KeepsSigmas a.toList n.toList [] := by
  have hparts := toLower_append_append a.toList n.toList []
  rw [List.append_nil, lowerFrom, List.append_nil] at hparts
  rw [endsWith_string, String.toList_append, hparts,
    isSuffixOf_append_iff (length_lowerBetween_eq _ _ _), keepsSigmas_iff]

theorem contains_append_iff (a n b : String) :
    Operator.contains.holds (.string (a ++ n ++ b)) (.string n) = true ↔
      ∃ u v, lowerBetween [] a.toList (n.toList ++ b.toList) ++
        lowerBetween a.toList.reverse n.toList b.toList ++
        lowerFrom (n.toList.reverse ++ a.toList.reverse) b.toList =
          u ++ toLower n.toList ++ v := by
  rw [contains_string, occursIn_iff, String.toList_append, String.toList_append,
    toLower_append_append]

/-- A text contains a part of itself that keeps its sigmas. -/
theorem contains_of_keepsSigmas {a n b : String}
    (h : KeepsSigmas a.toList n.toList b.toList) :
    Operator.contains.holds (.string (a ++ n ++ b)) (.string n) = true := by
  rw [contains_append_iff, keepsSigmas_iff.mp h]
  exact ⟨_, _, rfl⟩

/-- A part without a capital sigma passes every test, wherever it is cut. -/
theorem parts_pass_of_notMem {n : String} (h : 'Σ' ∉ n.toList) (a b : String) :
    Operator.contains.holds (.string (a ++ n ++ b)) (.string n) = true ∧
      Operator.startsWith.holds (.string (n ++ b)) (.string n) = true ∧
      Operator.endsWith.holds (.string (a ++ n)) (.string n) = true :=
  ⟨contains_of_keepsSigmas (keepsSigmas_of_notMem h _ _),
    (startsWith_append_iff n b).mpr (keepsSigmas_of_notMem h _ _),
    (endsWith_append_iff a n).mpr (keepsSigmas_of_notMem h _ _)⟩

/-- A text that is found in itself with another letter behind it keeps its sigmas there. -/
theorem keepsSigmas_of_contains_before {n : String} {x : Char} (hx : x.isAlpha = true)
    (hsmall : x.toLower = x) (hlast : (toLower n.toList).getLast? ≠ some x)
    (h : Operator.contains.holds (.string ("" ++ n ++ String.ofList [x])) (.string n) = true) :
    KeepsSigmas [] n.toList [x] := by
  obtain ⟨u, v, heq⟩ := (contains_append_iff "" n (String.ofList [x])).mp h
  have hletter : (String.ofList [x]).toList = [x] := String.toList_ofList
  rw [hletter, String.toList_empty, lowerBetween, List.nil_append, ← lowerBetween_nil _ [x],
    lowerBetween_of_isAlpha hx, hsmall] at heq
  exact keepsSigmas_iff.mpr (eq_of_append_singleton (length_lowerBetween_eq _ _ _) hlast heq)

/-- A text that is found in itself with another letter in front of it keeps its sigmas there. -/
theorem keepsSigmas_of_contains_behind {n : String} {x : Char} (hx : x.isAlpha = true)
    (hsmall : x.toLower = x) (hhead : (toLower n.toList).head? ≠ some x)
    (h : Operator.contains.holds (.string (String.ofList [x] ++ n ++ "")) (.string n) = true) :
    KeepsSigmas [x] n.toList [] := by
  obtain ⟨u, v, heq⟩ := (contains_append_iff (String.ofList [x]) n "").mp h
  have hletter : (String.ofList [x]).toList = [x] := String.toList_ofList
  rw [hletter, String.toList_empty, lowerFrom, List.append_nil, lowerBetween_of_isAlpha hx,
    hsmall] at heq
  exact keepsSigmas_iff.mpr (eq_of_singleton_append (length_lowerBetween_eq _ _ _) hhead heq)

/-- A text that is found wherever it stands keeps its sigmas there.  It is enough that it is found
between letters that it neither begins nor ends with. -/
theorem keepsSigmas_of_forall_contains {n : String}
    (h : ∀ a b : String, Operator.contains.holds (.string (a ++ n ++ b)) (.string n) = true)
    (before after : List Char) : KeepsSigmas before n.toList after := by
  obtain ⟨x, hx, hxsmall, hlast⟩ := exists_letter_ne (toLower n.toList).getLast?
  obtain ⟨y, hy, hysmall, hhead⟩ := exists_letter_ne (toLower n.toList).head?
  have hafter := keepsSigmas_of_contains_before hx hxsmall hlast (h "" (String.ofList [x]))
  have hbefore := keepsSigmas_of_contains_behind hy hysmall hhead (h (String.ofList [y]) "")
  exact keepsSigmas_of_letters hx hy hafter hbefore before after

/-- **A text passes the tests for its parts as far as the parts keep their sigmas.**  A text starts
with its first part, and ends with its last, exactly if that part keeps its sigmas in it.  It
contains every part that keeps its sigmas; and a text is contained in all texts around it exactly if
it keeps its sigmas in all of them. -/
theorem parts_pass_iff_keepsSigmas (n : String) :
    (∀ b : String, Operator.startsWith.holds (.string (n ++ b)) (.string n) = true ↔
      KeepsSigmas [] n.toList b.toList) ∧
    (∀ a : String, Operator.endsWith.holds (.string (a ++ n)) (.string n) = true ↔
      KeepsSigmas a.toList n.toList []) ∧
    (∀ a b : String, KeepsSigmas a.toList n.toList b.toList →
      Operator.contains.holds (.string (a ++ n ++ b)) (.string n) = true) ∧
    ((∀ a b : String, Operator.contains.holds (.string (a ++ n ++ b)) (.string n) = true) ↔
      ∀ a b : String, KeepsSigmas a.toList n.toList b.toList) := by
  refine ⟨startsWith_append_iff n, fun a => endsWith_append_iff a n,
    fun a b => contains_of_keepsSigmas, ?_, ?_⟩
  · intro h a b
    exact keepsSigmas_of_forall_contains h a.toList b.toList
  · intro h a b
    exact contains_of_keepsSigmas (h a b)

/-- A sigma that ends a word is another letter where the word goes on. -/
theorem sigma_at_cuts :
    Operator.contains.holds (.string ("" ++ "ΑΣ" ++ "Α")) (.string "ΑΣ") = false ∧
      Operator.startsWith.holds (.string ("ΑΣ" ++ "Α")) (.string "ΑΣ") = false ∧
      Operator.endsWith.holds (.string ("Α" ++ "Σ")) (.string "Σ") = false := by
  have hignorable : isCaseIgnorable 'Α' = false := inRanges_eq_false (by decide +kernel)
  have hcased : isCased 'Α' = true := by decide +kernel
  have hmeets : ∀ cs, meetsCased ('Α' :: cs) = true := by
    intro cs
    rw [meetsCased_cons, hignorable, hcased]
    rfl
  have halpha : ∀ before after, lowerAt before 'Α' after = ['α'] := by
    intro before after
    have hlower : lowerBeyondAscii 'Α' = 'α' := by decide +kernel
    rw [lowerAt, if_neg (by decide), if_neg (by decide), if_neg (by decide), hlower]
  have hnone : meetsCased [] = false := rfl
  have hword : toLower "ΑΣ".toList = ['α', 'ς'] := by
    simp [toLower, lowerFrom, halpha, lowerAt_sigma, endsWord, hmeets, hnone]
  have hlonger : toLower "ΑΣΑ".toList = ['α', 'σ', 'α'] := by
    simp [toLower, lowerFrom, halpha, lowerAt_sigma, endsWord, hmeets]
  have halone : toLower "Σ".toList = ['σ'] := by
    simp [toLower, lowerFrom, lowerAt_sigma, endsWord, hnone]
  have hwhole : "" ++ "ΑΣ" ++ "Α" = "ΑΣΑ" := by decide
  have hfirst : "ΑΣ" ++ "Α" = "ΑΣΑ" := by decide
  have hlast : "Α" ++ "Σ" = "ΑΣ" := by decide
  rw [contains_string, startsWith_string, endsWith_string, hwhole, hfirst, hlast, hword, hlonger,
    halone]
  decide

end Filter
end DocPipe
