import DocPipe.Proofs.Json.Numeral

/-!
# Numbers that come back

`Number.IsReread` says that a number, printed alone and decoded alone, is itself again.  Fractional
numbers need not be: the decoder scales by powers of ten in binary64 arithmetic and may miss the
last place.  Integers always are, because their digits are collected exactly.

A number that comes back alone also comes back inside a list or an object.  For this it has to be
known that the decoder has read the text of the number to its end.  It might have left blanks, which
it skips before it complains, but there are no blanks in the text of a number.
-/

namespace DocPipe

namespace Json

/-! ## Integers -/

theorem le_ofDigitChars (ds : List Char) (acc : Nat) : acc ≤ Nat.ofDigitChars 10 ds acc := by
  induction ds generalizing acc with
  | nil => simp
  | cons d ds ih =>
    rw [Nat.ofDigitChars_cons]
    exact Nat.le_trans (by omega) (ih _)

/-- Digits that form a number within the bound are all collected. -/
theorem collect_of_digits {bound acc : Nat} {ds : List Char} (hdigits : ∀ d ∈ ds, d.isDigit = true)
    (hbound : Nat.ofDigitChars 10 ds acc ≤ bound) :
    collect bound acc ds = (Nat.ofDigitChars 10 ds acc, []) := by
  induction ds generalizing acc with
  | nil => simp [collect]
  | cons d ds ih =>
    obtain ⟨hd, hds⟩ := List.forall_mem_cons.mp hdigits
    rw [Nat.ofDigitChars_cons] at hbound
    have hstep : 10 * acc + digitValue d ≤ bound := Nat.le_trans (le_ofDigitChars ds _) hbound
    rw [collect, if_pos ⟨hd, hstep⟩, Nat.ofDigitChars_cons]
    exact ih hds hbound

/-- A positive number is not written with a zero in front. -/
theorem natText_eq_cons {n : Nat} (hn : 0 < n) :
    ∃ d ds, natText n = d :: ds ∧ d ≠ '0' ∧ ∀ c ∈ d :: ds, c.isDigit = true := by
  have hhead : ∃ d ds, natText n = d :: ds ∧ d ≠ '0' := by
    induction n using Nat.strongRecOn with
    | ind n ih =>
      by_cases hsmall : n < 10
      · refine ⟨n.digitChar, [], Nat.toDigits_of_lt_base hsmall, ?_⟩
        rw [Ne, Nat.digitChar_eq_zero]
        omega
      · obtain ⟨d, ds, hds, hd⟩ := ih (n / 10) (by omega) (by omega)
        refine ⟨d, ds ++ [(n % 10).digitChar], ?_, hd⟩
        rw [natText, Nat.toDigits_of_base_le (by omega) (by omega)]
        rw [natText] at hds
        rw [hds, List.cons_append]
  obtain ⟨d, ds, hds, hd⟩ := hhead
  refine ⟨d, ds, hds, hd, fun c hc => ?_⟩
  rw [← hds] at hc
  exact Nat.isDigit_of_mem_toDigits (by omega) (by omega) hc

/-- The digits of a number that fits the word are read as that number. -/
theorem readNumber_natText (positive : Bool) {n : Nat} (hn : n ≤ largestWord) :
    readNumber positive (natText n) = .ok (whole positive n, []) := by
  by_cases hzero : n = 0
  · subst hzero
    rfl
  · obtain ⟨d, ds, hds, hd, hdigits⟩ := natText_eq_cons (Nat.pos_of_ne_zero hzero)
    have hvalue : Nat.ofDigitChars 10 (d :: ds) 0 = n := by
      rw [← hds]
      exact Nat.ofDigitChars_ten_toDigits
    have hcollect : collect largestWord 0 (d :: ds) = (n, []) := by
      rw [collect_of_digits hdigits (by rwa [hvalue]), hvalue]
    rw [hds, readNumber_of_ne positive hd, if_pos (hdigits d List.mem_cons_self), hcollect]
    rfl

theorem readValue_minus (size room : Nat) (cs : List Char) :
    readValue size room ('-' :: cs) = (readNumber false cs).map fun p => (.number p.1, p.2) := by
  rw [readValue.eq_def]
  rfl

/-- A digit is none of the other characters. -/
theorem ne_of_isDigit {c d : Char} (hc : c.isDigit = true) (hd : d.isDigit = false) : c ≠ d := by
  rintro rfl
  exact absurd (hc.symm.trans hd) (by simp)

theorem isJsonBlank_of_isDigit {c : Char} (h : c.isDigit = true) : isJsonBlank c = false := by
  have hne : ∀ d : Char, d.isDigit = false → c ≠ d := fun _ => ne_of_isDigit h
  simp [isJsonBlank, hne ' ' rfl, hne '\n' rfl, hne '\t' rfl, hne '\r' rfl]

theorem skipBlanks_of_forall {cs : List Char} (h : ∀ c ∈ cs, isJsonBlank c = false) :
    skipBlanks cs = cs := by
  cases cs with
  | nil => rfl
  | cons c cs => exact List.dropWhile_cons_of_neg (by simp [h c List.mem_cons_self])

theorem readValue_digit (size room : Nat) {c : Char} (hdigit : c.isDigit = true)
    (cs : List Char) :
    readValue size room (c :: cs) =
      (readNumber true (c :: cs)).map fun p => (.number p.1, p.2) := by
  have hne : ∀ d : Char, d.isDigit = false → c ≠ d := fun _ => ne_of_isDigit hdigit
  have hskip : skipBlanks (c :: cs) = c :: cs :=
    List.dropWhile_cons_of_neg (by simp [isJsonBlank_of_isDigit hdigit])
  rw [readValue.eq_def, hskip]
  simp only
  rw [if_neg (hne 'n' rfl), if_neg (hne 't' rfl), if_neg (hne 'f' rfl), if_neg (hne '-' rfl),
    if_pos hdigit]

/-- An integer is read from its own text, and nothing is left. -/
theorem readValue_intText (size room : Nat) {n : Int} (hfits : FitsWord n) :
    readValue size room (intText n) = .ok (.number (.integer n hfits), []) := by
  have hlarge : n.natAbs ≤ largestWord := by
    show n.natAbs ≤ 2 ^ 64 - 1
    omega
  by_cases hneg : n < 0
  · have hwhole : whole false n.natAbs = .integer n hfits := by
      have habs : -(n.natAbs : Int) = n := by omega
      rw [whole, if_neg (by simp), if_neg (by omega), habs, Number.ofInt?, dif_pos hfits]
      rfl
    rw [intText, if_pos hneg, readValue_minus, readNumber_natText false hlarge, hwhole]
    rfl
  · have hwhole : whole true n.natAbs = .integer n hfits := by
      have habs : (n.natAbs : Int) = n := by omega
      rw [whole, if_pos rfl, habs, Number.ofInt?, dif_pos hfits]
      rfl
    have hhead : ∃ d ds, natText n.natAbs = d :: ds ∧ d.isDigit = true := by
      cases htext : natText n.natAbs with
      | nil => exact absurd htext Nat.toDigits_ne_nil
      | cons d ds =>
        refine ⟨d, ds, rfl, ?_⟩
        have hmem : d ∈ Nat.toDigits 10 n.natAbs := by
          rw [show Nat.toDigits 10 n.natAbs = d :: ds from htext]
          exact List.mem_cons_self
        exact Nat.isDigit_of_mem_toDigits (by omega) (by omega) hmem
    obtain ⟨d, ds, htext, hd⟩ := hhead
    rw [intText, if_neg hneg, htext, readValue_digit size room hd, ← htext,
      readNumber_natText true hlarge, hwhole]
    rfl

/-! ## The characters of a number -/

theorem isJsonBlank_of_mem_natText {n : Nat} {c : Char} (h : c ∈ natText n) :
    isJsonBlank c = false :=
  isJsonBlank_of_isDigit (Nat.isDigit_of_mem_toDigits (by omega) (by omega) h)

theorem isJsonBlank_of_mem_positional {digits : List Char} {exponent : Int}
    (hdigits : ∀ c ∈ digits, isJsonBlank c = false) :
    ∀ c ∈ Binary64.positional digits exponent, isJsonBlank c = false := by
  intro c hc
  have hzeros : ∀ n, c ∈ List.replicate n '0' → isJsonBlank c = false := by
    intro n h
    rw [(List.mem_replicate.mp h).2]
    rfl
  rw [Binary64.positional] at hc
  split at hc
  · exact (List.mem_append.mp hc).elim (hdigits c) (hzeros _)
  · simp only at hc
    split at hc
    · rcases List.mem_append.mp hc with h | h
      · exact hdigits c (List.mem_of_mem_take h)
      · rcases List.mem_cons.mp h with rfl | h
        · rfl
        · exact hdigits c (List.mem_of_mem_drop h)
    · rcases List.mem_cons.mp hc with rfl | h
      · rfl
      rcases List.mem_cons.mp h with rfl | h
      · rfl
      · exact (List.mem_append.mp h).elim (hzeros _) (hdigits c)

theorem isJsonBlank_of_mem_scientific {digits : List Char} {exponent : Int}
    (hdigits : ∀ c ∈ digits, isJsonBlank c = false) :
    ∀ c ∈ Binary64.scientific digits exponent, isJsonBlank c = false := by
  intro c hc
  rw [Binary64.scientific] at hc
  simp only [List.mem_append, List.mem_cons] at hc
  rcases hc with (h | h) | rfl | rfl | h
  · exact hdigits c (List.mem_of_mem_take h)
  · split at h
    · simp at h
    · rcases List.mem_cons.mp h with rfl | h
      · rfl
      · exact hdigits c (List.mem_of_mem_drop h)
  · rfl
  · split <;> rfl
  · exact isJsonBlank_of_mem_natText h

/-- The text of a number holds no blanks. -/
theorem isJsonBlank_of_mem_jsonText {n : Number} :
    ∀ c ∈ n.jsonText, isJsonBlank c = false := by
  intro c hc
  have hsign : ∀ negative, c ∈ Binary64.signText negative → isJsonBlank c = false := by
    intro negative h
    cases negative with
    | false => simp [Binary64.signText] at h
    | true => exact List.mem_singleton.mp h ▸ rfl
  cases n with
  | integer n hfits =>
    rw [Number.jsonText, intText] at hc
    split at hc
    · rcases List.mem_cons.mp hc with rfl | h
      · rfl
      · exact isJsonBlank_of_mem_natText h
    · exact isJsonBlank_of_mem_natText hc
  | float x =>
    rw [Number.jsonText, Binary64.jsonText] at hc
    by_cases hzero : x.rank = 0
    · rw [if_pos hzero] at hc
      rcases List.mem_append.mp hc with h | h
      · exact hsign _ h
      · simp only [List.mem_cons, List.not_mem_nil, or_false] at h
        rcases h with rfl | rfl | rfl <;> rfl
    · rw [if_neg hzero] at hc
      -- The search for the digits must not be evaluated, so it is abstracted first.
      generalize Shortest.shortest .toEven x.rank = found at hc
      obtain ⟨digits, exponent⟩ := found
      simp only at hc
      rcases List.mem_append.mp hc with h | h
      · exact hsign _ h
      · split at h
        · rcases List.mem_append.mp h with h | h
          · exact isJsonBlank_of_mem_positional (fun d => isJsonBlank_of_mem_natText) c h
          · split at h
            · simp only [List.mem_cons, List.not_mem_nil, or_false] at h
              rcases h with rfl | rfl <;> rfl
            · simp at h
        · exact isJsonBlank_of_mem_scientific (fun d => isJsonBlank_of_mem_natText) c h

end Json

namespace Number

/-! ## Numbers that come back -/

/-- Whether a number is itself again when it is printed alone and decoded alone. -/
def IsReread (n : Number) : Prop := Json.read (String.ofList n.jsonText) = .ok (.number n)

/-- An integer comes back. -/
theorem isReread_integer (n : Int) (hfits : FitsWord n) : IsReread (.integer n hfits) := by
  have htext : Json.readText (intText n) = .ok (.number (.integer n hfits)) := by
    simp only [Json.readText, Json.readValue_intText _ _ hfits, Json.skipBlanks, List.dropWhile_nil]
  rw [IsReread, Json.read, String.toList_ofList, jsonText, htext]
  rfl

end Number

namespace Json

/-- A number that comes back has been read to its end, behind its sign if it has one. -/
theorem readNumber_of_isReread {n : Number} (h : n.IsReread) :
    (∃ cs, n.jsonText = '-' :: cs ∧ readNumber false cs = .ok (n, [])) ∨
      ∃ c cs, n.jsonText = c :: cs ∧ c.isDigit = true ∧
        readNumber true (c :: cs) = .ok (n, []) := by
  have hblank := isJsonBlank_of_mem_jsonText (n := n)
  obtain ⟨rest, hvalue, hrest⟩ := exists_of_read h
  rw [String.toList_ofList] at hvalue
  -- What is left is blank, and no character of the text is, so nothing is left.
  have hdone : ∀ {positive : Bool} {cs : List Char}, cs <:+ n.jsonText →
      readNumber positive cs = .ok (n, rest) → readNumber positive cs = .ok (n, []) := by
    intro positive cs hcs hread
    have hsuffix := (frames_readNumber positive _ _ _ hread).1.trans hcs
    have hnil : rest = [] := by
      rw [← hrest]
      exact (skipBlanks_of_forall fun c hc => hblank c (hsuffix.subset hc)).symm
    rw [hread, hnil]
  rcases cases_of_readValue hvalue with ⟨-, hne⟩ | ⟨m, hm, hread⟩ | ⟨_, _, _, -, -, heq⟩ |
    ⟨_, _, _, -, -, heq⟩
  · exact absurd rfl (hne n)
  · obtain rfl : n = m := Value.number.inj hm
    rw [skipBlanks_of_forall hblank] at hread
    rcases hread with ⟨cs, htext, hcs⟩ | ⟨c, cs, htext, hdigit, hcs⟩
    · exact Or.inl ⟨cs, htext, hdone (htext ▸ List.suffix_cons _ _) hcs⟩
    · exact Or.inr ⟨c, cs, htext, hdigit, hdone (htext ▸ List.suffix_refl _) hcs⟩
  · exact absurd heq (by simp)
  · exact absurd heq (by simp)

/-- **A number that comes back alone comes back inside a list or an object.** -/
theorem readValue_jsonText {n : Number} (h : n.IsReread) (size room : Nat) {tail : List Char}
    (hstop : NumberStops tail) :
    readValue size room (n.jsonText ++ tail) = .ok (.number n, tail) := by
  rcases readNumber_of_isReread h with ⟨cs, htext, hread⟩ | ⟨c, cs, htext, hdigit, hread⟩
  · rw [htext, List.cons_append, readValue_minus,
      (frames_readNumber false _ _ _ hread).2 tail hstop]
    rfl
  · rw [htext, List.cons_append, readValue_digit size room hdigit, ← List.cons_append,
      (frames_readNumber true _ _ _ hread).2 tail hstop]
    rfl

end Json
end DocPipe
