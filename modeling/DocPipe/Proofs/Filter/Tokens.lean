import DocPipe.Filter.Parser

/-!
# What the tokens of a filter can be

`Token.scan` decides by the first character that is not blank what the next token is.  So a text has
no tokens only if it is blank, and a word is made of the characters that begin nothing else.  The
second fact is what keeps the two kinds of operators apart: the reader looks up a word among the
spellings of all operators, but no word spells a symbol.
-/

namespace DocPipe
namespace Filter

/-- Tokens with one put in front of them are that one and the others. -/
theorem eq_cons_of_map_cons {t : Token} {r : Except FilterError (List Token)} {ts : List Token}
    (h : r.map (t :: ·) = .ok ts) : ∃ us, r = .ok us ∧ ts = t :: us := by
  cases r with
  | error e => exact absurd h (by simp [Except.map])
  | ok us => exact ⟨us, rfl, (Except.ok.inj h).symm⟩

theorem map_cons_ne_ok_nil {t : Token} {r : Except FilterError (List Token)} :
    r.map (t :: ·) ≠ .ok [] := by
  intro h
  obtain ⟨us, -, hus⟩ := eq_cons_of_map_cons h
  exact List.cons_ne_nil _ _ hus.symm

/-- **A text has no tokens exactly if all of it is blank.** -/
theorem scan_eq_nil_iff (cs : List Char) :
    Token.scan cs = .ok [] ↔ ∀ c ∈ cs, Text.isBlank c = true := by
  induction cs with
  | nil =>
    rw [Token.scan]
    exact ⟨fun _ c hc => absurd hc (by simp), fun _ => rfl⟩
  | cons c rest ih =>
    by_cases hblank : Text.isBlank c = true
    · rw [Token.scan, if_pos hblank, ih]
      exact ⟨fun h d hd => (List.mem_cons.mp hd).elim (fun e => e ▸ hblank) (h d),
        fun h d hd => h d (List.mem_cons_of_mem _ hd)⟩
    · have hright : ¬ ∀ d ∈ c :: rest, Text.isBlank d = true :=
        fun h => hblank (h c List.mem_cons_self)
      refine iff_of_false ?_ hright
      rw [Token.scan, if_neg hblank]
      -- every other beginning makes a token or an error
      split
      · exact map_cons_ne_ok_nil
      · split
        · exact map_cons_ne_ok_nil
        · split
          · split
            · simp
            · exact map_cons_ne_ok_nil
          · split
            · split
              · simp
              · exact map_cons_ne_ok_nil
            · exact map_cons_ne_ok_nil

/-- A character that begins no other token is one of a word. -/
theorem isWordChar_of_not {c : Char} (hblank : ¬ Text.isBlank c = true) (hopen : c ≠ '(')
    (hclose : c ≠ ')') (hquote : ¬ (c = '\'' ∨ c = '"')) (hsymbol : ¬ Token.isSymbolChar c = true) :
    Token.isWordChar c = true := by
  simp only [not_or] at hquote
  simp only [Token.isSymbolChar, Bool.or_eq_true, beq_iff_eq, not_or] at hsymbol
  simp [Token.isWordChar, hblank, hopen, hclose, hquote, hsymbol]

/-- Whether a token is one that some text has: a word consists of the characters of words. -/
def Token.IsPlain : Token → Prop
  | .word w => w.toList ≠ [] ∧ ∀ c ∈ w.toList, isWordChar c = true
  | _ => True

/-- Whether a word is plain is a test of its characters. -/
theorem isPlain_word_iff (w : String) :
    (!w.toList.isEmpty && w.toList.all Token.isWordChar) = true ↔ (Token.word w).IsPlain := by
  rw [Bool.and_eq_true_iff, List.all_eq_true, Bool.not_eq_true', List.isEmpty_eq_false_iff]
  exact Iff.rfl

instance decidableIsPlain : DecidablePred Token.IsPlain
  | .word w => decidable_of_iff _ (isPlain_word_iff w)
  | .string _ => .isTrue trivial
  | .symbol _ => .isTrue trivial
  | .opening => .isTrue trivial
  | .closing => .isTrue trivial

/-- **The tokens of a text are plain.** -/
theorem isPlain_of_scan {cs : List Char} {ts : List Token} (h : Token.scan cs = .ok ts) :
    ∀ t ∈ ts, t.IsPlain := by
  fun_induction Token.scan cs generalizing ts with
  | case1 =>
    rw [← Except.ok.inj h]
    exact fun t ht => absurd ht (by simp)
  | case2 c rest hblank ih => exact ih h
  | case3 rest _ ih =>
    obtain ⟨us, hus, rfl⟩ := eq_cons_of_map_cons h
    exact List.forall_mem_cons.mpr ⟨trivial, ih hus⟩
  | case4 rest _ _ ih =>
    obtain ⟨us, hus, rfl⟩ := eq_cons_of_map_cons h
    exact List.forall_mem_cons.mpr ⟨trivial, ih hus⟩
  | case5 => exact absurd h (by simp)
  | case6 c rest _ _ _ _ text after _ ih =>
    obtain ⟨us, hus, rfl⟩ := eq_cons_of_map_cons h
    exact List.forall_mem_cons.mpr ⟨trivial, ih hus⟩
  | case7 => exact absurd h (by simp)
  | case8 c rest _ _ _ _ _ s _ ih =>
    obtain ⟨us, hus, rfl⟩ := eq_cons_of_map_cons h
    exact List.forall_mem_cons.mpr ⟨trivial, ih hus⟩
  | case9 c rest hblank hopen hclose hquote hsymbol ih =>
    obtain ⟨us, hus, rfl⟩ := eq_cons_of_map_cons h
    refine List.forall_mem_cons.mpr ⟨?_, ih hus⟩
    have hword : ∀ d ∈ c :: rest.takeWhile Token.isWordChar, Token.isWordChar d = true := by
      refine List.forall_mem_cons.mpr
        ⟨isWordChar_of_not hblank hopen hclose hquote hsymbol, fun d hd => ?_⟩
      exact List.all_eq_true.mp List.all_takeWhile d hd
    exact ⟨by simp, by rwa [String.toList_ofList]⟩

end Filter
end DocPipe
