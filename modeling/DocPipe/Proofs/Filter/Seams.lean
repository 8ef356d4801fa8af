import DocPipe.Proofs.Filter.Tokens
import DocPipe.Proofs.Text.Runs

/-!
# Tokens across a seam

When two texts are joined, the tokens of the whole need not be those of the parts: `a` and `b` are
two words and `ab` is one, and `<` and `=` make one symbol.  They are, if the second text begins in
a way that lets no token go on into it.  A blank begins so, and so does a parenthesis, which is what
filters are joined with.

Strings are no danger here.  A text whose tokens can be told has closed every string that it opened,
and whether a character in it is escaped depends on the characters before it.  A text whose tokens
cannot be told is a different matter: a symbol that there is none of stays one, but a string that is
still open takes in what is joined to it.
-/

namespace DocPipe
namespace Filter
namespace Token

/-- Whether no token goes on into a text: it begins with no character of a word, and not with the
equals sign that would extend a symbol. -/
def Separates : List Char → Prop
  | [] => True
  | c :: _ => isWordChar c = false ∧ c ≠ '='

/-- A blank lets no token go on. -/
theorem separates_blank {c : Char} (h : Text.isBlank c = true) (cs : List Char) :
    Separates (c :: cs) := by
  refine ⟨?_, ?_⟩
  · simp [isWordChar, h]
  · rintro rfl
    exact absurd h (by decide)

variable {cs tail : List Char}

theorem Separates.head?_eq (h : Separates tail) : ∀ c ∈ tail.head?, isWordChar c = false := by
  cases tail with
  | nil => exact fun c hc => absurd hc (by simp)
  | cons d tail => exact fun c hc => Option.some.inj hc ▸ h.1

/-- A word ends where it would end without the text behind it. -/
theorem takeWhile_isWordChar_append (h : Separates tail) (cs : List Char) :
    (cs ++ tail).takeWhile isWordChar = cs.takeWhile isWordChar :=
  Text.takeWhile_append h.head?_eq cs

theorem dropWhile_isWordChar_append (h : Separates tail) (cs : List Char) :
    (cs ++ tail).dropWhile isWordChar = cs.dropWhile isWordChar ++ tail :=
  Text.dropWhile_append h.head?_eq cs

/-- An equals sign comes next only if it does without the text behind. -/
theorem startsEqual_append (h : Separates tail) (cs : List Char) :
    startsEqual (cs ++ tail) = startsEqual cs := by
  cases cs with
  | cons c cs => rfl
  | nil =>
    cases tail with
    | nil => rfl
    | cons c tail => simp [startsEqual, h.2]

theorem dropEqual_append (h : Separates tail) (cs : List Char) :
    dropEqual (cs ++ tail) = dropEqual cs ++ tail := by
  unfold dropEqual
  rw [startsEqual_append h]
  split
  · next hequal =>
    cases cs with
    | nil => exact absurd hequal (by simp [startsEqual])
    | cons c cs => rfl
  · rfl

/-! ## Strings -/

theorem readString_quote (quote : Char) (cs : List Char) :
    readString quote (quote :: cs) = some ([], cs) := by
  rw [readString.eq_def]
  exact if_pos rfl

/-- A backslash takes the quote, or another backslash, literally. -/
theorem readString_escaped {quote d : Char} (hquote : quote ≠ '\\')
    (hescaped : d = quote ∨ d = '\\') (cs : List Char) :
    readString quote ('\\' :: d :: cs) = (readString quote cs).map fun p => (d :: p.1, p.2) := by
  have hstarts : startsEscaped quote (d :: cs) = true := by
    simpa [startsEscaped] using hescaped
  rw [readString.eq_def]
  simp only
  rw [if_neg hquote.symm, if_pos ⟨trivial, hstarts⟩]

/-- Every other character stands for itself. -/
theorem readString_plain {quote c : Char} {cs : List Char} (hquote : c ≠ quote)
    (hplain : ¬(c = '\\' ∧ startsEscaped quote cs = true)) :
    readString quote (c :: cs) = (readString quote cs).map fun p => (c :: p.1, p.2) := by
  rw [readString.eq_def]
  simp only
  rw [if_neg hquote, if_neg hplain]

/-- A string that has been closed is the same in front of any text. -/
theorem readString_append {quote : Char} {text after : List Char}
    (h : readString quote cs = some (text, after)) (tail : List Char) :
    readString quote (cs ++ tail) = some (text, after ++ tail) := by
  fun_induction readString quote cs generalizing text after with
  | case1 => exact absurd h (by simp)
  | case2 rest =>
    obtain ⟨rfl, rfl⟩ := Prod.mk.inj (Option.some.inj h)
    exact readString_quote quote _
  | case3 => exact absurd h (by simp)
  | case4 c hquote d rest hescaped ih =>
    obtain ⟨⟨text', after'⟩, hread, hp⟩ := Option.map_eq_some_iff.mp h
    obtain ⟨rfl, rfl⟩ := Prod.mk.inj hp
    obtain ⟨rfl, hstarts⟩ := hescaped
    have hd : d = quote ∨ d = '\\' := by simpa [startsEscaped] using hstarts
    rw [List.cons_append, List.cons_append, readString_escaped (Ne.symm hquote) hd, ih hread]
    rfl
  | case5 c rest hquote hplain ih =>
    obtain ⟨⟨text', after'⟩, hread, hp⟩ := Option.map_eq_some_iff.mp h
    obtain ⟨rfl, rfl⟩ := Prod.mk.inj hp
    have hplain' : ¬(c = '\\' ∧ startsEscaped quote (rest ++ tail) = true) := by
      cases rest with
      | nil => exact absurd hread (by simp [readString])
      | cons d rest => exact hplain
    rw [List.cons_append, readString_plain hquote hplain', ih hread]
    rfl

/-! ## Tokens -/

theorem scan_nil : scan [] = .ok [] := by
  rw [scan]

theorem scan_blank {c : Char} (h : Text.isBlank c = true) (cs : List Char) :
    scan (c :: cs) = scan cs := by
  rw [scan, if_pos h]

theorem scan_opening (cs : List Char) : scan ('(' :: cs) = (scan cs).map (.opening :: ·) := by
  rw [scan, if_neg (by decide), if_pos rfl]

theorem scan_closing (cs : List Char) : scan (')' :: cs) = (scan cs).map (.closing :: ·) := by
  rw [scan, if_neg (by decide), if_neg (by decide), if_pos rfl]

/-- Behind a quote stands a string. -/
theorem scan_quote {c : Char} (h : c = '\'' ∨ c = '"') {text after : List Char}
    (hread : readString c cs = some (text, after)) :
    scan (c :: cs) = (scan after).map (.string (String.ofList text) :: ·) := by
  have hne : ¬Text.isBlank c = true ∧ c ≠ '(' ∧ c ≠ ')' := by
    rcases h with rfl | rfl <;> decide
  rw [scan, if_neg hne.1, if_neg hne.2.1, if_neg hne.2.2, if_pos h]
  split
  · next hnone => exact absurd (hnone.symm.trans hread) (by simp)
  · next text' after' hsome =>
    obtain ⟨rfl, rfl⟩ := Prod.mk.inj (Option.some.inj (hsome.symm.trans hread))
    rfl

/-- A character of a symbol begins nothing else. -/
theorem not_of_isSymbolChar {c : Char} (h : isSymbolChar c = true) :
    ¬Text.isBlank c = true ∧ c ≠ '(' ∧ c ≠ ')' ∧ ¬(c = '\'' ∨ c = '"') := by
  simp only [isSymbolChar, Bool.or_eq_true, beq_iff_eq] at h
  rcases h with ((rfl | rfl) | rfl) | rfl <;> decide

/-- A character of a symbol begins one. -/
theorem scan_symbol {c : Char} (h : isSymbolChar c = true) {s : Symbol}
    (hs : symbolOf? c (startsEqual cs) = some s) :
    scan (c :: cs) = (scan (dropEqual cs)).map (.symbol s :: ·) := by
  obtain ⟨hblank, hopen, hclose, hquote⟩ := not_of_isSymbolChar h
  rw [scan, if_neg hblank, if_neg hopen, if_neg hclose, if_neg hquote, if_pos h]
  simp only [hs]

/-- A character of a word is none of those that begin anything else. -/
theorem not_of_isWordChar {c : Char} (h : isWordChar c = true) :
    ¬Text.isBlank c = true ∧ c ≠ '(' ∧ c ≠ ')' ∧ ¬(c = '\'' ∨ c = '"') ∧
      ¬isSymbolChar c = true := by
  simp only [isWordChar, Bool.not_eq_true', Bool.or_eq_false_iff, beq_eq_false_iff_ne] at h
  obtain ⟨⟨⟨⟨⟨⟨⟨⟨hblank, hsingle⟩, hdouble⟩, hopen⟩, hclose⟩, hequal⟩, hbang⟩, hless⟩,
    hgreater⟩ := h
  simp [isSymbolChar, hblank, hsingle, hdouble, hopen, hclose, hequal, hbang, hless, hgreater]

/-- A character of a word begins one. -/
theorem scan_wordChar {c : Char} (h : isWordChar c = true) (cs : List Char) :
    scan (c :: cs) = (scan (cs.dropWhile isWordChar)).map
      (.word (String.ofList (c :: cs.takeWhile isWordChar)) :: ·) := by
  obtain ⟨hblank, hopen, hclose, hquote, hsymbol⟩ := not_of_isWordChar h
  rw [scan, if_neg hblank, if_neg hopen, if_neg hclose, if_neg hquote, if_neg hsymbol]

/-- Putting a token in front of the tokens of a text, and those in front of others. -/
theorem map_cons_map_append (t : Token) (ts : List Token) (r : Except FilterError (List Token)) :
    (r.map (ts ++ ·)).map (t :: ·) = r.map (t :: ts ++ ·) := by
  cases r <;> rfl

/-- **The tokens of a text are the first ones of every text that goes on behind a seam.** -/
theorem scan_append {ts : List Token} (h : scan cs = .ok ts) (hsep : Separates tail) :
    scan (cs ++ tail) = (scan tail).map (ts ++ ·) := by
  fun_induction scan cs generalizing ts with
  | case1 =>
    rw [← Except.ok.inj h, List.nil_append]
    cases scan tail <;> rfl
  | case2 c rest hblank ih =>
    rw [List.cons_append, scan_blank hblank]
    exact ih h
  | case3 rest _ ih =>
    obtain ⟨us, hus, rfl⟩ := eq_cons_of_map_cons h
    rw [List.cons_append, scan_opening, ih hus, map_cons_map_append]
  | case4 rest _ _ ih =>
    obtain ⟨us, hus, rfl⟩ := eq_cons_of_map_cons h
    rw [List.cons_append, scan_closing, ih hus, map_cons_map_append]
  | case5 => exact absurd h (by simp)
  | case6 c rest _ _ _ hquote text after hread ih =>
    obtain ⟨us, hus, rfl⟩ := eq_cons_of_map_cons h
    rw [List.cons_append, scan_quote hquote (readString_append hread tail), ih hus,
      map_cons_map_append]
  | case7 => exact absurd h (by simp)
  | case8 c rest _ _ _ _ hsymbol s hs ih =>
    obtain ⟨us, hus, rfl⟩ := eq_cons_of_map_cons h
    rw [← startsEqual_append hsep] at hs
    rw [List.cons_append, scan_symbol hsymbol hs, dropEqual_append hsep, ih hus,
      map_cons_map_append]
  | case9 c rest hblank hopen hclose hquote hsymbol ih =>
    obtain ⟨us, hus, rfl⟩ := eq_cons_of_map_cons h
    have hword := isWordChar_of_not hblank hopen hclose hquote hsymbol
    rw [List.cons_append, scan_wordChar hword, dropWhile_isWordChar_append hsep,
      takeWhile_isWordChar_append hsep, ih hus, map_cons_map_append]

/-- The tokens of two texts with a seam between them are those of the one and those of the other. -/
theorem scan_append_eq_ok {ts us : List Token} (h : scan cs = .ok ts) (h' : scan tail = .ok us)
    (hsep : Separates tail) : scan (cs ++ tail) = .ok (ts ++ us) := by
  rw [scan_append h hsep, h']
  rfl

/-- The tokens of two texts with a blank between them. -/
theorem scan_append_blank {ts us : List Token} (h : scan cs = .ok ts) (h' : scan tail = .ok us) :
    scan (cs ++ ' ' :: tail) = .ok (ts ++ us) := by
  rw [← scan_blank (by decide : Text.isBlank ' ' = true) tail] at h'
  exact scan_append_eq_ok h h' (separates_blank (by decide) tail)

/-- A plain word is read together with the characters of words behind it. -/
theorem scan_word_append {w : String} (hw : (Token.word w).IsPlain) (rest : List Char) :
    scan (w.toList ++ rest) = (scan (rest.dropWhile isWordChar)).map
      (.word (String.ofList (w.toList ++ rest.takeWhile isWordChar)) :: ·) := by
  obtain ⟨hne, hall⟩ := hw
  cases hlist : w.toList with
  | nil => exact absurd hlist hne
  | cons c cs =>
    rw [hlist] at hall
    obtain ⟨hc, hcs⟩ := List.forall_mem_cons.mp hall
    rw [List.cons_append, scan_wordChar hc, List.takeWhile_append_of_pos hcs,
      List.dropWhile_append_of_pos hcs, List.cons_append]

/-- A plain word is a token of its own. -/
theorem scan_word {w : String} (h : (Token.word w).IsPlain) :
    scan w.toList = .ok [.word w] := by
  have hscan := scan_word_append h []
  rw [List.append_nil, List.takeWhile_nil, List.dropWhile_nil, List.append_nil,
    String.ofList_toList, scan_nil] at hscan
  exact hscan

/-- The tokens of a text in parentheses. -/
theorem scan_parenthesised {ts : List Token} (h : scan cs = .ok ts) :
    scan ('(' :: (cs ++ [')'])) = .ok (.opening :: (ts ++ [.closing])) := by
  have hclosing : scan [')'] = .ok [.closing] := by
    rw [scan_closing, scan_nil]
    rfl
  rw [scan_opening, scan_append_eq_ok h hclosing ⟨by decide, by decide⟩]
  rfl

/-! ## Errors -/

theorem map_cons_eq_error_iff {t : Token} {r : Except FilterError (List Token)} {e : FilterError} :
    r.map (t :: ·) = .error e ↔ r = .error e := by
  cases r <;> simp [Except.map]

/-- A character of a symbol without the equals sign that it needs. -/
theorem scan_symbol_error {c : Char} (h : isSymbolChar c = true)
    (hs : symbolOf? c (startsEqual cs) = none) :
    scan (c :: cs) = .error (.unknownOperator (String.singleton c)) := by
  obtain ⟨hblank, hopen, hclose, hquote⟩ := not_of_isSymbolChar h
  rw [scan, if_neg hblank, if_neg hopen, if_neg hclose, if_neg hquote, if_pos h]
  simp only [hs]

/-- **A text without tokens has a string that is not closed, or else a symbol that is none in front
of any text either.** -/
theorem scan_append_of_error {e : FilterError} (h : scan cs = .error e) :
    e = .unterminatedString ∨
      (∃ w, e = .unknownOperator w) ∧ ∀ tail, Separates tail → scan (cs ++ tail) = .error e := by
  fun_induction scan cs with
  | case1 => exact absurd h (by simp)
  | case2 c rest hblank ih =>
    refine (ih h).imp_right (And.imp_right fun hall tail hsep => ?_)
    rw [List.cons_append, scan_blank hblank, hall tail hsep]
  | case3 rest _ ih =>
    refine (ih (map_cons_eq_error_iff.mp h)).imp_right (And.imp_right fun hall tail hsep => ?_)
    rw [List.cons_append, scan_opening, map_cons_eq_error_iff, hall tail hsep]
  | case4 rest _ _ ih =>
    refine (ih (map_cons_eq_error_iff.mp h)).imp_right (And.imp_right fun hall tail hsep => ?_)
    rw [List.cons_append, scan_closing, map_cons_eq_error_iff, hall tail hsep]
  | case5 => exact .inl (Except.error.inj h).symm
  | case6 c rest _ _ _ hquote text after hread ih =>
    refine (ih (map_cons_eq_error_iff.mp h)).imp_right (And.imp_right fun hall tail hsep => ?_)
    rw [List.cons_append, scan_quote hquote (readString_append hread tail),
      map_cons_eq_error_iff, hall tail hsep]
  | case7 c rest _ _ _ _ hsymbol hs =>
    refine .inr ⟨⟨_, (Except.error.inj h).symm⟩, fun tail hsep => ?_⟩
    rw [← startsEqual_append hsep] at hs
    rw [List.cons_append, scan_symbol_error hsymbol hs, h]
  | case8 c rest _ _ _ _ hsymbol s hs ih =>
    refine (ih (map_cons_eq_error_iff.mp h)).imp_right (And.imp_right fun hall tail hsep => ?_)
    rw [← startsEqual_append hsep] at hs
    rw [List.cons_append, scan_symbol hsymbol hs, dropEqual_append hsep, map_cons_eq_error_iff,
      hall tail hsep]
  | case9 c rest hblank hopen hclose hquote hsymbol ih =>
    refine (ih (map_cons_eq_error_iff.mp h)).imp_right (And.imp_right fun hall tail hsep => ?_)
    have hword := isWordChar_of_not hblank hopen hclose hquote hsymbol
    rw [List.cons_append, scan_wordChar hword, dropWhile_isWordChar_append hsep,
      map_cons_eq_error_iff, hall tail hsep]

end Token
end Filter
end DocPipe
