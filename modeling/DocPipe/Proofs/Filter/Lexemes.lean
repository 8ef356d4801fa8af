import Mathlib.Data.List.Chain
import DocPipe.Proofs.Filter.Seams

/-!
# How tokens are written

Between a filter as it is typed and its tokens lie the blanks, the choice of quotes and the escapes.
This file goes the other way, from tokens to texts, and shows which of the texts that one would
write for a row of tokens are read back as that row.

A `Lexeme` is a token with what a writer decides about it: the blanks in front of it and, for a
string, the quotes around it.  Inside the quotes a backslash stands in front of every backslash and
of every quote of the same kind, and nowhere else (`Quote.escape`).  A row of lexemes is a text, and
it carries its own tokens.

## Where blanks are needed

Most tokens end where they end.  Only a word takes any character of words that comes next, and only
`<` and `>` take an equals sign (`Token.takes`).  So two words need a blank between them, and so do
`<` or `>` and the equality behind it, and nothing else does (`Token.runsInto`).  The condition is
exact: `scan_textOf_iff` says that a text is read as its own tokens *if and only if* these blanks
are there.

One might expect strings to be on the list, since the escapes in them look at the next character.
But the last backslash of a string is either in front of a character of the string or behind another
backslash, so it never reaches the closing quote.
-/

namespace DocPipe
namespace Filter

/-! ## Quotes -/

/-- The marks that a string can stand between. -/
inductive Quote where
  | single
  | double
  deriving DecidableEq, Repr

/-- The mark at either end of a string. -/
def Quote.mark : Quote → Char
  | .single => '\''
  | .double => '"'

/-- A character as it is written between quotes. -/
def Quote.escape (q : Quote) (c : Char) : List Char :=
  if c = q.mark ∨ c = '\\' then ['\\', c] else [c]

theorem Quote.mark_ne_backslash (q : Quote) : q.mark ≠ '\\' := by cases q <;> decide

theorem Quote.mark_eq (q : Quote) : q.mark = '\'' ∨ q.mark = '"' := by
  cases q
  · exact .inl rfl
  · exact .inr rfl

namespace Token

/-- **What has been escaped is read up to the quote that closes it.** -/
theorem readString_flatMap_escape (q : Quote) (cs rest : List Char) :
    readString q.mark (cs.flatMap q.escape ++ q.mark :: rest) = some (cs, rest) := by
  induction cs with
  | nil => exact readString_quote q.mark rest
  | cons c cs ih =>
    rw [List.flatMap_cons, List.append_assoc, Quote.escape]
    split
    · next hescaped =>
      rw [List.cons_append, List.cons_append, List.nil_append,
        readString_escaped q.mark_ne_backslash hescaped, ih]
      rfl
    · next hplain =>
      obtain ⟨hquote, hbackslash⟩ := not_or.mp hplain
      rw [List.cons_append, List.nil_append,
        readString_plain hquote (fun hstarts => hbackslash hstarts.1), ih]
      rfl

/-! ## One token -/

/-- A token as it is written, with the given quotes if it is a string. -/
def written (q : Quote) : Token → List Char
  | .word w => w.toList
  | .string s => q.mark :: (s.toList.flatMap q.escape ++ [q.mark])
  | .symbol s => s.spelling.toList
  | .opening => ['(']
  | .closing => [')']

/-- Whether a token would take in a character that stands right behind it. -/
def takes : Token → Char → Bool
  | .word _, c => isWordChar c
  | .symbol .less, c => c == '='
  | .symbol .greater, c => c == '='
  | _, _ => false

/-- Whether a token would take in the beginning of another that stands right behind it. -/
def runsInto (t u : Token) : Bool :=
  match u, t with
  | .word _, .word _ => true
  | .symbol .equal, .symbol .less => true
  | .symbol .equal, .symbol .greater => true
  | _, _ => false

/-- What begins with a seam is taken in by no token. -/
theorem takes_of_separates {c : Char} (h : Separates [c]) (t : Token) :
    t.takes c = false := by
  obtain ⟨hword, hequal⟩ := h
  cases t with
  | word => exact hword
  | symbol s => cases s <;> first | rfl | exact beq_eq_false_iff_ne.mpr hequal
  | _ => rfl

/-- The first character of a token decides whether the token in front runs into it. -/
theorem exists_cons_written (q : Quote) {u : Token} (hu : u.IsPlain) :
    ∃ c cs, u.written q = c :: cs ∧ ∀ t : Token, t.takes c = t.runsInto u := by
  cases u with
  | word w =>
    obtain ⟨hne, hall⟩ := hu
    obtain ⟨c, cs, hw⟩ := List.exists_cons_of_ne_nil hne
    have hc : isWordChar c = true := hall c (by rw [hw]; exact List.mem_cons_self)
    have hequal : (c == '=') = false := by
      refine beq_eq_false_iff_ne.mpr ?_
      rintro rfl
      exact absurd hc (by decide)
    refine ⟨c, cs, hw, fun t => ?_⟩
    cases t with
    | word => exact hc
    | symbol s => cases s <;> first | rfl | exact hequal
    | _ => rfl
  | string s =>
    have hmark : Separates [q.mark] := by cases q <;> exact ⟨by decide, by decide⟩
    exact ⟨_, _, rfl, takes_of_separates hmark⟩
  | symbol s =>
    cases s with
    | equal =>
      refine ⟨'=', ['='], rfl, fun t => ?_⟩
      cases t with
      | word => exact (by decide : isWordChar '=' = false)
      | symbol s => cases s <;> rfl
      | _ => rfl
    | _ => exact ⟨_, _, rfl, takes_of_separates ⟨by decide, by decide⟩⟩
  | opening => exact ⟨_, _, rfl, takes_of_separates ⟨by decide, by decide⟩⟩
  | closing => exact ⟨_, _, rfl, takes_of_separates ⟨by decide, by decide⟩⟩

/-! ## Reading one token back -/

/-- What is written for a symbol is read as that symbol, unless an equals sign extends it. -/
theorem scan_symbol_append {s : Symbol} {rest : List Char}
    (hstop : ∀ c ∈ rest.head?, (Token.symbol s).takes c = false) :
    scan (s.spelling.toList ++ rest) = (scan rest).map (.symbol s :: ·) := by
  have hequal : (∀ c ∈ rest.head?, (c == '=') = false) → startsEqual rest = false := by
    intro hhead
    cases rest with
    | nil => rfl
    | cons c rest => exact hhead c rfl
  obtain ⟨c, cs, hspelling, hsymbol, hs, hdrop⟩ :
      ∃ c cs, s.spelling.toList = c :: cs ∧ isSymbolChar c = true ∧
        symbolOf? c (startsEqual (cs ++ rest)) = some s ∧ dropEqual (cs ++ rest) = rest := by
    cases s with
    | less =>
      have hnone := hequal hstop
      exact ⟨'<', [], rfl, rfl, by rw [List.nil_append, hnone]; rfl, by simp [dropEqual, hnone]⟩
    | greater =>
      have hnone := hequal hstop
      exact ⟨'>', [], rfl, rfl, by rw [List.nil_append, hnone]; rfl, by simp [dropEqual, hnone]⟩
    | _ => exact ⟨_, _, rfl, rfl, rfl, rfl⟩
  rw [hspelling, List.cons_append, scan_symbol hsymbol hs, hdrop]

/-- **A token comes back from what is written for it**, in front of any text that it does not run
into. -/
theorem scan_written (q : Quote) {t : Token} (ht : t.IsPlain) {rest : List Char}
    (hstop : ∀ c ∈ rest.head?, t.takes c = false) :
    scan (t.written q ++ rest) = (scan rest).map (t :: ·) := by
  cases t with
  | word w =>
    have hsplit : rest.takeWhile isWordChar = [] ∧ rest.dropWhile isWordChar = rest := by
      cases rest with
      | nil => exact ⟨rfl, rfl⟩
      | cons c rest =>
        have hc : ¬isWordChar c = true := Bool.eq_false_iff.mp (hstop c rfl)
        exact ⟨List.takeWhile_cons_of_neg hc, List.dropWhile_cons_of_neg hc⟩
    refine (scan_word_append ht rest).trans ?_
    rw [hsplit.1, hsplit.2, List.append_nil, String.ofList_toList]
  | string s =>
    rw [written, List.cons_append, List.append_assoc, List.singleton_append,
      scan_quote q.mark_eq (readString_flatMap_escape q s.toList rest), String.ofList_toList]
  | symbol s => exact scan_symbol_append hstop
  | opening => exact scan_opening rest
  | closing => exact scan_closing rest

/-- A symbol becomes another one by what it takes in, and that one takes in nothing. -/
theorem exists_extended {s : Symbol} {c : Char} (hc : (Token.symbol s).takes c = true) :
    ∃ s' : Symbol, s' ≠ s ∧ s.spelling.toList ++ [c] = s'.spelling.toList ∧
      ∀ d, (Token.symbol s').takes d = false := by
  cases s with
  | less =>
    obtain rfl := beq_iff_eq.mp hc
    exact ⟨.lessEqual, by decide, rfl, fun _ => rfl⟩
  | greater =>
    obtain rfl := beq_iff_eq.mp hc
    exact ⟨.greaterEqual, by decide, rfl, fun _ => rfl⟩
  | _ => exact absurd hc Bool.false_ne_true

/-- A token that runs into the text behind it does not come back. -/
theorem scan_written_ne (q : Quote) {t : Token} (ht : t.IsPlain) {c : Char} (hc : t.takes c = true)
    (rest : List Char) (ts : List Token) : scan (t.written q ++ c :: rest) ≠ .ok (t :: ts) := by
  intro hscan
  cases t with
  | word w =>
    obtain ⟨us, -, hus⟩ := eq_cons_of_map_cons ((scan_word_append ht (c :: rest)).symm.trans hscan)
    have hw : w = String.ofList (w.toList ++ (c :: rest).takeWhile isWordChar) :=
      Token.word.inj (List.cons.inj hus).1
    have hword : isWordChar c = true := hc
    have hlength := congrArg (fun w : String => w.toList.length) hw
    simp [hword] at hlength
  | symbol s =>
    obtain ⟨s', hne, hspelling, hstop⟩ := exists_extended hc
    have hextended : scan (s'.spelling.toList ++ rest) = (scan rest).map (.symbol s' :: ·) :=
      scan_symbol_append fun d _ => hstop d
    rw [← hspelling, List.append_assoc, List.singleton_append] at hextended
    obtain ⟨us, -, hus⟩ := eq_cons_of_map_cons (hextended.symm.trans hscan)
    exact hne (Token.symbol.inj (List.cons.inj hus).1).symm
  | _ => exact absurd hc Bool.false_ne_true

end Token

/-! ## Rows of tokens -/

/-- A token as it stands in a text: behind some blanks, and in quotes of a kind if it is a
string. -/
structure Lexeme where
  gap : List Char
  quote : Quote
  token : Token
  isBlank_gap : ∀ c ∈ gap, Text.isBlank c = true
  isPlain : token.IsPlain

/-- What is written for a token and the blanks in front of it. -/
def Lexeme.text (l : Lexeme) : List Char := l.gap ++ l.token.written l.quote

/-- What is written for a row of tokens, with the given blanks behind it. -/
def textOf (row : List Lexeme) (last : List Char) : List Char := row.flatMap Lexeme.text ++ last

/-- Whether blanks stand in front of every token that the one before would run into. -/
def IsSpaced (row : List Lexeme) : Prop :=
  row.IsChain fun l m => l.token.runsInto m.token = true → m.gap ≠ []

theorem textOf_cons (l : Lexeme) (row : List Lexeme) (last : List Char) :
    textOf (l :: row) last = l.gap ++ (l.token.written l.quote ++ textOf row last) := by
  simp [textOf, Lexeme.text]

/-- Blanks in front of a text make no difference. -/
theorem Token.scan_blanks_append {gap : List Char} (h : ∀ c ∈ gap, Text.isBlank c = true)
    (rest : List Char) : scan (gap ++ rest) = scan rest := by
  induction gap with
  | nil => rfl
  | cons c gap ih =>
    obtain ⟨hc, hgap⟩ := List.forall_mem_cons.mp h
    rw [List.cons_append, scan_blank hc, ih hgap]

/-- A token runs into what is written for a row exactly if it runs into the first token of the row,
and no blanks stand in front of that. -/
theorem Token.takes_head_textOf (t : Token) (row : List Lexeme) {last : List Char}
    (hlast : ∀ c ∈ last, Text.isBlank c = true) :
    (∀ c ∈ (textOf row last).head?, t.takes c = false) ↔
      ∀ m ∈ row.head?, t.runsInto m.token = true → m.gap ≠ [] := by
  have hblank : ∀ c, Text.isBlank c = true → t.takes c = false :=
    fun c hc => takes_of_separates (separates_blank hc []) t
  cases row with
  | nil => exact iff_of_true (fun c hc => hblank c (hlast c (List.mem_of_mem_head? hc))) (by simp)
  | cons m row =>
    rw [textOf_cons]
    cases hgap : m.gap with
    | nil =>
      obtain ⟨c, cs, hwritten, htakes⟩ := exists_cons_written m.quote m.isPlain
      simp [hwritten, htakes, hgap]
    | cons b gap =>
      have hb : Text.isBlank b = true := m.isBlank_gap b (by simp [hgap])
      simp [hblank b hb, hgap]

/-- **A text is read as the tokens it was written for exactly if blanks stand where tokens would run
into one another.** -/
theorem scan_textOf_iff (row : List Lexeme) {last : List Char}
    (hlast : ∀ c ∈ last, Text.isBlank c = true) :
    Token.scan (textOf row last) = .ok (row.map Lexeme.token) ↔ IsSpaced row := by
  induction row with
  | nil =>
    refine iff_of_true ?_ List.isChain_nil
    show Token.scan last = .ok []
    rw [← List.append_nil last, Token.scan_blanks_append hlast, Token.scan_nil]
  | cons l row ih =>
    rw [textOf_cons, Token.scan_blanks_append l.isBlank_gap, IsSpaced, List.isChain_cons,
      ← Token.takes_head_textOf l.token row hlast, List.map_cons]
    by_cases hstop : ∀ c ∈ (textOf row last).head?, l.token.takes c = false
    · rw [Token.scan_written l.quote l.isPlain hstop, and_iff_right hstop]
      refine Iff.trans ⟨fun h => ?_, fun h => by rw [h]; rfl⟩ ih
      obtain ⟨us, hus, hcons⟩ := eq_cons_of_map_cons h
      rw [hus, (List.cons.inj hcons).2]
    · refine iff_of_false ?_ (fun h => hstop h.1)
      obtain ⟨c, hc, htakes⟩ : ∃ c ∈ (textOf row last).head?, l.token.takes c = true := by
        simpa using hstop
      obtain ⟨rest, hrest⟩ := List.head?_eq_some_iff.mp hc
      rw [hrest]
      exact Token.scan_written_ne l.quote l.isPlain htakes rest _

/-- A row with blanks in front of every token is spaced. -/
theorem isSpaced_of_forall_gap {row : List Lexeme} (h : ∀ l ∈ row, l.gap ≠ []) : IsSpaced row := by
  induction row with
  | nil => exact List.isChain_nil
  | cons l row ih =>
    obtain ⟨-, hrow⟩ := List.forall_mem_cons.mp h
    exact List.isChain_cons.mpr ⟨fun m hm _ => hrow m (List.mem_of_mem_head? hm), ih hrow⟩

/-- Plain tokens can be written, with a blank in front of each. -/
theorem exists_isSpaced {ts : List Token} (h : ∀ t ∈ ts, t.IsPlain) :
    ∃ row : List Lexeme, row.map Lexeme.token = ts ∧ IsSpaced row := by
  let lexeme (t : Token) (ht : t.IsPlain) : Lexeme :=
    ⟨[' '], .double, t, by simp [Text.isBlank], ht⟩
  refine ⟨ts.pmap lexeme h, ?_, isSpaced_of_forall_gap ?_⟩
  · rw [List.map_pmap]
    exact List.pmap_eq_self.mpr fun _ _ => rfl
  · intro l hl
    obtain ⟨t, ht, rfl⟩ := List.mem_pmap.mp hl
    exact List.cons_ne_nil _ _

/-- **Every row of tokens is read back from whatever is written for it, and nothing but such rows is
read.**  For a row of lexemes, with blanks behind it, the reader returns its tokens exactly if it is
spaced.  Conversely, the tokens of any text can be written as such a row; and however they are
written, the tokens are the same and so is the filter. -/
theorem scan_textOf_and_exists_row :
    (∀ (row : List Lexeme) (last : List Char), (∀ c ∈ last, Text.isBlank c = true) →
      (Token.scan (textOf row last) = .ok (row.map Lexeme.token) ↔ IsSpaced row)) ∧
    ∀ (text : String) (ts : List Token), Token.scan text.toList = .ok ts →
      (∃ row : List Lexeme, row.map Lexeme.token = ts ∧ IsSpaced row) ∧
      ∀ (row : List Lexeme) (last : List Char), row.map Lexeme.token = ts → IsSpaced row →
        (∀ c ∈ last, Text.isBlank c = true) →
        Token.scan (textOf row last) = .ok ts ∧
          parse (String.ofList (textOf row last)) = parse text := by
  refine ⟨fun row last hlast => scan_textOf_iff row hlast, fun text ts hscan =>
    ⟨exists_isSpaced (isPlain_of_scan hscan), ?_⟩⟩
  rintro row last rfl hspaced hlast
  have hread := (scan_textOf_iff row hlast).mpr hspaced
  refine ⟨hread, ?_⟩
  unfold parse
  rw [String.toList_ofList, hread, hscan]

/-- No blank is needed around a string, a symbol or a parenthesis, and the quotes of a string can be
exchanged. -/
theorem scan_textOf_tight :
    ∃ row : List Lexeme, textOf row [' '] = "it=='it\\'s'or(b<\"\\\\\") ".toList ∧
      IsSpaced row ∧ Token.scan (textOf row [' ']) = .ok (row.map Lexeme.token) ∧
      parse (String.ofList (textOf row [' '])) = parse "it == \"it's\" or ( b < '\\\\' )" := by
  let tight (q : Quote) (t : Token) (ht : t.IsPlain) : Lexeme := ⟨[], q, t, by simp, ht⟩
  let row : List Lexeme :=
    [tight .double (.word "it") (by decide), tight .double (.symbol .equal) trivial,
      tight .single (.string "it's") trivial, tight .double (.word "or") (by decide),
      tight .double .opening trivial, tight .double (.word "b") (by decide),
      tight .double (.symbol .less) trivial, tight .double (.string "\\") trivial,
      tight .double .closing trivial]
  have hspaced : IsSpaced row := by simp [IsSpaced, row, tight, Token.runsInto]
  have hblank : ∀ c ∈ [' '], Text.isBlank c = true := by simp [Text.isBlank]
  have hscan : Token.scan "it == \"it's\" or ( b < '\\\\' )".toList =
      .ok (row.map Lexeme.token) := by decide +kernel
  exact ⟨row, by decide +kernel, hspaced, (scan_textOf_and_exists_row.1 row _ hblank).mpr hspaced,
    ((scan_textOf_and_exists_row.2 _ _ hscan).2 row _ rfl hspaced hblank).2⟩

end Filter
end DocPipe
