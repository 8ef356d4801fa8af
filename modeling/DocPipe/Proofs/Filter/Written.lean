import DocPipe.Proofs.Filter.Composition
import DocPipe.Proofs.Filter.Equality
import DocPipe.Proofs.Filter.Lexemes
import DocPipe.Proofs.Filter.NumberWords

/-!
# Filters that come back from what is written

`Expr.written` writes an expression with every grouping in parentheses, and what it writes can be
read again.  This file says when, and what is then read: an expression that is equal to the one
written, up to the sign of a zero.

## What has to be assumed

The writer knows more than the reader.  It escapes what would not show between quotes, and the
reader only takes back the escapes of a quote and of a backslash; it has names for numbers that are
not finite, and the reader has none.  `Literal.WrittenPlainly` excludes both.  The parentheses count
as nesting, and the writer sets more of them than the text had that the expression was read from, so
the nesting of what is written has to be bounded anew (`Expr.writtenNesting`); the connectives are
still those of the text.

Nothing is assumed of the fields, since they are written as they were read.  But that they *were*
read matters: `Field.IsNamed` says so of every field in an expression that comes from a text, and an
expression made up otherwise might have a field that no word denotes.
-/

namespace DocPipe
namespace Filter

/-! ## Fields -/

/-- A field that a word of a filter denotes. -/
structure Field.IsNamed (field : Field) : Prop where
  isPlain : (Token.word field.raw).IsPlain
  isField : IsField (.word field.raw) field

/-- The token of a field is its name. -/
theorem IsField.isNamed {t : Token} {field : Field} (h : IsField t field) (ht : t.IsPlain) :
    field.IsNamed := by
  cases h with
  | word hand hor hnot hpath => exact ⟨ht, .word hand hor hnot hpath⟩

/-- The comparisons that stand in front of what is derived. -/
def Nonterminal.comparisons : Nonterminal → List (Field × Operator × Literal)
  | .rest left => left.comparisons
  | _ => []

/-- What is derived from the tokens of a text compares fields that words denote. -/
theorem Derives.isNamed {k : Nonterminal} {ts : List Token} {e : Expr} {d : Nat}
    (h : Derives k ts e d) (hplain : ∀ t ∈ ts, t.IsPlain)
    (hleft : ∀ p ∈ k.comparisons, p.1.IsNamed) : ∀ p ∈ e.comparisons, p.1.IsNamed := by
  have hnone : ∀ p ∈ ([] : List (Field × Operator × Literal)), p.1.IsNamed :=
    List.forall_mem_nil _
  induction h with
  | @comparison f o l field op literal hfield hop hliteral =>
    intro p hp
    obtain rfl := List.mem_singleton.mp hp
    exact hfield.isNamed (hplain f List.mem_cons_self)
  | negation _ ih => exact ih (fun t ht => hplain t (List.mem_cons_of_mem _ ht)) hnone
  | group _ ih =>
    exact ih (fun t ht => hplain t (List.mem_cons_of_mem _ (List.mem_append_left _ ht))) hnone
  | chain _ _ ih ihrest =>
    obtain ⟨hterm, hrest⟩ := List.forall_mem_append.mp hplain
    exact ihrest hrest (ih hterm hnone)
  | done => exact hleft
  | more _ _ ih ihrest =>
    obtain ⟨hterm, hrest⟩ := List.forall_mem_append.mp (List.forall_mem_cons.mp hplain).2
    exact ihrest hrest (List.forall_mem_append.mpr ⟨hleft, ih hterm hnone⟩)

/-- What is read compares fields that words denote. -/
theorem isNamed_of_parse {text : String} {e : Expr} (h : parse text = .ok (some e)) :
    ∀ p ∈ e.comparisons, p.1.IsNamed := by
  obtain ⟨ts, hscan, d, -, hderives, -⟩ := parse_eq_some_iff.mp h
  exact hderives.isNamed (isPlain_of_scan hscan) (List.forall_mem_nil _)

/-! ## Literals -/

/-- Whether a literal is written in a way that the reader understands: a number that is finite, or a
string in which only the double quote and the backslash need an escape. -/
def Literal.WrittenPlainly : Literal → Prop
  | .number x => x.isFinite = true
  | .string s => ∀ c ∈ s.toList, c ≠ '"' → c ≠ '\\' → Text.escapeWithin '"' c = [c]
  | .bool _ => True
  | .null => True

/-- A text is closed by the quote behind its escapes. -/
theorem Token.readString_escapes {cs : List Char}
    (h : ∀ c ∈ cs, c ≠ '"' → c ≠ '\\' → Text.escapeWithin '"' c = [c]) :
    readString '"' (cs.flatMap (Text.escapeWithin '"') ++ ['"']) = some (cs, []) := by
  have hescape : cs.flatMap (Text.escapeWithin '"') = cs.flatMap Quote.double.escape := by
    refine List.flatMap_congr fun c hc => ?_
    unfold Quote.escape
    split
    · next hescaped => rcases hescaped with rfl | rfl <;> rfl
    · next hplain =>
      obtain ⟨hquote, hbackslash⟩ := not_or.mp hplain
      exact h c hc hquote hbackslash
  rw [hescape]
  exact readString_flatMap_escape .double cs []

/-- A text between quotes is a token. -/
theorem Token.scan_quoted {s : String}
    (h : ∀ c ∈ s.toList, c ≠ '"' → c ≠ '\\' → Text.escapeWithin '"' c = [c]) :
    scan (Text.quoted s).toList = .ok [.string s] := by
  unfold Text.quoted
  rw [String.toList_ofList, scan_quote (.inr rfl) (readString_escapes h), scan_nil,
    String.ofList_toList]
  rfl

/-- Digits are characters of words. -/
theorem Token.isWordChar_of_isDigit {c : Char} (h : c.isDigit = true) : isWordChar c = true := by
  have hne : ∀ d : Char, d.isDigit = false → (c == d) = false := by
    intro d hd
    refine beq_eq_false_iff_ne.mpr ?_
    rintro rfl
    exact absurd (h.symm.trans hd) (by simp)
  simp [isWordChar, Text.isBlank_of_isDigit h, hne '\'' rfl, hne '"' rfl, hne '(' rfl, hne ')' rfl,
    hne '=' rfl, hne '!' rfl, hne '<' rfl, hne '>' rfl]

/-- A numeral is a word. -/
theorem Token.isPlain_text (p : Positional) : (Token.word (String.ofList p.text)).IsPlain := by
  constructor
  · rw [String.toList_ofList]
    intro hnil
    exact p.whole_ne_nil (List.append_eq_nil_iff.mp (List.append_eq_nil_iff.mp hnil).2).1
  · rw [String.toList_ofList]
    exact p.forall_mem_text (by decide) (by decide) fun c => isWordChar_of_isDigit

/-- A numeral is one of those that a filter may have. -/
theorem Literal.isNumber_text (p : Positional) : Literal.IsNumber Char.isDigit p.text := by
  have hsign : Binary64.signText p.negative = [] ∨ Binary64.signText p.negative = ['-'] := by
    cases p.negative with
    | true => exact .inr rfl
    | false => exact .inl rfl
  have hfraction : Literal.IsFraction Char.isDigit (fractionText p.fraction) := by
    have hne := p.fraction_ne_nil
    have hdigits := p.isDigit_fraction
    cases hp : p.fraction with
    | none => exact .none
    | some digits =>
      rw [hp] at hne hdigits
      exact .digits ⟨fun hnil => hne (congrArg some hnil), hdigits⟩
  have hparts := Literal.IsNumber.parts hsign ⟨p.whole_ne_nil, p.isDigit_whole⟩ hfraction .none
  rwa [List.append_nil] at hparts

theorem Literal.numberOfWord?_text (p : Positional) :
    Literal.numberOfWord? p.text = some p.toBinary64 :=
  Literal.numberOfWord?_eq (Literal.isNumber_text p) p.scan?_text

/-- **What is written for a literal is read as a literal that is equal to it.** -/
theorem Literal.WrittenPlainly.exists_token {l : Literal} (h : l.WrittenPlainly) :
    ∃ t l', Token.scan l.written.toList = .ok [t] ∧ IsLiteral t l' ∧ l'.numEq l = true := by
  cases l with
  | number x =>
    obtain ⟨p, htext, hx⟩ := Binary64.exists_positional_plainText h
    refine ⟨.word (String.ofList p.text), .number p.toBinary64, ?_, .number ?_, hx⟩
    · show Token.scan (String.ofList x.plainText).toList = _
      rw [← htext]
      exact Token.scan_word (Token.isPlain_text p)
    · rw [String.toList_ofList]
      exact Literal.numberOfWord?_text p
  | string s => exact ⟨.string s, .string s, Token.scan_quoted h, .string s, beq_self_eq_true s⟩
  | bool b =>
    have hplain : (Token.word (Value.boolText b)).IsPlain := by cases b <;> decide
    exact ⟨_, .bool b, Token.scan_word hplain, .bool b, beq_self_eq_true b⟩
  | null =>
    have hplain : (Token.word "null").IsPlain := by decide
    exact ⟨_, .null, Token.scan_word hplain, .null, rfl⟩

/-! ## Operators -/

/-- What is written for an operator is read as that operator. -/
theorem Operator.exists_token (op : Operator) :
    ∃ t, Token.scan op.spelling.toList = .ok [t] ∧ IsOperator t op := by
  cases op with
  | symbol s =>
    refine ⟨.symbol s, ?_, .symbol s⟩
    cases s <;> cbv
  | contains => exact ⟨_, Token.scan_word (by decide), .contains⟩
  | startsWith => exact ⟨_, Token.scan_word (by decide), .startsWith⟩
  | endsWith => exact ⟨_, Token.scan_word (by decide), .endsWith⟩

/-! ## Expressions -/

/-- The nesting of what is written for an expression. -/
def Expr.writtenNesting : Expr → Nat
  | .compare _ _ _ => 0
  | .not inner => inner.writtenNesting + 2
  | .join _ left right => max left.writtenNesting right.writtenNesting + 1

/-- The name of a field, an operator and a text that is read as a literal, with blanks between them,
are a comparison. -/
theorem spells_comparison {field : Field} (hfield : field.IsNamed) (op : Operator) {text : String}
    {t : Token} {l : Literal} (hscan : Token.scan text.toList = .ok [t]) (hl : IsLiteral t l) :
    ∃ ts, Spells .term (field.raw ++ " " ++ op.spelling ++ " " ++ text) ts
      (.compare field op l) 0 := by
  obtain ⟨o, hop, hisop⟩ := op.exists_token
  have hlist : (field.raw ++ " " ++ op.spelling ++ " " ++ text).toList =
      field.raw.toList ++ ' ' :: (op.spelling.toList ++ ' ' :: text.toList) := by
    simp only [String.toList_append, List.append_assoc]
    rfl
  refine ⟨[.word field.raw, o, t], ?_, .comparison hfield.isField hisop hl⟩
  rw [hlist]
  exact Token.scan_append_blank (Token.scan_word hfield.isPlain)
    (Token.scan_append_blank hop hscan)

/-- What is written for a comparison is a term. -/
theorem spells_compare {field : Field} (hfield : field.IsNamed) (op : Operator) {l : Literal}
    (hl : l.WrittenPlainly) :
    ∃ ts e, Spells .term (Expr.compare field op l).written ts e 0 ∧
      e.numEq (.compare field op l) = true := by
  obtain ⟨t, l', hscan, hliteral, hequal⟩ := hl.exists_token
  obtain ⟨ts, hspells⟩ := spells_comparison hfield op hscan hliteral
  exact ⟨ts, _, hspells, decide_eq_true ⟨rfl, rfl, hequal⟩⟩

/-- **What is written for an expression is a term, and denotes an equal expression.** -/
theorem exists_spells_written {e : Expr} (hfields : ∀ p ∈ e.comparisons, p.1.IsNamed)
    (hliterals : ∀ p ∈ e.comparisons, p.2.2.WrittenPlainly) :
    ∃ ts e', Spells .term e.written ts e' e.writtenNesting ∧ e'.numEq e = true := by
  induction e with
  | compare field op l =>
    exact spells_compare (hfields _ List.mem_cons_self) op (hliterals _ List.mem_cons_self)
  | not inner ih =>
    obtain ⟨ts, e', hspells, hequal⟩ := ih hfields hliterals
    have hwritten : (Expr.not inner).written = "not " ++ parenthesised inner.written := by
      unfold parenthesised
      rw [← String.append_assoc, ← String.append_assoc]
      rfl
    rw [hwritten]
    exact ⟨_, _, hspells.expr_of_term.parenthesised.negated, hequal⟩
  | join c left right ihleft ihright =>
    obtain ⟨hfleft, hfright⟩ := List.forall_mem_append.mp hfields
    obtain ⟨hlleft, hlright⟩ := List.forall_mem_append.mp hliterals
    obtain ⟨ts, l', hleft, hequal⟩ := ihleft hfleft hlleft
    obtain ⟨us, r', hright, hequal'⟩ := ihright hfright hlright
    have hwritten : (Expr.join c left right).written =
        parenthesised (joined c left.written right.written) := by
      unfold parenthesised joined
      simp only [← String.append_assoc]
      rfl
    rw [hwritten]
    exact ⟨_, _, (hleft.expr_of_term.joined c hright).parenthesised,
      decide_eq_true ⟨rfl, hequal, hequal'⟩⟩

/-- **What is written for a filter is a filter with the same meaning.**  It is read as an equal
expression, if the literals are written plainly and the parentheses that are written do not nest too
deep. -/
theorem parse_written {text : String} {e : Expr} (hparse : parse text = .ok (some e))
    (hliterals : ∀ p ∈ e.comparisons, p.2.2.WrittenPlainly) (hnesting : e.writtenNesting ≤ 128) :
    ∃ e', parse e.written = .ok (some e') ∧ e'.numEq e = true ∧
      ∀ item, e'.evaluate item = e.evaluate item := by
  obtain ⟨ts, e', hspells, hequal⟩ := exists_spells_written (isNamed_of_parse hparse) hliterals
  have hcount : connectives ts ≤ maxConnectives := by
    have hjoins : e'.joins = 0 + connectives ts := hspells.derives.joins_eq
    have hsame := Expr.joins_congr hequal
    have hlimit := (joins_le_and_negations_le hparse).1
    omega
  refine ⟨e', hspells.expr_of_term.parse_eq hnesting hcount, hequal, ?_⟩
  intro item
  exact Expr.evaluate_congr hequal item

/-- A quote comes back behind a backslash, and the sign of a zero does not come back. -/
theorem parse_written_negative_zero :
    ∃ e, parse "not . == '\"' and . <= -0.0" = .ok (some e) ∧
      (∀ p ∈ e.comparisons, p.2.2.WrittenPlainly) ∧ e.writtenNesting ≤ 128 ∧
      e.written = "(not (. == \"\\\"\") and . <= 0)" ∧
      ∃ e', parse e.written = .ok (some e') ∧ e'.numEq e = true ∧
        ∀ item, e'.evaluate item = e.evaluate item := by
  let quote : Expr := .compare ⟨".", []⟩ (.symbol .equal) (.string "\"")
  let zero : Expr := .compare ⟨".", []⟩ (.symbol .lessEqual) (.number (.zero true))
  have hparse : parse "not . == '\"' and . <= -0.0" =
      .ok (some (.join .and (.not quote) zero)) := by decide +kernel
  have hquote : (Literal.string "\"").WrittenPlainly := by
    intro c hc hne
    exact absurd (List.mem_singleton.mp hc) hne
  have hliterals : ∀ p ∈ (Expr.join .and (.not quote) zero).comparisons, p.2.2.WrittenPlainly := by
    refine List.forall_mem_cons.mpr ⟨hquote, List.forall_mem_singleton.mpr ?_⟩
    rfl
  have hzero : (Literal.number (.zero true)).written = "0" :=
    congrArg String.ofList (Binary64.plainText_zero true)
  have hwritten : (Expr.join .and (.not quote) zero).written =
      "(not (. == \"\\\"\") and . <= 0)" := by
    simp only [Expr.written, quote, zero, hzero]
    cbv
  exact ⟨_, hparse, hliterals, by decide, hwritten,
    parse_written hparse hliterals (by decide)⟩

end Filter
end DocPipe
