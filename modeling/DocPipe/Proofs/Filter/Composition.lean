import DocPipe.Proofs.Filter.Reading
import DocPipe.Proofs.Filter.Seams

/-!
# Filters made of filters

Whoever wants to add a condition to a filter that somebody else has written has only its text, and
puts it in parentheses.  This file shows that nothing more is needed: `(f) and (g)` is read as the
conjunction of what `f` and `g` are read as, whatever strings, escapes and parentheses they hold,
and so on for any number of filters.

## What the parentheses cost

They are one level of nesting, and each connective in between is one of those that the filter may
have.  Both limits are exact, so a filter that uses all of either leaves no room.  `NestsWithin` and
`connectivesIn` say of a text what it uses.

## How texts are built

`Spells` relates a text to the tokens that it has and to what they denote.  There is one lemma for
each way of building a text out of others: parentheses, a connective, a `not`.  Whatever is built in
these ways is understood by them alone, without another look at the tokens.
-/

namespace DocPipe
namespace Filter

/-! ## What a text uses of the limits -/

/-- The connectives of a text. -/
def connectivesIn (text : String) : Nat :=
  match Token.scan text.toList with
  | .ok ts => connectives ts
  | .error _ => 0

/-- Whether a text is a filter in which no token stands inside more than `bound` parentheses and
`not`s. -/
def NestsWithin (text : String) (bound : Nat) : Prop :=
  ∃ ts e, ∃ d ≤ bound, Token.scan text.toList = .ok ts ∧ Derives .expr ts e d

/-- A text spells a row of tokens that is derived from a nonterminal, with a nesting of `d`. -/
structure Spells (k : Nonterminal) (text : String) (ts : List Token) (e : Expr) (d : Nat) :
    Prop where
  scan_eq : Token.scan text.toList = .ok ts
  derives : Derives k ts e d

section Spells

variable {text text' : String} {ts ts' : List Token} {e e' : Expr} {d d' bound : Nat}

theorem Spells.connectivesIn_eq {k : Nonterminal} (h : Spells k text ts e d) :
    connectivesIn text = connectives ts := by
  unfold connectivesIn
  rw [h.scan_eq]

/-- What is spelled within the limits is read. -/
theorem Spells.parse_eq (h : Spells .expr text ts e d) (hnesting : d ≤ maxNesting)
    (hconnectives : connectives ts ≤ maxConnectives) : parse text = .ok (some e) :=
  parse_eq_some_iff.mpr ⟨ts, h.scan_eq, d, hnesting, h.derives, hconnectives⟩

/-- What has been read is spelled, with a nesting that is known. -/
theorem exists_spells (h : parse text = .ok (some e)) (hnests : NestsWithin text bound) :
    ∃ ts, ∃ d ≤ bound, Spells .expr text ts e d ∧ connectives ts ≤ maxConnectives := by
  obtain ⟨ts, hscan, d, -, hderives, hconnectives⟩ := parse_eq_some_iff.mp h
  obtain ⟨ts', e', d', hd', hscan', hderives'⟩ := hnests
  obtain rfl : ts = ts' := Except.ok.inj (hscan.symm.trans hscan')
  obtain ⟨rfl, rfl⟩ := hderives.unique hderives'
  exact ⟨ts, d, hd', ⟨hscan, hderives⟩, hconnectives⟩

/-- What has been read is evaluated. -/
theorem evaluateText_eq (h : parse text = .ok (some e)) (item : Value) :
    evaluateText text item = e.evaluate item := by
  unfold evaluateText tryEvaluate
  rw [h]
  rfl

/-! ## Parentheses and connectives -/

/-- A text in parentheses. -/
def parenthesised (text : String) : String := "(" ++ text ++ ")"

/-- Two texts with a connective between them. -/
def joined (c : Connective) (before after : String) : String :=
  before ++ " " ++ c.spelling ++ " " ++ after

theorem isPlain_spelling (c : Connective) : (Token.word c.spelling).IsPlain := by
  cases c <;> decide

/-- A term is an expression. -/
theorem Spells.expr_of_term (h : Spells .term text ts e d) : Spells .expr text ts e d :=
  ⟨h.scan_eq, h.derives.expr_of_term⟩

/-- A filter in parentheses is a term, one level deeper. -/
theorem Spells.parenthesised (h : Spells .expr text ts e d) :
    Spells .term (Filter.parenthesised text) (.opening :: (ts ++ [.closing])) e (d + 1) := by
  have hlist : (Filter.parenthesised text).toList = '(' :: (text.toList ++ [')']) := by
    unfold Filter.parenthesised
    rw [String.toList_append, String.toList_append]
    rfl
  refine ⟨?_, h.derives.group⟩
  rw [hlist]
  exact Token.scan_parenthesised h.scan_eq

/-- A filter goes on behind a connective with a term. -/
theorem Spells.joined (h : Spells .expr text ts e d) (c : Connective)
    (h' : Spells .term text' ts' e' d') :
    Spells .expr (Filter.joined c text text') (ts ++ .word c.spelling :: ts') (.join c e e')
      (max d d') := by
  have hlist : (Filter.joined c text text').toList =
      text.toList ++ ' ' :: (c.spelling.toList ++ ' ' :: text'.toList) := by
    unfold Filter.joined
    simp only [String.toList_append, List.append_assoc]
    rfl
  refine ⟨?_, h.derives.snoc c h'.derives⟩
  rw [hlist]
  exact Token.scan_append_blank h.scan_eq
    (Token.scan_append_blank (Token.scan_word (isPlain_spelling c)) h'.scan_eq)

/-- A term behind `not` is negated. -/
theorem Spells.negated (h : Spells .term text ts e d) :
    Spells .term ("not " ++ text) (.word "not" :: ts) (.not e) (d + 1) := by
  refine ⟨?_, h.derives.negation⟩
  rw [String.toList_append]
  exact Token.scan_append_blank (Token.scan_word (by decide : (Token.word "not").IsPlain)) h.scan_eq

end Spells

theorem connectives_parenthesised (ts : List Token) :
    connectives (.opening :: (ts ++ [.closing])) = connectives ts := by
  rw [connectives_cons, connectives_append]
  exact Nat.zero_add _

/-! ## Rows of filters -/

/-- A text that is a filter, with the expression that it denotes. -/
structure Clause where
  text : String
  expr : Expr
  parse_eq : parse text = .ok (some expr)

/-- The text of a row of filters: each in parentheses, with connectives between them. -/
def rowText (first : Clause) (rest : List (Connective × Clause)) : String :=
  rest.foldl (fun before p => joined p.1 before (parenthesised p.2.text)) (parenthesised first.text)

/-- What a row of filters means: each connective joins everything before it with the filter behind
it. -/
def rowExpr (first : Clause) (rest : List (Connective × Clause)) : Expr :=
  rest.foldl (fun before p => .join p.1 before p.2.expr) first.expr

/-- The connectives that a row of filters has between and inside its parts. -/
def rowConnectives (first : Clause) (rest : List (Connective × Clause)) : Nat :=
  connectivesIn first.text + (rest.map fun p => connectivesIn p.2.text + 1).sum

/-- A text is gone on from, filter by filter.  The induction takes the text so far for the first
filter of the row. -/
theorem Spells.row {before : String} {ts : List Token} {e : Expr} {d : Nat}
    (h : Spells .expr before ts e d) (hd : d ≤ maxNesting) {rest : List (Connective × Clause)}
    (hnests : ∀ p ∈ rest, NestsWithin p.2.text (maxNesting - 1)) :
    ∃ us, ∃ d' ≤ maxNesting,
      Spells .expr
        (rest.foldl (fun before p => Filter.joined p.1 before (Filter.parenthesised p.2.text))
          before)
        us (rest.foldl (fun before p => .join p.1 before p.2.expr) e) d' ∧
      connectives us = connectives ts + (rest.map fun p => connectivesIn p.2.text + 1).sum := by
  induction rest generalizing before ts e d with
  | nil => exact ⟨ts, d, hd, h, rfl⟩
  | cons p rest ih =>
    obtain ⟨hp, hrest⟩ := List.forall_mem_cons.mp hnests
    obtain ⟨vs, dp, hdp, hspells, -⟩ := exists_spells p.2.parse_eq hp
    have hdeep : max d (dp + 1) ≤ maxNesting := by
      have hlt : maxNesting - 1 + 1 = maxNesting := rfl
      omega
    obtain ⟨us, d', hd', hrow, hcount⟩ := ih (h.joined p.1 hspells.parenthesised) hdeep hrest
    refine ⟨us, d', hd', hrow, ?_⟩
    rw [hcount, connectives_append, connectives_cons, connectives_spelling,
      connectives_parenthesised, List.map_cons, List.sum_cons, hspells.connectivesIn_eq]
    omega

/-- What joined expressions evaluate to. -/
theorem evaluate_foldl_join (item : Value) (e : Expr) (rest : List (Connective × Clause)) :
    (rest.foldl (fun before p => .join p.1 before p.2.expr) e).evaluate item =
      rest.foldl
        (fun keep p => match p.1 with
          | .and => keep && evaluateText p.2.text item
          | .or => keep || evaluateText p.2.text item)
        (e.evaluate item) := by
  induction rest generalizing e with
  | nil => rfl
  | cons p rest ih =>
    obtain ⟨c, clause⟩ := p
    rw [List.foldl_cons, ih, List.foldl_cons, Expr.evaluate_join, evaluateText_eq clause.parse_eq]
    cases c with
    | and => rfl
    | or => rfl

/-- **Filters are composed by composing their texts.**  A row of filters in parentheses, with
connectives between them, is read as the filters joined from the left, and lets an item pass as they
do; a filter in parentheses behind `not` is read as its negation.  The parentheses need a level of
nesting, and `not` another one; and the limit on connectives is for the row as a whole. -/
theorem parse_rowText_and_negation :
    (∀ (first : Clause) (rest : List (Connective × Clause)),
      NestsWithin first.text 127 → (∀ p ∈ rest, NestsWithin p.2.text 127) →
      rowConnectives first rest ≤ 1024 →
      parse (rowText first rest) = .ok (some (rowExpr first rest)) ∧
      ∀ item, evaluateText (rowText first rest) item =
        rest.foldl
          (fun keep p => match p.1 with
            | .and => keep && evaluateText p.2.text item
            | .or => keep || evaluateText p.2.text item)
          (evaluateText first.text item)) ∧
    (∀ clause : Clause, NestsWithin clause.text 126 →
      parse ("not " ++ parenthesised clause.text) = .ok (some (.not clause.expr)) ∧
      ∀ item, evaluateText ("not " ++ parenthesised clause.text) item =
        !evaluateText clause.text item) := by
  constructor
  · intro first rest hfirst hrest hcount
    obtain ⟨ts, d, hd, hspells, -⟩ := exists_spells first.parse_eq hfirst
    obtain ⟨us, d', hd', hrow, hconnectives⟩ :=
      hspells.parenthesised.expr_of_term.row (Nat.succ_le_succ hd) hrest
    rw [connectives_parenthesised, ← hspells.connectivesIn_eq] at hconnectives
    have hparse : parse (rowText first rest) = .ok (some (rowExpr first rest)) :=
      hrow.parse_eq hd' (hconnectives ▸ hcount)
    refine ⟨hparse, fun item => ?_⟩
    rw [evaluateText_eq hparse, evaluateText_eq first.parse_eq]
    exact evaluate_foldl_join item first.expr rest
  · intro clause hnests
    obtain ⟨ts, d, hd, hspells, hconnectives⟩ := exists_spells clause.parse_eq hnests
    have hcount : connectives (.word "not" :: .opening :: (ts ++ [.closing])) = connectives ts := by
      rw [connectives_cons, connectives_parenthesised]
      exact Nat.zero_add _
    have hparse : parse ("not " ++ parenthesised clause.text) = .ok (some (.not clause.expr)) :=
      hspells.parenthesised.negated.expr_of_term.parse_eq (Nat.add_le_add_right hd 2)
        (hcount ▸ hconnectives)
    refine ⟨hparse, fun item => ?_⟩
    rw [evaluateText_eq hparse, evaluateText_eq clause.parse_eq]
    rfl

/-- Parentheses in strings do not meet those around the filters, and a row is taken from the left:
of what `or` lets pass, a following `and` can still refuse something. -/
theorem parse_quoted_parentheses :
    NestsWithin ". == ')'" 0 ∧ NestsWithin ". == '('" 0 ∧
      parse "(. == '(') or (. == ')') and (. == ')')" =
        .ok (some (.join .and
          (.join .or (.compare ⟨".", []⟩ (.symbol .equal) (.string "("))
            (.compare ⟨".", []⟩ (.symbol .equal) (.string ")")))
          (.compare ⟨".", []⟩ (.symbol .equal) (.string ")")))) ∧
      evaluateText "(. == '(') or (. == ')') and (. == ')')" (.string "(") = false ∧
      evaluateText "(. == '(') or (. == ')')" (.string "(") = true ∧
      parse "not (. == ')')" =
        .ok (some (.not (.compare ⟨".", []⟩ (.symbol .equal) (.string ")")))) ∧
      evaluateText "not (. == ')')" (.string "(") = true := by
  have hfield : IsField (.word ".") ⟨".", []⟩ :=
    .word (by decide) (by decide) (by decide) (by cbv)
  have hnests : ∀ (text s : String),
      Token.scan text.toList = .ok [.word ".", .symbol .equal, .string s] →
        ∀ bound, NestsWithin text bound := by
    intro text s hscan bound
    exact ⟨_, _, 0, Nat.zero_le bound, hscan,
      (Derives.comparison hfield (.symbol .equal) (.string s)).expr_of_term⟩
  have hclosing : ∀ bound, NestsWithin ". == ')'" bound := hnests _ ")" (by cbv)
  have hopening : ∀ bound, NestsWithin ". == '('" bound := hnests _ "(" (by cbv)
  let first : Clause := ⟨". == '('", .compare ⟨".", []⟩ (.symbol .equal) (.string "("), by cbv⟩
  let second : Clause := ⟨". == ')'", .compare ⟨".", []⟩ (.symbol .equal) (.string ")"), by cbv⟩
  have hfirst : evaluateText first.text (.string "(") = true := by cbv
  have hsecond : evaluateText second.text (.string "(") = false := by cbv
  obtain ⟨hrow, hnegation⟩ := parse_rowText_and_negation
  obtain ⟨hparse, hmeans⟩ := hrow first [(.or, second), (.and, second)] (hopening 127)
    (by simpa using hclosing 127) (show rowConnectives first _ ≤ 1024 by decide +kernel)
  obtain ⟨-, hfewer⟩ := hrow first [(.or, second)] (hopening 127) (by simpa using hclosing 127)
    (show rowConnectives first _ ≤ 1024 by decide +kernel)
  obtain ⟨hnot, hnotMeans⟩ := hnegation second (hclosing 126)
  refine ⟨hclosing 0, hopening 0, hparse, (hmeans _).trans ?_, (hfewer _).trans ?_, hnot,
    (hnotMeans _).trans ?_⟩
  · simp only [List.foldl_cons, List.foldl_nil, hfirst, hsecond]
    rfl
  · simp only [List.foldl_cons, List.foldl_nil, hfirst, hsecond]
    rfl
  · rw [hsecond]
    rfl

end Filter
end DocPipe
