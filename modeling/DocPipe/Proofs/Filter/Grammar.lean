import DocPipe.Filter.Parser

/-!
# The grammar of filters

`Filter.Parser` reads a row of tokens with a stack, one token at a time.  What it reads is the
language of a small grammar,

    expr       := term (("and" | "or") term)*
    term       := "not" term | "(" expr ")" | comparison
    comparison := field operator literal

and this file writes the grammar down as a relation between rows of tokens and expressions, without
a stack, a state or an error in it.

## What a derivation counts

The reader has two limits.  One of them is about the tokens alone, since every `and` and `or` of a
derivable row is a connective: `connectives` counts these words.  The other is about how the tokens
are nested, and a `not` ends where its term does, so it can only be told from a derivation.  A
derivation therefore carries the nesting of its deepest token, that is the greatest number of
parentheses and `not`s that are open around a single token.

## Why the rest of an expression is a nonterminal

Connectives group from the left.  Written with the whole left-hand side in front, the grammar would
be left-recursive, and two derivations of one row could not be compared from its first token on.
`Nonterminal.rest left` is the row behind the expression `left`, and each connective of it takes
everything so far as its left-hand side.  With that, a derivation is determined by its tokens
(`Derives.unique`).
-/

namespace DocPipe
namespace Filter

/-! ## The leaves -/

/-- The tokens that name a field: words that are no keywords and that are paths. -/
inductive IsField : Token → Field → Prop where
  | word {w : String} {path : Path} (hand : w ≠ "and") (hor : w ≠ "or") (hnot : w ≠ "not")
      (hpath : Path.parse w = .ok path) : IsField (.word w) ⟨w, path⟩

/-- The tokens that are operators: the symbols, and three words. -/
inductive IsOperator : Token → Operator → Prop where
  | symbol (s : Symbol) : IsOperator (.symbol s) (.symbol s)
  | contains : IsOperator (.word "contains") .contains
  | startsWith : IsOperator (.word "startsWith") .startsWith
  | endsWith : IsOperator (.word "endsWith") .endsWith

/-- The tokens that are literals: quoted strings, three words, and the words for numbers. -/
inductive IsLiteral : Token → Literal → Prop where
  | string (s : String) : IsLiteral (.string s) (.string s)
  | bool (b : Bool) : IsLiteral (.word (Value.boolText b)) (.bool b)
  | null : IsLiteral (.word "null") .null
  | number {w : String} {x : Binary64} (h : Literal.numberOfWord? w.toList = some x) :
      IsLiteral (.word w) (.number x)

theorem IsField.unique {t : Token} {f g : Field} (hf : IsField t f) (hg : IsField t g) :
    f = g := by
  obtain ⟨-, -, -, hf⟩ := hf
  obtain ⟨-, -, -, hg⟩ := hg
  rw [Except.ok.inj (hf.symm.trans hg)]

/-- An operator is a symbol, or a word that spells it. -/
theorem IsOperator.spelled {t : Token} {op : Operator} (h : IsOperator t op) :
    (∃ s, t = .symbol s ∧ op = .symbol s) ∨
      ∃ w, t = .word w ∧ Operator.ofSpelling? w = some op := by
  cases h with
  | symbol s => exact .inl ⟨s, rfl, rfl⟩
  | contains => exact .inr ⟨_, rfl, rfl⟩
  | startsWith => exact .inr ⟨_, rfl, rfl⟩
  | endsWith => exact .inr ⟨_, rfl, rfl⟩

theorem IsOperator.unique {t : Token} {o p : Operator} (ho : IsOperator t o)
    (hp : IsOperator t p) : o = p := by
  rcases ho.spelled with ⟨s, rfl, rfl⟩ | ⟨w, rfl, hspell⟩
  · cases hp
    rfl
  · rcases hp.spelled with ⟨s, hs, -⟩ | ⟨w', hw, hspell'⟩
    · exact absurd hs (by simp)
    · rw [← Token.word.inj hw] at hspell'
      exact Option.some.inj (hspell.symm.trans hspell')

/-- The words for truth values and for null are no words for numbers. -/
theorem numberOfWord?_boolText (b : Bool) :
    Literal.numberOfWord? (Value.boolText b).toList = none := by
  cases b <;> decide +kernel

theorem numberOfWord?_null : Literal.numberOfWord? "null".toList = none := by decide +kernel

/-- A token is a literal exactly if the reader takes it for one. -/
theorem isLiteral_iff {t : Token} {l : Literal} : IsLiteral t l ↔ State.literal? t = some l := by
  constructor
  · intro h
    cases h with
    | string s => rfl
    | bool b => cases b <;> rfl
    | null => rfl
    | @number w x h =>
      have htrue : w ≠ "true" := by
        rintro rfl
        exact absurd ((numberOfWord?_boolText true).symm.trans h) (by simp)
      have hfalse : w ≠ "false" := by
        rintro rfl
        exact absurd ((numberOfWord?_boolText false).symm.trans h) (by simp)
      have hnull : w ≠ "null" := by
        rintro rfl
        exact absurd (numberOfWord?_null.symm.trans h) (by simp)
      simp [State.literal?, Literal.ofWord?, htrue, hfalse, hnull, h]
  · intro h
    cases t with
    | string s =>
      rw [← Option.some.inj h]
      exact .string s
    | word w =>
      simp only [State.literal?, Literal.ofWord?] at h
      split at h
      · next hw => rw [hw, ← Option.some.inj h]; exact .bool true
      · split at h
        · next hw => rw [hw, ← Option.some.inj h]; exact .bool false
        · split at h
          · next hw => rw [hw, ← Option.some.inj h]; exact .null
          · obtain ⟨x, hx, rfl⟩ := Option.map_eq_some_iff.mp h
            exact .number hx
    | symbol s => exact absurd h (by simp [State.literal?])
    | opening => exact absurd h (by simp [State.literal?])
    | closing => exact absurd h (by simp [State.literal?])

theorem IsLiteral.unique {t : Token} {l m : Literal} (hl : IsLiteral t l) (hm : IsLiteral t m) :
    l = m :=
  Option.some.inj ((isLiteral_iff.mp hl).symm.trans (isLiteral_iff.mp hm))

/-! ## Derivations -/

/-- What a row of tokens can be derived from. -/
inductive Nonterminal where
  | term
  | expr
  /-- What may stand behind an expression: any number of connectives and terms. -/
  | rest (left : Expr)

/-- `Derives k ts e d` says that the tokens `ts` are derived from `k`, that they denote `e`, and
that the deepest of them stands inside `d` parentheses and `not`s. -/
inductive Derives : Nonterminal → List Token → Expr → Nat → Prop where
  | comparison {f o l : Token} {field : Field} {op : Operator} {literal : Literal}
      (hfield : IsField f field) (hop : IsOperator o op) (hliteral : IsLiteral l literal) :
      Derives .term [f, o, l] (.compare field op literal) 0
  | negation {ts : List Token} {e : Expr} {d : Nat} (h : Derives .term ts e d) :
      Derives .term (.word "not" :: ts) (.not e) (d + 1)
  | group {ts : List Token} {e : Expr} {d : Nat} (h : Derives .expr ts e d) :
      Derives .term (.opening :: (ts ++ [.closing])) e (d + 1)
  | chain {ts us : List Token} {l e : Expr} {d d' : Nat} (h : Derives .term ts l d)
      (h' : Derives (.rest l) us e d') : Derives .expr (ts ++ us) e (max d d')
  | done {l : Expr} : Derives (.rest l) [] l 0
  | more {c : Connective} {ts us : List Token} {l r e : Expr} {d d' : Nat}
      (h : Derives .term ts r d) (h' : Derives (.rest (.join c l r)) us e d') :
      Derives (.rest l) (.word c.spelling :: (ts ++ us)) e (max d d')

/-- Whether a token is one of the words that join two terms. -/
def isConnective (t : Token) : Bool := t = .word "and" ∨ t = .word "or"

/-- How many connectives a row of tokens has. -/
def connectives (ts : List Token) : Nat := ts.countP isConnective

@[simp] theorem connectives_append (ts us : List Token) :
    connectives (ts ++ us) = connectives ts + connectives us :=
  List.countP_append

theorem connectives_cons (t : Token) (ts : List Token) :
    connectives (t :: ts) = connectives [t] + connectives ts :=
  connectives_append [t] ts

@[simp] theorem connectives_spelling (c : Connective) :
    connectives [.word c.spelling] = 1 := by
  cases c <;> decide

/-- Every word that is no keyword is no connective. -/
theorem IsField.connectives {t : Token} {f : Field} (h : IsField t f) :
    Filter.connectives [t] = 0 := by
  obtain ⟨hand, hor, -, -⟩ := h
  simp [Filter.connectives, isConnective, hand, hor]

theorem IsOperator.connectives {t : Token} {op : Operator} (h : IsOperator t op) :
    Filter.connectives [t] = 0 := by
  cases h <;> simp [Filter.connectives, isConnective]

theorem IsLiteral.connectives {t : Token} {l : Literal} (h : IsLiteral t l) :
    Filter.connectives [t] = 0 := by
  cases h with
  | string s => simp [Filter.connectives, isConnective]
  | bool b => cases b <;> decide
  | null => decide
  | @number w x h =>
    have hand : w ≠ "and" := by
      rintro rfl
      exact absurd (h.symm.trans (by decide +kernel : _ = none)) (by simp)
    have hor : w ≠ "or" := by
      rintro rfl
      exact absurd (h.symm.trans (by decide +kernel : _ = none)) (by simp)
    simp [Filter.connectives, isConnective, hand, hor]

/-! ## Extending an expression -/

/-- A connective and a term behind the rest of an expression extend it. -/
theorem Derives.snoc_rest {k : Nonterminal} {l e r : Expr} {ts us : List Token} {d d' : Nat}
    (c : Connective) (h : Derives k ts e d) (hk : k = .rest l) (hr : Derives .term us r d') :
    Derives (.rest l) (ts ++ .word c.spelling :: us) (.join c e r) (max d d') := by
  induction h generalizing l with
  | comparison => exact absurd hk (by simp)
  | negation => exact absurd hk (by simp)
  | group => exact absurd hk (by simp)
  | chain => exact absurd hk (by simp)
  | @done l₀ =>
    cases hk
    have h' : Derives (.rest l₀) (.word c.spelling :: (us ++ [])) (.join c l₀ r) (max d' 0) :=
      .more hr .done
    rwa [List.append_nil, Nat.max_comm] at h'
  | more h _ _ ih =>
    cases hk
    have h' := Derives.more h (ih rfl)
    rwa [← List.append_assoc, ← List.cons_append, ← Nat.max_assoc] at h'

/-- A connective and a term behind an expression make the expression that joins the two. -/
theorem Derives.snoc {e r : Expr} {ts us : List Token} {d d' : Nat} (h : Derives .expr ts e d)
    (c : Connective) (hr : Derives .term us r d') :
    Derives .expr (ts ++ .word c.spelling :: us) (.join c e r) (max d d') := by
  cases h with
  | chain h h' =>
    have h'' := Derives.chain h (h'.snoc_rest c rfl hr)
    rwa [← List.append_assoc, ← Nat.max_assoc] at h''

/-- A term is an expression. -/
theorem Derives.expr_of_term {e : Expr} {ts : List Token} {d : Nat} (h : Derives .term ts e d) :
    Derives .expr ts e d := by
  have h' := h.chain .done
  rwa [List.append_nil, Nat.max_zero] at h'

/-! ## Derivations are unique -/

/-- Whether what follows a row of tokens ends it: behind an expression no connective may follow. -/
def Stops : Nonterminal → List Token → Prop
  | .term, _ => True
  | _, t :: _ => isConnective t = false
  | _, [] => True

@[simp] theorem stops_nil (k : Nonterminal) : Stops k [] := by cases k <;> trivial

/-- What ends an expression ends the rest of it. -/
theorem Stops.rest {k : Nonterminal} {ts : List Token} (h : Stops k ts) (hk : k ≠ .term)
    (l : Expr) : Stops (.rest l) ts := by
  cases k with
  | term => exact absurd rfl hk
  | expr => cases ts <;> exact h
  | rest l' => cases ts <;> exact h

@[simp] theorem stops_closing (k : Nonterminal) (ts : List Token) : Stops k (.closing :: ts) := by
  cases k <;> trivial

theorem not_stops_rest_spelling {c : Connective} {l : Expr} {ts : List Token} :
    ¬ Stops (.rest l) (.word c.spelling :: ts) := by
  cases c <;> exact fun h => absurd h (by simp [Stops, isConnective, Connective.spelling])

theorem spelling_injective {c c' : Connective} (h : c.spelling = c'.spelling) : c = c' := by
  cases c <;> cases c' <;> first | rfl | exact absurd h (by decide)

/-- A row of tokens that begins two texts, and ends in both where it has to, is derived in at most
one way: the induction runs over the first derivation, and the first token tells which rule the
second one uses. -/
theorem Derives.unique_of_append {k : Nonterminal} {ts ts' us us' : List Token} {e e' : Expr}
    {d d' : Nat} (h : Derives k ts e d) (h' : Derives k ts' e' d')
    (happ : ts ++ us = ts' ++ us') (hs : Stops k us) (hs' : Stops k us') :
    ts = ts' ∧ e = e' ∧ d = d' := by
  induction h generalizing ts' us us' e' d' with
  | comparison hfield hop hliteral =>
    cases h' with
    | comparison hfield' hop' hliteral' =>
      simp only [List.cons_append, List.nil_append, List.cons.injEq] at happ
      obtain ⟨rfl, rfl, rfl, -⟩ := happ
      rw [hfield.unique hfield', hop.unique hop', hliteral.unique hliteral']
      exact ⟨rfl, rfl, rfl⟩
    | negation =>
      obtain ⟨-, -, hnot, -⟩ := hfield
      simp only [List.cons_append, List.cons.injEq, Token.word.injEq] at happ
      exact absurd happ.1 hnot
    | group =>
      obtain ⟨-, -, -, -⟩ := hfield
      exact absurd (List.cons.inj happ).1 (by simp)
  | negation h ih =>
    cases h' with
    | comparison hfield' =>
      obtain ⟨-, -, hnot, -⟩ := hfield'
      simp only [List.cons_append, List.cons.injEq, Token.word.injEq] at happ
      exact absurd happ.1.symm hnot
    | negation h' =>
      obtain ⟨rfl, rfl, rfl⟩ := ih h' (List.cons.inj happ).2 trivial trivial
      exact ⟨rfl, rfl, rfl⟩
    | group => exact absurd (List.cons.inj happ).1 (by simp)
  | group h ih =>
    cases h' with
    | comparison hfield' =>
      obtain ⟨-, -, -, -⟩ := hfield'
      exact absurd (List.cons.inj happ).1 (by simp)
    | negation => exact absurd (List.cons.inj happ).1 (by simp)
    | group h' =>
      simp only [List.cons_append, List.append_assoc, List.cons.injEq, true_and,
        List.nil_append] at happ
      obtain ⟨rfl, rfl, rfl⟩ := ih h' happ (stops_closing _ _) (stops_closing _ _)
      exact ⟨rfl, rfl, rfl⟩
  | chain _ _ ih ihrest =>
    cases h' with
    | chain h' hrest' =>
      simp only [List.append_assoc] at happ
      obtain ⟨rfl, rfl, rfl⟩ := ih h' happ trivial trivial
      obtain ⟨rfl, rfl, rfl⟩ := ihrest hrest' (List.append_cancel_left happ)
        (hs.rest (by simp) _) (hs'.rest (by simp) _)
      exact ⟨rfl, rfl, rfl⟩
  | done =>
    cases h' with
    | done => exact ⟨rfl, rfl, rfl⟩
    | more =>
      rw [List.nil_append] at happ
      rw [happ] at hs
      exact absurd hs not_stops_rest_spelling
  | more _ _ ih ihrest =>
    cases h' with
    | done =>
      rw [List.nil_append] at happ
      rw [← happ] at hs'
      exact absurd hs' not_stops_rest_spelling
    | more h' hrest' =>
      simp only [List.cons_append, List.append_assoc, List.cons.injEq, Token.word.injEq] at happ
      obtain ⟨hc, happ⟩ := happ
      cases spelling_injective hc
      obtain ⟨rfl, rfl, rfl⟩ := ih h' happ trivial trivial
      obtain ⟨rfl, rfl, rfl⟩ := ihrest hrest' (List.append_cancel_left happ)
        (hs.rest (by simp) _) (hs'.rest (by simp) _)
      exact ⟨rfl, rfl, rfl⟩

/-- **The grammar is unambiguous.**  A row of tokens denotes at most one expression, and it nests in
one way only. -/
theorem Derives.unique {k : Nonterminal} {ts : List Token} {e e' : Expr} {d d' : Nat}
    (h : Derives k ts e d) (h' : Derives k ts e' d') : e = e' ∧ d = d' := by
  have happ : ts ++ [] = ts ++ [] := rfl
  exact (h.unique_of_append h' happ (stops_nil k) (stops_nil k)).2

end Filter
end DocPipe
