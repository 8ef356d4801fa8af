import Mathlib
import DocPipe.Proofs.Filter.Step

/-!
# The reader accepts exactly its grammar

`Proofs.Filter.Grammar` says what a filter is, and `Proofs.Filter.Step` says how the reader moves.
This file joins the two, in both directions.

## From derivations to runs

`Derives.accepts` runs the reader on a derived row of tokens, from every state in which that row may
begin.  The induction is on the derivation, and it goes through because the statement is about every
stack: the frames below a row are the same before and behind it.  How much room the row needs is
what its derivation counts, so the two limits appear as two inequalities.

## From runs to derivations

In the other direction a run is followed token by token, and halfway through a filter nothing is
derived yet.  What has been read is then spread over the stack: each open frame stands for the
tokens from where it was opened, and `Opened` says which ones these can be.  `Explains` extends this
to states, and is kept by every move (`Explains.move`).  At the end the stack is empty, and what is
left of the explanation is a derivation of the whole row.
-/

namespace DocPipe
namespace Filter

open State

/-! ## Running over several tokens -/

theorem run_cons_of_moves {s s' : State} {t : Token} (h : Moves s t s') (ts : List Token) :
    s.run (t :: ts) = s'.run ts := by
  rw [run_cons, step_of_moves h]
  rfl

theorem run_append_of_run {s s' : State} {ts : List Token} (h : s.run ts = .ok s')
    (us : List Token) : s.run (ts ++ us) = s'.run us := by
  rw [run_append, h]
  rfl

/-- Whether an expression may begin and end on top of a stack: nothing but a parenthesis waits for
it. -/
def IsBase : List Frame → Prop
  | [] => True
  | .group :: _ => True
  | _ => False

/-- Behind an expression's own term, the expression is all that has been completed. -/
theorem afterTerm_of_isBase {stack : List Frame} (h : IsBase stack) (e : Expr) (n : Nat) :
    afterTerm stack e n = ⟨stack, .connective e, n⟩ := by
  cases stack with
  | nil => rfl
  | cons frame stack =>
    cases frame with
    | not => exact h.elim
    | group => rfl
    | left l c => exact h.elim

@[simp] theorem nesting_left (l : Expr) (c : Connective) (stack : List Frame) :
    nesting (.left l c :: stack) = nesting stack := rfl

@[simp] theorem nesting_not (stack : List Frame) :
    nesting (.not :: stack) = nesting stack + 1 :=
  List.countP_cons_of_pos rfl

@[simp] theorem nesting_group (stack : List Frame) :
    nesting (.group :: stack) = nesting stack + 1 :=
  List.countP_cons_of_pos rfl

/-! ## From derivations to runs -/

/-- What the reader does with tokens that are derived from `k`, on a stack and behind `n`
connectives. -/
def Accepts (stack : List Frame) (n : Nat) (ts : List Token) (e : Expr) : Nonterminal → Prop
  | .term => run ⟨stack, .term, n⟩ ts = .ok (afterTerm stack e (n + connectives ts))
  | .expr => IsBase stack →
      run ⟨stack, .term, n⟩ ts = .ok ⟨stack, .connective e, n + connectives ts⟩
  | .rest l => IsBase stack →
      run ⟨stack, .connective l, n⟩ ts = .ok ⟨stack, .connective e, n + connectives ts⟩

/-- The reader accepts what is derived, as long as there is room for its nesting and for its
connectives. -/
theorem Derives.accepts {k : Nonterminal} {ts : List Token} {e : Expr} {d : Nat}
    (h : Derives k ts e d) (stack : List Frame) (n : Nat)
    (hroom : nesting stack + d ≤ maxNesting) (hcount : n + Filter.connectives ts ≤ maxConnectives) :
    Accepts stack n ts e k := by
  induction h generalizing stack n with
  | @comparison f o l field op literal hfield hop hliteral =>
    have hzero : Filter.connectives [f, o, l] = 0 := by
      rw [connectives_cons, connectives_cons o, hfield.connectives, hop.connectives,
        hliteral.connectives]
    show run ⟨stack, .term, n⟩ [f, o, l] = _
    rw [hzero, run_cons_of_moves (.field hfield), run_cons_of_moves (.operator hop),
      run_cons_of_moves (.literal hliteral)]
    rfl
  | @negation ts e d _ ih =>
    have hcons : Filter.connectives (.word "not" :: ts) = Filter.connectives ts := by
      rw [connectives_cons]
      exact Nat.zero_add _
    rw [hcons] at hcount
    have hrun := ih (.not :: stack) n (by rw [nesting_not]; omega) hcount
    show run ⟨stack, .term, n⟩ (.word "not" :: ts) = _
    rw [hcons, run_cons_of_moves (.negation (by omega))]
    exact hrun
  | @group ts e d _ ih =>
    have hcons : Filter.connectives (.opening :: (ts ++ [.closing])) = Filter.connectives ts := by
      rw [connectives_cons, connectives_append]
      exact Nat.zero_add _
    rw [hcons] at hcount
    have hrun := ih (.group :: stack) n (by rw [nesting_group]; omega) hcount trivial
    show run ⟨stack, .term, n⟩ (.opening :: (ts ++ [.closing])) = _
    rw [hcons, run_cons_of_moves (.opening (by omega)), run_append_of_run hrun,
      run_cons_of_moves .closing]
    rfl
  | @chain ts us l e d d' _ _ ih ihrest =>
    rw [connectives_append] at hcount
    intro hbase
    have hterm := ih stack n (by omega) (by omega)
    rw [Accepts, afterTerm_of_isBase hbase] at hterm
    have hrest := ihrest stack (n + Filter.connectives ts) (by omega) (by omega) hbase
    rw [run_append_of_run hterm, hrest, connectives_append, Nat.add_assoc]
  | done =>
    intro _
    rfl
  | @more c ts us l r e d d' _ _ ih ihrest =>
    have hcons : Filter.connectives (.word c.spelling :: (ts ++ us)) =
        1 + Filter.connectives ts + Filter.connectives us := by
      rw [connectives_cons, connectives_append, connectives_spelling, Nat.add_assoc]
    rw [hcons] at hcount
    intro hbase
    have hterm := ih (.left l c :: stack) (n + 1) (by rw [nesting_left]; omega) (by omega)
    -- the frame that waits for the right-hand side takes it, and is gone again
    have hjoined : afterTerm (.left l c :: stack) r (n + 1 + Filter.connectives ts) =
        ⟨stack, .connective (.join c l r), n + 1 + Filter.connectives ts⟩ := rfl
    rw [Accepts, hjoined] at hterm
    have hrest := ihrest stack (n + 1 + Filter.connectives ts) (by omega) (by omega) hbase
    rw [run_cons_of_moves (.connective c (by omega)), run_append_of_run hterm, hrest, hcons]
    congr 2
    omega

/-! ## From runs to derivations -/

/-- `Opened stack ts` says that reading the tokens `ts` has opened the frames of `stack` and left
nothing else unfinished. -/
inductive Opened : List Frame → List Token → Prop where
  | nil : Opened [] []
  | not {stack : List Frame} {ts : List Token} (h : Opened stack ts) :
      Opened (.not :: stack) (ts ++ [.word "not"])
  | group {stack : List Frame} {ts : List Token} (h : Opened stack ts) :
      Opened (.group :: stack) (ts ++ [.opening])
  | left {stack : List Frame} {ts us : List Token} {l : Expr} {d : Nat} (c : Connective)
      (h : Opened stack ts) (hbase : IsBase stack) (hl : Derives .expr us l d)
      (hroom : nesting stack + d ≤ maxNesting) :
      Opened (.left l c :: stack) (ts ++ us ++ [.word c.spelling])

/-- What has been read behind the frames of a stack, in a phase of the reader. -/
inductive Explains (stack : List Frame) : Phase → List Token → Prop where
  | term {ts : List Token} (h : Opened stack ts) : Explains stack .term ts
  | operator {ts : List Token} {t : Token} {field : Field} (h : Opened stack ts)
      (hfield : IsField t field) : Explains stack (.operator field) (ts ++ [t])
  | literal {ts : List Token} {t o : Token} {field : Field} {op : Operator} (h : Opened stack ts)
      (hfield : IsField t field) (hop : IsOperator o op) :
      Explains stack (.literal field op) (ts ++ [t] ++ [o])
  | connective {ts us : List Token} {e : Expr} {d : Nat} (h : Opened stack ts)
      (hbase : IsBase stack) (he : Derives .expr us e d)
      (hroom : nesting stack + d ≤ maxNesting) : Explains stack (.connective e) (ts ++ us)

/-- What is known of a state behind the tokens `ts`: an explanation of its stack, that the
connectives are those of the tokens, and that both limits have been kept. -/
structure Reads (s : State) (ts : List Token) : Prop where
  explains : Explains s.stack s.phase ts
  connectives_eq : s.connectives = connectives ts
  connectives_le : s.connectives ≤ maxConnectives
  nesting_le : nesting s.stack ≤ maxNesting

/-- A term that completes the frames waiting for it is explained by what is left of the stack.  The
induction peels off one frame after the other, as `complete` does. -/
theorem Opened.complete {stack : List Frame} {ts us : List Token} {e : Expr} {d : Nat}
    (h : Opened stack ts) (he : Derives .term us e d) (hroom : nesting stack + d ≤ maxNesting) :
    Explains (State.complete stack e).1 (.connective (State.complete stack e).2) (ts ++ us) := by
  induction h generalizing us e d with
  | nil => exact .connective .nil trivial he.expr_of_term hroom
  | not h ih =>
    rw [List.append_assoc]
    rw [nesting_not] at hroom
    exact ih he.negation (by omega)
  | group h => exact .connective h.group trivial he.expr_of_term hroom
  | @left stack ts vs l d' c h hbase hl hroom' =>
    rw [List.append_assoc, List.append_assoc]
    rw [nesting_left] at hroom
    have hmax : nesting stack + max d' d ≤ maxNesting := by omega
    exact .connective h hbase (hl.snoc c he) hmax

/-- Completing frames closes nestings and opens none. -/
theorem nesting_complete_le (stack : List Frame) (e : Expr) :
    nesting (State.complete stack e).1 ≤ nesting stack := by
  fun_induction State.complete stack e with
  | case1 stack e ih =>
    rw [nesting_not]
    exact Nat.le_succ_of_le ih
  | case2 stack lhs c e => exact Nat.le_refl _
  | case3 => exact Nat.le_refl _

/-- Behind a term, the state that has completed it is explained. -/
theorem Opened.reads_afterTerm {stack : List Frame} {ts us : List Token} {e : Expr} {d n : Nat}
    (h : Opened stack ts) (he : Derives .term us e d) (hroom : nesting stack + d ≤ maxNesting)
    (heq : n = connectives (ts ++ us)) (hle : n ≤ maxConnectives) :
    Reads (afterTerm stack e n) (ts ++ us) where
  explains := h.complete he hroom
  connectives_eq := heq
  connectives_le := hle
  nesting_le :=
    Nat.le_trans (nesting_complete_le stack e) (Nat.le_trans (Nat.le_add_right _ d) hroom)

/-- **A move keeps the explanation.** -/
theorem Reads.move {s s' : State} {t : Token} {ts : List Token} (h : Reads s ts)
    (hmove : Moves s t s') : Reads s' (ts ++ [t]) := by
  obtain ⟨hexplains, heq, hle, hnesting⟩ := h
  cases hmove with
  | @negation stack n hroom =>
    cases hexplains with
    | term h =>
      refine ⟨.term h.not, ?_, hle, ?_⟩
      · rw [connectives_append]
        exact heq
      · rw [nesting_not]
        exact hroom
  | @opening stack n hroom =>
    cases hexplains with
    | term h =>
      refine ⟨.term h.group, ?_, hle, ?_⟩
      · rw [connectives_append]
        exact heq
      · rw [nesting_group]
        exact hroom
  | field hfield =>
    cases hexplains with
    | term h =>
      refine ⟨.operator h hfield, ?_, hle, hnesting⟩
      rw [connectives_append, hfield.connectives]
      exact heq
  | operator hop =>
    cases hexplains with
    | operator h hfield =>
      refine ⟨.literal h hfield hop, ?_, hle, hnesting⟩
      rw [connectives_append, hop.connectives]
      exact heq
  | literal hliteral =>
    cases hexplains with
    | @literal ts f o _ _ h hfield hop =>
      have hcat : ts ++ [f] ++ [o] ++ [t] = ts ++ [f, o, t] := by simp
      rw [hcat]
      refine h.reads_afterTerm (.comparison hfield hop hliteral) hnesting ?_ hle
      rw [← hcat, connectives_append, hliteral.connectives]
      exact heq
  | connective c hroom =>
    cases hexplains with
    | connective h hbase he hroom' =>
      refine ⟨.term (h.left c hbase he hroom'), ?_, hroom, hnesting⟩
      rw [connectives_append, connectives_spelling]
      exact congrArg (· + 1) heq
  | @closing stack n e =>
    cases hexplains with
    | @connective ts us _ d h _ he hroom =>
      -- the parenthesis that is open is the last thing in front of the expression
      cases h with
      | @group _ ts h =>
        have hcat : ts ++ [.opening] ++ us ++ [.closing] =
            ts ++ (.opening :: (us ++ [.closing])) := by simp
        rw [hcat]
        rw [nesting_group] at hroom
        refine h.reads_afterTerm he.group (by omega) ?_ hle
        rw [← hcat, connectives_append]
        exact heq

/-- **A run keeps the explanation.** -/
theorem Reads.run {s s' : State} {ts us : List Token} (hplain : ∀ t ∈ us, t.IsPlain)
    (h : Reads s ts) (hrun : s.run us = .ok s') : Reads s' (ts ++ us) := by
  induction us generalizing s ts with
  | nil =>
    rw [run_nil] at hrun
    rw [← Except.ok.inj hrun, List.append_nil]
    exact h
  | cons t us ih =>
    obtain ⟨ht, hus⟩ := List.forall_mem_cons.mp hplain
    rw [run_cons] at hrun
    cases hstep : s.step t with
    | error e =>
      rw [hstep] at hrun
      exact absurd hrun (by simp [Except.bind])
    | ok s₁ =>
      rw [hstep] at hrun
      have h' := ih hus (h.move ((step_eq_ok_iff ht).mp hstep)) hrun
      rwa [List.append_assoc] at h'

/-- Before the first token there is nothing to explain. -/
theorem reads_start : Reads State.start [] where
  explains := .term .nil
  connectives_eq := rfl
  connectives_le := Nat.zero_le _
  nesting_le := Nat.zero_le _

/-! ## Filters -/

/-- Tokens are read one after the other, unless there are none. -/
theorem ofTokens_of_ne_nil {ts : List Token} (h : ts ≠ []) :
    ofTokens ts = (State.start.run ts).bind fun s => s.finish.map some :=
  if_neg fun hempty => h (List.isEmpty_iff.mp hempty)

/-- The reader takes no tokens for nothing at all, and only these. -/
theorem ofTokens_eq_none_iff {ts : List Token} : ofTokens ts = .ok none ↔ ts = [] := by
  cases ts with
  | nil => exact ⟨fun _ => rfl, fun _ => rfl⟩
  | cons t ts =>
    refine iff_of_false ?_ (List.cons_ne_nil t ts)
    have hne : ∀ r : Except FilterError Expr, r.map some ≠ .ok none := by
      rintro (e | e) <;> simp [Except.map]
    rw [ofTokens_of_ne_nil (List.cons_ne_nil t ts)]
    cases State.start.run (t :: ts) with
    | error e => simp [Except.bind]
    | ok s => exact hne s.finish

/-- A reader that has finished has read an expression, and its stack is empty. -/
theorem finish_eq_ok_iff {s : State} {e : Expr} :
    s.finish = .ok e ↔ s.stack = [] ∧ s.phase = .connective e := by
  obtain ⟨stack, phase, n⟩ := s
  cases phase with
  | term => simp [finish]
  | operator field => simp [finish]
  | literal field op => simp [finish]
  | connective e' => cases stack <;> simp [finish]

/-- An expression has tokens. -/
theorem Derives.ne_nil {ts : List Token} {e : Expr} {d : Nat} (h : Derives .expr ts e d) :
    ts ≠ [] := by
  cases h with
  | chain hterm _ => cases hterm <;> simp

/-- **Plain tokens are read as an expression exactly if they are derived within the limits.** -/
theorem ofTokens_eq_some_iff {ts : List Token} (hplain : ∀ t ∈ ts, t.IsPlain) {e : Expr} :
    ofTokens ts = .ok (some e) ↔
      ∃ d ≤ maxNesting, Derives .expr ts e d ∧ connectives ts ≤ maxConnectives := by
  constructor
  · intro h
    have hne : ts ≠ [] := by
      rintro rfl
      exact absurd h (by simp [ofTokens])
    rw [ofTokens_of_ne_nil hne] at h
    cases hrun : State.start.run ts with
    | error e' => exact absurd h (by simp [hrun, Except.bind])
    | ok s =>
      have hfinish : s.finish = .ok e := by
        cases hs : s.finish with
        | error e' => exact absurd h (by simp [hrun, hs, Except.bind, Except.map])
        | ok e' =>
          simp only [hrun, hs, Except.bind, Except.map] at h
          rw [Option.some.inj (Except.ok.inj h)]
      obtain ⟨hstack, hphase⟩ := finish_eq_ok_iff.mp hfinish
      have hreads := reads_start.run hplain hrun
      have hexplains := hreads.explains
      rw [hstack, hphase] at hexplains
      have hle := hreads.connectives_le
      rw [hreads.connectives_eq] at hle
      rw [List.nil_append] at hexplains hle
      cases hexplains with
      | connective hopened _ he hroom =>
        cases hopened
        exact ⟨_, Nat.le_trans (Nat.le_add_left _ _) hroom, he, hle⟩
  · rintro ⟨d, hd, h, hcount⟩
    have hrun : State.start.run ts = .ok ⟨[], .connective e, 0 + connectives ts⟩ :=
      h.accepts [] 0 (by simpa [nesting] using hd) (by omega) trivial
    rw [ofTokens_of_ne_nil h.ne_nil, hrun]
    rfl

/-- A text denotes an expression exactly if its tokens are derived as that expression within the
limits. -/
theorem parse_eq_some_iff {text : String} {e : Expr} :
    parse text = .ok (some e) ↔
      ∃ ts, Token.scan text.toList = .ok ts ∧
        ∃ d ≤ maxNesting, Derives .expr ts e d ∧ connectives ts ≤ maxConnectives := by
  unfold parse
  cases hscan : Token.scan text.toList with
  | error cause => simp [Except.bind]
  | ok ts =>
    have hof := ofTokens_eq_some_iff (isPlain_of_scan hscan) (e := e)
    simpa [Except.bind] using hof

/-- **Reading filters.**  A text denotes nothing exactly if it is blank.  It denotes an expression
exactly if it has tokens, these are derived from the grammar as that expression, no token stands
inside more than 128 parentheses and `not`s, and there are at most 1024 connectives.  And no row of
tokens is derived as two expressions, within these limits or beyond them. -/
theorem parse_iff_derives (text : String) :
    (parse text = .ok none ↔ ∀ c ∈ text.toList, Text.isBlank c = true) ∧
    (∀ e, parse text = .ok (some e) ↔
      ∃ ts, Token.scan text.toList = .ok ts ∧ ts ≠ [] ∧
        ∃ d ≤ 128, Derives .expr ts e d ∧ connectives ts ≤ 1024) ∧
    (∀ ts e e' d d', Derives .expr ts e d → Derives .expr ts e' d' → e = e' ∧ d = d') := by
  refine ⟨?_, fun e => ?_, fun ts e e' d d' h h' => h.unique h'⟩
  · rw [← scan_eq_nil_iff, parse]
    cases hscan : Token.scan text.toList with
    | error cause => simp [Except.bind]
    | ok ts =>
      show ofTokens ts = .ok none ↔ _
      rw [ofTokens_eq_none_iff, Except.ok.injEq]
  · rw [parse]
    cases hscan : Token.scan text.toList with
    | error cause => simp [Except.bind]
    | ok ts =>
      show ofTokens ts = .ok (some e) ↔ _
      rw [ofTokens_eq_some_iff (isPlain_of_scan hscan)]
      constructor
      · rintro ⟨d, hd, h, hcount⟩
        exact ⟨ts, rfl, h.ne_nil, d, hd, h, hcount⟩
      · rintro ⟨us, hus, -, d, hd, h, hcount⟩
        rw [Except.ok.inj hus]
        exact ⟨d, hd, h, hcount⟩

/-- A negated group is read as its grammar says, and its tokens denote nothing else. -/
theorem parse_negated_group :
    ∃ ts e, parse "not (. == 'x')" = .ok (some e) ∧ Derives .expr ts e 2 ∧
      ∀ e' d', Derives .expr ts e' d' → e' = e ∧ d' = 2 := by
  have hscan : Token.scan "not (. == 'x')".toList =
      .ok [.word "not", .opening, .word ".", .symbol .equal, .string "x", .closing] := by cbv
  have hpath : Path.parse "." = .ok [] := by cbv
  have hfield : IsField (.word ".") ⟨".", []⟩ :=
    .word (by decide) (by decide) (by decide) hpath
  have hcompare := Derives.comparison hfield (.symbol .equal) (.string "x")
  have h := hcompare.expr_of_term.group.negation.expr_of_term
  refine ⟨_, _, ?_, h, fun e' d' h' => (parse_iff_derives ".").2.2 _ _ _ _ _ h' h⟩
  exact ((parse_iff_derives _).2.1 _).mpr ⟨_, hscan, by simp, 2, by decide, h, by decide⟩

end Filter
end DocPipe
