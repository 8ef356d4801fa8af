import DocPipe.Proofs.Filter.Lexemes
import DocPipe.Proofs.Filter.Reading

/-!
# Filters that are wrong and filters that are unfinished

A filter that is being typed is refused most of the time, and it matters why.  This file shows that
the error tells: whether what has been typed cannot be the beginning of any filter, or whether
something is still missing at its end.

## Errors inside

An error that a token causes is an error of every text that goes on behind a blank, since the reader
takes the tokens one after the other and does not look ahead (`run_append_of_error`).  The same
holds of a symbol that there is none of, but not of a string that is still open: what is appended
may close it.

## Errors at the end

Where all tokens have been taken, the reader can always be led to the end of a filter.
`State.completion` says how: what is missing of the comparison, with the field, the operator and
the literal that are shortest, and a closing parenthesis for each one that is open.  None of these
nests or connects anything, so neither limit is in the way.  `completion_step` is the step of this,
and `exists_finish_completion` the run.

An unbalanced parenthesis is the one error of both kinds, and the two cannot be told apart from the
error alone.  A parenthesis too many stays one; a parenthesis too few can be supplied.
-/

namespace DocPipe
namespace Filter

open State

/-- Whether an error is about what is there, and not about what is missing. -/
def FilterError.isDecided : FilterError → Bool
  | .unexpectedToken _ _ | .unknownOperator _ | .invalidPath _ | .tooDeep | .tooLong => true
  | .unterminatedString | .unexpectedEnd _ | .unbalancedParen => false

/-! ## Where errors come from -/

/-- Where a term begins, every error is about the token. -/
theorem isDecided_of_stepTerm {s : State} {t : Token} {e : FilterError}
    (h : s.stepTerm t = .error e) : e.isDecided = true := by
  have hpush : ∀ frame, s.push frame = .error e → e.isDecided = true := by
    intro frame hframe
    unfold push at hframe
    split at hframe
    · exact absurd hframe (by simp)
    · rw [← Except.error.inj hframe]
      rfl
  cases t with
  | opening => exact hpush .group h
  | word w =>
    simp only [stepTerm] at h
    split at h
    · exact hpush .not h
    · split at h
      · rw [← Except.error.inj h]
        rfl
      · split at h
        · exact absurd h (by simp)
        · rw [← Except.error.inj h]
          rfl
  | _ =>
    rw [← Except.error.inj h]
    rfl

/-- Behind a field, every error is about the token. -/
theorem isDecided_of_stepOperator {s : State} {field : Field} {t : Token} {e : FilterError}
    (h : s.stepOperator field t = .error e) : e.isDecided = true := by
  cases t with
  | symbol => exact absurd h (by simp [stepOperator])
  | word w =>
    simp only [stepOperator] at h
    split at h
    · exact absurd h (by simp)
    · rw [← Except.error.inj h]
      rfl
  | _ =>
    rw [← Except.error.inj h]
    rfl

/-- Behind a term, a parenthesis may be one too many. -/
theorem isDecided_of_stepConnective {s : State} {left : Expr} {t : Token} {e : FilterError}
    (h : s.stepConnective left t = .error e) : e.isDecided = true ∨ e = .unbalancedParen := by
  unfold stepConnective at h
  split at h
  · unfold joinWith at h
    split at h
    · exact absurd h (by simp)
    · rw [← Except.error.inj h]
      exact .inl rfl
  · unfold stepClosing at h
    split at h
    · exact absurd h (by simp)
    · rw [← Except.error.inj h]
      exact .inl rfl
    · exact .inr (Except.error.inj h).symm
    · rw [← Except.error.inj h]
      exact .inl rfl

/-- **A token that cannot be taken decides the error, unless it is a parenthesis too many.** -/
theorem isDecided_of_step {s : State} {t : Token} {e : FilterError} (h : s.step t = .error e) :
    e.isDecided = true ∨ e = .unbalancedParen := by
  unfold step at h
  split at h
  · exact .inl (isDecided_of_stepTerm h)
  · exact .inl (isDecided_of_stepOperator h)
  · unfold stepLiteral at h
    split at h
    · exact absurd h (by simp)
    · rw [← Except.error.inj h]
      exact .inl rfl
  · exact isDecided_of_stepConnective h

/-- A run ends in an error at one of its tokens. -/
theorem isDecided_of_run {s : State} {ts : List Token} {e : FilterError}
    (h : s.run ts = .error e) : e.isDecided = true ∨ e = .unbalancedParen := by
  induction ts generalizing s with
  | nil => exact absurd h (by simp)
  | cons t ts ih =>
    rw [run_cons] at h
    cases hstep : s.step t with
    | error e' =>
      rw [hstep] at h
      rw [← Except.error.inj h]
      exact isDecided_of_step hstep
    | ok s' =>
      rw [hstep] at h
      exact ih h

/-- A text that ends too early is an error of its own, unless only parentheses are missing. -/
theorem unexpectedEnd_of_finish {s : State} {e : FilterError} (h : s.finish = .error e) :
    (∃ expected, e = .unexpectedEnd expected) ∨ e = .unbalancedParen := by
  obtain ⟨stack, phase, n⟩ := s
  cases phase with
  | term => exact .inl ⟨.field, (Except.error.inj h).symm⟩
  | operator field => exact .inl ⟨.operator, (Except.error.inj h).symm⟩
  | literal field op => exact .inl ⟨.literal, (Except.error.inj h).symm⟩
  | connective e' =>
    cases stack with
    | nil => exact absurd h (by simp [finish])
    | cons frame stack => exact .inr (Except.error.inj h).symm

/-- **No token behind an error makes a difference.** -/
theorem run_append_of_error {s : State} {ts : List Token} {e : FilterError}
    (h : s.run ts = .error e) (us : List Token) : s.run (ts ++ us) = .error e := by
  rw [run_append, h]
  rfl

/-- A refused text has no tokens, or one of them cannot be taken, or it ends too early. -/
inductive Refuses (text : String) (e : FilterError) : Prop where
  | scan (h : Token.scan text.toList = .error e)
  | run {ts : List Token} (hscan : Token.scan text.toList = .ok ts)
      (hrun : State.start.run ts = .error e)
  | finish {ts : List Token} {s : State} (hscan : Token.scan text.toList = .ok ts)
      (hrun : State.start.run ts = .ok s) (hfinish : s.finish = .error e)

theorem refuses_of_parse {text : String} {e : FilterError} (h : parse text = .error e) :
    Refuses text e := by
  unfold parse at h
  cases hscan : Token.scan text.toList with
  | error e' =>
    rw [hscan] at h
    rw [← Except.error.inj h]
    exact .scan hscan
  | ok ts =>
    rw [hscan] at h
    have hof : ofTokens ts = .error e := h
    have hne : ts ≠ [] := by
      rintro rfl
      exact absurd hof (by simp [ofTokens])
    rw [ofTokens_of_ne_nil hne] at hof
    cases hrun : State.start.run ts with
    | error e' =>
      rw [hrun] at hof
      rw [← Except.error.inj hof]
      exact .run hscan hrun
    | ok s =>
      rw [hrun] at hof
      cases hfinish : s.finish with
      | error e' =>
        simp only [Except.bind, hfinish, Except.map] at hof
        rw [← Except.error.inj hof]
        exact .finish hscan hrun hfinish
      | ok e' => exact absurd hof (by simp [Except.bind, hfinish, Except.map])

/-! ## Finishing a filter -/

/-- The tokens of a comparison that a reader in some phase still waits for: the shortest that there
are. -/
def Phase.missing : Phase → List Token
  | .term => [.word ".", .symbol .equal, .word "null"]
  | .operator _ => [.symbol .equal, .word "null"]
  | .literal _ _ => [.word "null"]
  | .connective _ => []

/-- How many parentheses of a stack are open. -/
def openGroups (stack : List Frame) : Nat := stack.count .group

/-- Tokens that finish what has been read. -/
def State.completion (s : State) : List Token :=
  s.phase.missing ++ List.replicate (openGroups s.stack) .closing

/-- A term closes no parenthesis. -/
theorem openGroups_complete (stack : List Frame) (e : Expr) :
    openGroups (State.complete stack e).1 = openGroups stack := by
  fun_induction State.complete stack e with
  | case1 stack e ih => exact ih.trans (List.count_cons_of_ne (by simp)).symm
  | case2 stack lhs c e => exact (List.count_cons_of_ne (by simp)).symm
  | case3 => rfl

theorem completion_afterTerm (stack : List Frame) (e : Expr) (n : Nat) :
    (afterTerm stack e n).completion = List.replicate (openGroups stack) .closing := by
  unfold State.completion afterTerm
  rw [openGroups_complete]
  rfl

/-- The whole item is a field. -/
theorem isField_whole : IsField (.word ".") ⟨".", []⟩ :=
  .word (by decide) (by decide) (by decide) (by cbv)

/-- **Unless there is nothing left to finish, the reader takes the first token that finishes it, and
the others are those that finish what it reads then.** -/
theorem completion_step {s : State} {ts : List Token} (h : Reads s ts) :
    (s.completion = [] ∧ ∃ e, s.finish = .ok e) ∨
      ∃ t s', Moves s t s' ∧ s.completion = t :: s'.completion := by
  obtain ⟨stack, phase, n⟩ := s
  cases phase with
  | term => exact .inr ⟨_, _, .field isField_whole, rfl⟩
  | operator field => exact .inr ⟨_, _, .operator (.symbol .equal), rfl⟩
  | literal field op =>
    refine .inr ⟨_, _, .literal .null, ?_⟩
    rw [completion_afterTerm]
    rfl
  | connective e =>
    -- what is on top of the stack is a parenthesis, since nothing else waits for an expression
    have hbase : IsBase stack := by
      cases h.explains with
      | connective _ hbase => exact hbase
    cases stack with
    | nil => exact .inl ⟨rfl, e, rfl⟩
    | cons frame stack =>
      cases frame with
      | group =>
        refine .inr ⟨_, _, .closing, ?_⟩
        rw [completion_afterTerm]
        unfold State.completion openGroups
        rw [List.count_cons_self, List.replicate_succ]
        rfl
      | not => exact hbase.elim
      | left l c => exact hbase.elim

/-- **Whatever has been read can be finished.** -/
theorem exists_finish_completion {s : State} {ts : List Token} (h : Reads s ts) :
    ∃ s' e, s.run s.completion = .ok s' ∧ s'.finish = .ok e := by
  generalize hus : s.completion = us
  induction us generalizing s ts with
  | nil =>
    rcases completion_step h with ⟨-, e, hfinish⟩ | ⟨t, s', -, hcons⟩
    · exact ⟨s, e, rfl, hfinish⟩
    · exact absurd (hus.symm.trans hcons) (by simp)
  | cons t us ih =>
    rcases completion_step h with ⟨hnil, -⟩ | ⟨t', s', hmove, hcons⟩
    · exact absurd (hus.symm.trans hnil) (by simp)
    · obtain ⟨rfl, htail⟩ := List.cons.inj (hus.symm.trans hcons)
      rw [run_cons_of_moves hmove]
      exact ih (h.move hmove) htail.symm

/-- The tokens that finish a filter are tokens of a text. -/
theorem isPlain_completion (s : State) : ∀ t ∈ s.completion, t.IsPlain := by
  have hmissing : ∀ t ∈ s.phase.missing, t.IsPlain := by
    cases s.phase <;> simp only [Phase.missing] <;> decide
  have hclosing : ∀ t ∈ List.replicate (openGroups s.stack) Token.closing, t.IsPlain := by
    intro t ht
    rw [List.eq_of_mem_replicate ht]
    trivial
  exact List.forall_mem_append.mpr ⟨hmissing, hclosing⟩

/-! ## What is appended to a text -/

/-- A text with another behind it, and a blank between them. -/
theorem toList_append_blank (text more : String) :
    (text ++ " " ++ more).toList = text.toList ++ ' ' :: more.toList := by
  simp

/-- An error of the tokens remains, whatever is appended. -/
theorem parse_append_of_scan_error {text : String} {e : FilterError}
    (h : Token.scan text.toList = .error e) (hclosed : e ≠ .unterminatedString) (more : String) :
    parse (text ++ " " ++ more) = .error e := by
  have hall := ((Token.scan_append_of_error h).resolve_left hclosed).2
  unfold parse
  rw [toList_append_blank, hall _ (Token.separates_blank (by decide) more.toList)]
  rfl

/-- Where tokens are appended, the tokens of both texts are read. -/
theorem parse_append_of_scan {text more : String} {ts us : List Token}
    (h : Token.scan text.toList = .ok ts) (h' : Token.scan more.toList = .ok us) :
    parse (text ++ " " ++ more) = ofTokens (ts ++ us) := by
  unfold parse
  rw [toList_append_blank, Token.scan_append_blank h h']
  rfl

/-- An error of the reader remains, whatever tokens are appended. -/
theorem parse_append_of_run_error {text more : String} {ts us : List Token} {e : FilterError}
    (h : Token.scan text.toList = .ok ts) (hrun : State.start.run ts = .error e)
    (h' : Token.scan more.toList = .ok us) : parse (text ++ " " ++ more) = .error e := by
  have hne : ts ++ us ≠ [] := by
    intro hnil
    obtain ⟨rfl, -⟩ := List.append_eq_nil_iff.mp hnil
    exact absurd hrun (by simp)
  rw [parse_append_of_scan h h', ofTokens_of_ne_nil hne, run_append_of_error hrun us]
  rfl

/-- **Every text whose tokens the reader can take is the beginning of a filter.** -/
theorem exists_parse_append {text : String} {ts : List Token} {s : State}
    (h : Token.scan text.toList = .ok ts) (hrun : State.start.run ts = .ok s) :
    ∃ more e, parse (text ++ " " ++ more) = .ok (some e) := by
  obtain ⟨s', e, hcompletion, hfinish⟩ :=
    exists_finish_completion (reads_start.run (isPlain_of_scan h) hrun)
  obtain ⟨row, hrow, hspaced⟩ := exists_isSpaced (isPlain_completion s)
  have hmore : Token.scan (String.ofList (textOf row [])).toList = .ok s.completion := by
    rw [String.toList_ofList, (scan_textOf_iff row (by simp)).mpr hspaced, hrow]
  refine ⟨String.ofList (textOf row []), e, ?_⟩
  have hne : ts ++ s.completion ≠ [] := by
    intro hnil
    obtain ⟨rfl, hcompletion⟩ := List.append_eq_nil_iff.mp hnil
    obtain rfl := Except.ok.inj hrun
    exact absurd hcompletion (by decide)
  rw [parse_append_of_scan h hmore, ofTokens_of_ne_nil hne, run_append_of_run hrun, hcompletion]
  simp [Except.bind, hfinish, Except.map]

/-- **The error of a refused filter tells whether it is wrong or unfinished.**  An error about what
is there remains, with all that it says, in front of whatever has tokens.  A filter that ends too
early can be finished.  And a filter with unbalanced parentheses either can be finished, or has
unbalanced parentheses in front of whatever has tokens. -/
theorem parse_append_of_error {text : String} {e : FilterError} (h : parse text = .error e) :
    (e.isDecided = true → ∀ more us, Token.scan more.toList = .ok us →
      parse (text ++ " " ++ more) = .error e) ∧
    (∀ expected, e = .unexpectedEnd expected →
      ∃ more expr, parse (text ++ " " ++ more) = .ok (some expr)) ∧
    (e = .unbalancedParen → (∃ more expr, parse (text ++ " " ++ more) = .ok (some expr)) ∨
      ∀ more us, Token.scan more.toList = .ok us →
        parse (text ++ " " ++ more) = .error .unbalancedParen) := by
  cases refuses_of_parse h with
  | scan hscan =>
    -- an error of the tokens is about an open string or about a symbol
    rcases Token.scan_append_of_error hscan with rfl | ⟨⟨w, rfl⟩, -⟩
    · exact ⟨by simp [FilterError.isDecided], by simp, by simp⟩
    · exact ⟨fun _ more us _ => parse_append_of_scan_error hscan (by simp) more, by simp, by simp⟩
  | run hscan hrun =>
    have hremains : ∀ more us, Token.scan more.toList = .ok us →
        parse (text ++ " " ++ more) = .error e :=
      fun more us hmore => parse_append_of_run_error hscan hrun hmore
    refine ⟨fun _ => hremains, ?_, ?_⟩
    · rintro expected rfl
      rcases isDecided_of_run hrun with hdecided | hparen
      · exact absurd hdecided (by simp [FilterError.isDecided])
      · exact absurd hparen (by simp)
    · rintro rfl
      exact .inr hremains
  | finish hscan hrun hfinish =>
    have hfinished := exists_parse_append hscan hrun
    refine ⟨fun hdecided => ?_, fun _ _ => hfinished, fun _ => .inl hfinished⟩
    rcases unexpectedEnd_of_finish hfinish with ⟨expected, rfl⟩ | rfl
    · exact absurd hdecided (by simp [FilterError.isDecided])
    · exact absurd hdecided (by simp [FilterError.isDecided])

/-- No comparison behind it makes up for a literal that was left out, a comparison that breaks off
can be finished, and a closing parenthesis that nothing has opened is one of the two kinds. -/
theorem parse_append_of_error_incomplete :
    parse ". == or . != null" = .error (.unexpectedToken .literal (.word "or")) ∧
    (∃ more expr, parse ("not (. ==" ++ " " ++ more) = .ok (some expr)) ∧
    ((∃ more expr, parse (". == null)" ++ " " ++ more) = .ok (some expr)) ∨
      ∀ more us, Token.scan more.toList = .ok us →
        parse (". == null)" ++ " " ++ more) = .error .unbalancedParen) := by
  have htoken : parse ". == or" = .error (.unexpectedToken .literal (.word "or")) := by decide +kernel
  have hliteral : parse "not (. ==" = .error (.unexpectedEnd .literal) := by cbv
  have hparen : parse ". == null)" = .error .unbalancedParen := by cbv
  have hmore : Token.scan ". != null".toList =
      .ok [.word ".", .symbol .notEqual, .word "null"] := by cbv
  exact ⟨(parse_append_of_error htoken).1 rfl ". != null" _ hmore,
    (parse_append_of_error hliteral).2.1 _ rfl, (parse_append_of_error hparen).2.2 rfl⟩

end Filter
end DocPipe
