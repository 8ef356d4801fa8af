import DocPipe.Proofs.Filter.Grammar
import DocPipe.Proofs.Filter.Tokens

/-!
# The moves of the reader

One token moves the reader from one state to the next, or ends it with an error.  `Moves` lists the
seven moves that are no errors, each with the state it begins in and what it demands of the token,
and `step_eq_ok_iff` says that there are no others.  What is proved about the reader from here on
goes by the moves and does not look at `State.step` again.
-/

namespace DocPipe
namespace Filter

open State

/-- The reader goes from one state to another on a token. -/
inductive Moves : State → Token → State → Prop where
  | negation {stack : List Frame} {n : Nat} (hroom : nesting stack < maxNesting) :
      Moves ⟨stack, .term, n⟩ (.word "not") ⟨.not :: stack, .term, n⟩
  | opening {stack : List Frame} {n : Nat} (hroom : nesting stack < maxNesting) :
      Moves ⟨stack, .term, n⟩ .opening ⟨.group :: stack, .term, n⟩
  | field {stack : List Frame} {n : Nat} {t : Token} {field : Field} (h : IsField t field) :
      Moves ⟨stack, .term, n⟩ t ⟨stack, .operator field, n⟩
  | operator {stack : List Frame} {n : Nat} {t : Token} {field : Field} {op : Operator}
      (h : IsOperator t op) :
      Moves ⟨stack, .operator field, n⟩ t ⟨stack, .literal field op, n⟩
  | literal {stack : List Frame} {n : Nat} {t : Token} {field : Field} {op : Operator}
      {literal : Literal} (h : IsLiteral t literal) :
      Moves ⟨stack, .literal field op, n⟩ t (afterTerm stack (.compare field op literal) n)
  | connective {stack : List Frame} {n : Nat} {e : Expr} (c : Connective)
      (hroom : n < maxConnectives) :
      Moves ⟨stack, .connective e, n⟩ (.word c.spelling) ⟨.left e c :: stack, .term, n + 1⟩
  | closing {stack : List Frame} {n : Nat} {e : Expr} :
      Moves ⟨.group :: stack, .connective e, n⟩ .closing (afterTerm stack e n)

/-! ## Every move is a step -/

theorem connective?_spelling (c : Connective) : connective? (.word c.spelling) = some c := by
  cases c <;> rfl

theorem step_of_moves {s s' : State} {t : Token} (h : Moves s t s') : s.step t = .ok s' := by
  cases h with
  | negation hroom => exact if_pos hroom
  | opening hroom => exact if_pos hroom
  | field h =>
    obtain ⟨hand, hor, hnot, hpath⟩ := h
    simp [step, stepTerm, isKeyword, hand, hor, hnot, hpath]
  | operator h =>
    rcases h.spelled with ⟨s, rfl, rfl⟩ | ⟨w, rfl, hw⟩
    · rfl
    · simp only [step, stepOperator, hw]
  | literal h => simp only [step, stepLiteral, isLiteral_iff.mp h]
  | connective c hroom =>
    simp only [step, stepConnective, connective?_spelling]
    exact if_pos hroom
  | closing => rfl

/-! ## Every step is a move -/

theorem moves_of_stepTerm {stack : List Frame} {n : Nat} {t : Token} {s' : State}
    (h : stepTerm ⟨stack, .term, n⟩ t = .ok s') : Moves ⟨stack, .term, n⟩ t s' := by
  cases t with
  | opening =>
    simp only [stepTerm, push] at h
    split at h
    · next hroom =>
      rw [← Except.ok.inj h]
      exact .opening hroom
    · exact absurd h (by simp)
  | word w =>
    simp only [stepTerm] at h
    split at h
    · next hnot =>
      simp only [push] at h
      split at h
      · next hroom =>
        rw [hnot, ← Except.ok.inj h]
        exact .negation hroom
      · exact absurd h (by simp)
    · next hnot =>
      split at h
      · exact absurd h (by simp)
      · next hkeyword =>
        simp only [isKeyword, Bool.or_eq_true, beq_iff_eq, not_or] at hkeyword
        split at h
        · next path hpath =>
          rw [← Except.ok.inj h]
          exact .field (.word hkeyword.1.1 hkeyword.1.2 hnot hpath)
        · exact absurd h (by simp)
  | string s => exact absurd h (by simp [stepTerm])
  | symbol s => exact absurd h (by simp [stepTerm])
  | closing => exact absurd h (by simp [stepTerm])

/-- A text that is looked up as an operator spells it. -/
theorem eq_spelling_of_ofSpelling? {w : String} {op : Operator}
    (h : Operator.ofSpelling? w = some op) : w = op.spelling := by
  unfold Operator.ofSpelling? at h
  repeat
    split at h
    · next hw => rw [hw, ← Option.some.inj h]; rfl
  exact absurd h (by simp)

/-- A plain word that spells an operator is one of the three operators that are words: the
characters of the symbols do not occur in words. -/
theorem isOperator_of_ofSpelling? {w : String} {op : Operator} (hw : (Token.word w).IsPlain)
    (h : Operator.ofSpelling? w = some op) : IsOperator (.word w) op := by
  have hspell := eq_spelling_of_ofSpelling? h
  subst hspell
  cases op with
  | symbol s =>
    have hall := List.all_eq_true.mpr hw.2
    cases s <;> exact absurd hall (by decide)
  | contains => exact .contains
  | startsWith => exact .startsWith
  | endsWith => exact .endsWith

theorem moves_of_stepOperator {stack : List Frame} {n : Nat} {field : Field} {t : Token}
    {s' : State} (ht : t.IsPlain) (h : stepOperator ⟨stack, .operator field, n⟩ field t = .ok s') :
    Moves ⟨stack, .operator field, n⟩ t s' := by
  cases t with
  | symbol s =>
    rw [← Except.ok.inj h]
    exact .operator (.symbol s)
  | word w =>
    simp only [stepOperator] at h
    split at h
    · next op hop =>
      rw [← Except.ok.inj h]
      exact .operator (isOperator_of_ofSpelling? ht hop)
    · exact absurd h (by simp)
  | string s => exact absurd h (by simp [stepOperator])
  | opening => exact absurd h (by simp [stepOperator])
  | closing => exact absurd h (by simp [stepOperator])

/-- A token that is a connective spells it. -/
theorem eq_spelling_of_connective? {t : Token} {c : Connective} (h : connective? t = some c) :
    t = .word c.spelling := by
  cases t with
  | word w =>
    simp only [connective?] at h
    split at h
    · next hw => rw [hw, ← Option.some.inj h]; rfl
    · split at h
      · next hw => rw [hw, ← Option.some.inj h]; rfl
      · exact absurd h (by simp)
  | string s => exact absurd h (by simp [connective?])
  | symbol s => exact absurd h (by simp [connective?])
  | opening => exact absurd h (by simp [connective?])
  | closing => exact absurd h (by simp [connective?])

theorem moves_of_stepConnective {stack : List Frame} {n : Nat} {e : Expr} {t : Token} {s' : State}
    (h : stepConnective ⟨stack, .connective e, n⟩ e t = .ok s') :
    Moves ⟨stack, .connective e, n⟩ t s' := by
  simp only [stepConnective] at h
  split at h
  · next c hc =>
    simp only [joinWith] at h
    split at h
    · next hroom =>
      rw [eq_spelling_of_connective? hc, ← Except.ok.inj h]
      exact .connective c hroom
    · exact absurd h (by simp)
  · simp only [stepClosing] at h
    split at h
    · rw [← Except.ok.inj h]
      exact .closing
    · exact absurd h (by simp)
    · exact absurd h (by simp)
    · exact absurd h (by simp)

/-- **The moves are the steps that are no errors.** -/
theorem step_eq_ok_iff {s s' : State} {t : Token} (ht : t.IsPlain) :
    s.step t = .ok s' ↔ Moves s t s' := by
  refine ⟨fun h => ?_, step_of_moves⟩
  obtain ⟨stack, phase, n⟩ := s
  cases phase with
  | term => exact moves_of_stepTerm h
  | operator field => exact moves_of_stepOperator ht h
  | literal field op =>
    simp only [step, stepLiteral] at h
    split at h
    · next literal hliteral =>
      rw [← Except.ok.inj h]
      exact .literal (isLiteral_iff.mpr hliteral)
    · exact absurd h (by simp)
  | connective e => exact moves_of_stepConnective h

end Filter
end DocPipe
