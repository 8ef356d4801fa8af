import DocPipe.Proofs.Json.Inversion
import DocPipe.Proofs.Text.Runs

/-!
# Numbers inside a JSON text

A number has no closing mark: it ends where the next character cannot belong to it.  In a list or an
object that character is a comma or a bracket, so a number is read there as it would be read alone.

`Frames` says this of a reader of numbers: it leaves alone what it does not read, and a text behind
at which numbers stop changes nothing.  The readers hand over to one another, and there is one lemma
for each of them, from the exponent outwards.
-/

namespace DocPipe

namespace Json

/-! ## Reading in front of other text -/

/-- Whether a number cannot go on into a text. -/
def NumberStops : List Char → Prop
  | [] => True
  | c :: _ => c.isDigit = false ∧ c ≠ '.' ∧ c ≠ 'e' ∧ c ≠ 'E'

variable {tail : List Char}

/-- Collecting digits stops where numbers stop. -/
theorem collect_append (hstop : NumberStops tail) (bound acc : Nat) (cs : List Char) :
    collect bound acc (cs ++ tail) =
      ((collect bound acc cs).1, (collect bound acc cs).2 ++ tail) := by
  induction cs generalizing acc with
  | nil =>
    cases tail with
    | nil => rfl
    | cons c tail =>
      have hend : collect bound acc (c :: tail) = (acc, c :: tail) := if_neg (by simp [hstop.1])
      rw [List.nil_append, hend]
      rfl
  | cons c cs ih =>
    rw [List.cons_append, collect, collect]
    by_cases h : c.isDigit = true ∧ 10 * acc + digitValue c ≤ bound
    · rw [if_pos h, if_pos h, ih]
    · rw [if_neg h, if_neg h]
      rfl

theorem collect_suffix (bound acc : Nat) (cs : List Char) : (collect bound acc cs).2 <:+ cs := by
  induction cs generalizing acc with
  | nil => exact List.suffix_refl _
  | cons c cs ih =>
    rw [collect]
    split
    · exact (ih _).trans (List.suffix_cons c cs)
    · exact List.suffix_refl _

theorem startsWithDigit_append (hstop : NumberStops tail) (cs : List Char) :
    startsWithDigit (cs ++ tail) = startsWithDigit cs := by
  cases cs with
  | cons c cs => rfl
  | nil =>
    cases tail with
    | nil => rfl
    | cons c tail => exact hstop.1

theorem dropWhile_isDigit_append (hstop : NumberStops tail) (cs : List Char) :
    (cs ++ tail).dropWhile Char.isDigit = cs.dropWhile Char.isDigit ++ tail := by
  refine Text.dropWhile_append ?_ cs
  cases tail with
  | nil => exact fun c hc => absurd hc (by simp)
  | cons d tail => exact fun c hc => Option.some.inj hc ▸ hstop.1

/-- Whether a reader leaves the end of its text alone, and reads the same in front of any text at
which numbers stop. -/
def Frames (reader : List Char → Step Number) : Prop :=
  ∀ cs n rest, reader cs = .ok (n, rest) →
    rest <:+ cs ∧ ∀ tail, NumberStops tail → reader (cs ++ tail) = .ok (n, rest ++ tail)

/-- A character in front that is skipped changes nothing. -/
theorem Frames.behind {reader : List Char → Step Number} (hreader : Frames reader) (c : Char)
    {cs rest : List Char} {n : Number} (h : reader cs = .ok (n, rest)) :
    rest <:+ c :: cs ∧ ∀ tail, NumberStops tail → reader (cs ++ tail) = .ok (n, rest ++ tail) :=
  ⟨(hreader cs n rest h).1.trans (List.suffix_cons c cs), (hreader cs n rest h).2⟩

theorem frames_fractional (positive : Bool) (significand : Nat) (exponent : Int) :
    Frames (fractional positive significand exponent) := by
  intro cs n rest h
  rw [fractional] at h
  split at h
  · rename_i x hx
    simp only [Except.ok.injEq, Prod.mk.injEq] at h
    obtain ⟨rfl, rfl⟩ := h
    refine ⟨List.suffix_refl _, fun tail _ => ?_⟩
    rw [fractional, hx]
  · simp [refuse] at h

/-- What follows the sign of an exponent. -/
def readPower (positive : Bool) (significand : Nat) (shift : Int) (negativePower : Bool)
    (cs : List Char) : Step Number :=
  match cs with
  | [] => refuse .endInValue [] 0
  | c :: _ =>
    if c.isDigit then
      let (power, rest) := collect largestExponent 0 cs
      if startsWithDigit rest then
        if significand ≠ 0 ∧ !negativePower then refuse .numberTooLarge rest 1
        else .ok (.float (.zero !positive), rest.dropWhile Char.isDigit)
      else
        fractional positive significand
          (if negativePower then shift - power else shift + power) rest
    else refuse .badNumber cs 1

theorem readExponent_unsigned (positive : Bool) (significand : Nat) (shift : Int) {c : Char}
    (hplus : c ≠ '+') (hminus : c ≠ '-') (cs : List Char) :
    readExponent positive significand shift (c :: cs) =
      readPower positive significand shift false (c :: cs) := by
  rw [readExponent]
  · rfl
  · exact fun _ heq => hplus (List.cons.inj heq).1
  · exact fun _ heq => hminus (List.cons.inj heq).1

theorem frames_readPower (positive : Bool) (significand : Nat) (shift : Int)
    (negativePower : Bool) : Frames (readPower positive significand shift negativePower) := by
  intro cs n rest h
  cases cs with
  | nil => simp [readPower, refuse] at h
  | cons c cs =>
    rw [readPower] at h
    by_cases hdigit : c.isDigit = true
    · rw [if_pos hdigit] at h
      simp only at h
      have hsuffix := collect_suffix largestExponent 0 (c :: cs)
      have happend : ∀ tail, NumberStops tail →
          collect largestExponent 0 (c :: (cs ++ tail)) =
            ((collect largestExponent 0 (c :: cs)).1,
              (collect largestExponent 0 (c :: cs)).2 ++ tail) :=
        fun tail hstop => collect_append hstop largestExponent 0 (c :: cs)
      generalize collect largestExponent 0 (c :: cs) = collected at h hsuffix happend
      by_cases hlong : startsWithDigit collected.2 = true
      · rw [if_pos hlong] at h
        by_cases hlarge : significand ≠ 0 ∧ (!negativePower) = true
        · rw [if_pos hlarge] at h
          simp [refuse] at h
        · rw [if_neg hlarge] at h
          simp only [Except.ok.injEq, Prod.mk.injEq] at h
          obtain ⟨rfl, rfl⟩ := h
          refine ⟨(List.dropWhile_suffix _).trans hsuffix, fun tail hstop => ?_⟩
          rw [List.cons_append, readPower, if_pos hdigit, happend tail hstop]
          simp only
          rw [startsWithDigit_append hstop, if_pos hlong, if_neg hlarge,
            dropWhile_isDigit_append hstop]
      · rw [if_neg hlong] at h
        obtain ⟨hrest, hframe⟩ := frames_fractional _ _ _ _ _ _ h
        refine ⟨hrest.trans hsuffix, fun tail hstop => ?_⟩
        rw [List.cons_append, readPower, if_pos hdigit, happend tail hstop]
        simp only
        rw [startsWithDigit_append hstop, if_neg hlong]
        exact hframe tail hstop
    · rw [if_neg hdigit] at h
      simp [refuse] at h

theorem frames_readExponent (positive : Bool) (significand : Nat) (shift : Int) :
    Frames (readExponent positive significand shift) := by
  intro cs n rest h
  have hpower := frames_readPower positive significand shift
  cases cs with
  | nil => simp [readExponent, refuse] at h
  | cons c cs =>
    by_cases hplus : c = '+'
    · subst hplus
      exact (hpower false).behind '+' h
    by_cases hminus : c = '-'
    · subst hminus
      exact (hpower true).behind '-' h
    · rw [readExponent_unsigned _ _ _ hplus hminus] at h
      obtain ⟨hrest, hframe⟩ := hpower _ _ _ _ h
      refine ⟨hrest, fun tail hstop => ?_⟩
      rw [List.cons_append, readExponent_unsigned _ _ _ hplus hminus]
      exact hframe tail hstop

theorem readTail_of_ne (positive : Bool) (significand : Nat) (shift : Int) {cs : List Char}
    (he : ∀ rest, cs ≠ 'e' :: rest) (hE : ∀ rest, cs ≠ 'E' :: rest) :
    readTail positive significand shift cs = fractional positive significand shift cs := by
  rw [readTail]
  · exact he
  · exact hE

/-- A text at which numbers stop does not begin with the mark of an exponent. -/
theorem NumberStops.ne_exponent {tail : List Char} (h : NumberStops tail) (rest : List Char) :
    tail ≠ 'e' :: rest ∧ tail ≠ 'E' :: rest := by
  constructor
  · rintro rfl
    exact h.2.2.1 rfl
  · rintro rfl
    exact h.2.2.2 rfl

theorem frames_readTail (positive : Bool) (significand : Nat) (shift : Int) :
    Frames (readTail positive significand shift) := by
  intro cs n rest h
  have hexponent := frames_readExponent positive significand shift
  cases cs with
  | nil =>
    rw [readTail_of_ne _ _ _ (by simp) (by simp)] at h
    obtain ⟨hrest, hframe⟩ := frames_fractional _ _ _ _ _ _ h
    refine ⟨hrest, fun tail hstop => ?_⟩
    rw [List.nil_append, readTail_of_ne _ _ _ (fun r => (hstop.ne_exponent r).1)
      (fun r => (hstop.ne_exponent r).2)]
    exact hframe tail hstop
  | cons c cs =>
    by_cases he : c = 'e'
    · subst he
      exact hexponent.behind 'e' h
    by_cases hE : c = 'E'
    · subst hE
      exact hexponent.behind 'E' h
    · have hne : ∀ (behind r : List Char), c :: behind ≠ 'e' :: r ∧ c :: behind ≠ 'E' :: r :=
        fun _ _ => ⟨fun heq => he (List.cons.inj heq).1, fun heq => hE (List.cons.inj heq).1⟩
      rw [readTail_of_ne _ _ _ (fun r => (hne cs r).1) (fun r => (hne cs r).2)] at h
      obtain ⟨hrest, hframe⟩ := frames_fractional _ _ _ _ _ _ h
      refine ⟨hrest, fun tail hstop => ?_⟩
      rw [List.cons_append, readTail_of_ne _ _ _ (fun r => (hne _ r).1) (fun r => (hne _ r).2)]
      exact hframe tail hstop

theorem frames_readFraction (positive : Bool) (significand : Nat) (shift : Int) :
    Frames (readFraction positive significand shift) := by
  intro cs n rest h
  rw [readFraction.eq_def] at h
  by_cases hdigit : startsWithDigit cs = true
  · rw [if_pos hdigit] at h
    simp only at h
    obtain ⟨hrest, hframe⟩ := frames_readTail _ _ _ _ _ _ h
    refine ⟨hrest.trans ((List.dropWhile_suffix _).trans (collect_suffix _ _ _)),
      fun tail hstop => ?_⟩
    rw [readFraction.eq_def, startsWithDigit_append hstop, if_pos hdigit, collect_append hstop]
    simp only
    rw [dropWhile_isDigit_append hstop, List.length_append, List.length_append,
      Nat.add_sub_add_right]
    exact hframe tail hstop
  · rw [if_neg hdigit] at h
    split at h <;> simp [refuse] at h

theorem readLong_of_ne (positive : Bool) (significand : Nat) {cs : List Char}
    (hpoint : ∀ rest, cs.dropWhile Char.isDigit ≠ '.' :: rest) :
    readLong positive significand cs =
      readTail positive significand (cs.length - (cs.dropWhile Char.isDigit).length : Nat)
        (cs.dropWhile Char.isDigit) := by
  rw [readLong.eq_def]
  simp only

theorem frames_readLong (positive : Bool) (significand : Nat) :
    Frames (readLong positive significand) := by
  intro cs n rest h
  have hsuffix : cs.dropWhile Char.isDigit <:+ cs := List.dropWhile_suffix _
  by_cases hpoint : ∃ behind, cs.dropWhile Char.isDigit = '.' :: behind
  · obtain ⟨behind, hbehind⟩ := hpoint
    rw [readLong.eq_def] at h
    simp only [hbehind] at h
    obtain ⟨hrest, hframe⟩ := frames_readFraction _ _ _ _ _ _ h
    refine ⟨hrest.trans ((List.suffix_cons _ _).trans (hbehind ▸ hsuffix)), fun tail hstop => ?_⟩
    rw [readLong.eq_def]
    simp only [dropWhile_isDigit_append hstop, hbehind, List.cons_append, List.length_append,
      List.length_cons]
    rw [show cs.length + tail.length - (behind.length + tail.length + 1) =
      cs.length - (behind.length + 1) by omega]
    exact hframe tail hstop
  · have hne : ∀ behind, cs.dropWhile Char.isDigit ≠ '.' :: behind :=
      fun behind heq => hpoint ⟨behind, heq⟩
    rw [readLong_of_ne _ _ hne] at h
    obtain ⟨hrest, hframe⟩ := frames_readTail _ _ _ _ _ _ h
    refine ⟨hrest.trans hsuffix, fun tail hstop => ?_⟩
    have hne' : ∀ behind, (cs ++ tail).dropWhile Char.isDigit ≠ '.' :: behind := by
      intro behind heq
      rw [dropWhile_isDigit_append hstop] at heq
      cases hdrop : cs.dropWhile Char.isDigit with
      | nil =>
        rw [hdrop, List.nil_append] at heq
        rw [heq] at hstop
        exact hstop.2.1 rfl
      | cons c behind' =>
        rw [hdrop, List.cons_append] at heq
        exact hne behind' (by rw [hdrop, (List.cons.inj heq).1])
    rw [readLong_of_ne _ _ hne', dropWhile_isDigit_append hstop, List.length_append,
      List.length_append, Nat.add_sub_add_right]
    exact hframe tail hstop

/-- Whether what follows a whole part belongs to the number. -/
def GoesOn (cs : List Char) : Prop :=
  ∃ c rest, cs = c :: rest ∧ (c = '.' ∨ c = 'e' ∨ c = 'E')

theorem NumberStops.not_goesOn {tail : List Char} (h : NumberStops tail) : ¬GoesOn tail := by
  rintro ⟨c, rest, rfl, rfl | rfl | rfl⟩
  · exact h.2.1 rfl
  · exact h.2.2.1 rfl
  · exact h.2.2.2 rfl

theorem readAfterWhole_of_not_goesOn (positive : Bool) (n : Nat) {cs : List Char}
    (h : ¬GoesOn cs) : readAfterWhole positive n cs = .ok (whole positive n, cs) := by
  rw [readAfterWhole]
  · exact fun rest heq => h ⟨_, rest, heq, Or.inl rfl⟩
  · exact fun rest heq => h ⟨_, rest, heq, Or.inr (Or.inl rfl)⟩
  · exact fun rest heq => h ⟨_, rest, heq, Or.inr (Or.inr rfl)⟩

theorem frames_readAfterWhole (positive : Bool) (n : Nat) : Frames (readAfterWhole positive n) := by
  intro cs m rest h
  by_cases hgoes : GoesOn cs
  · obtain ⟨c, behind, rfl, rfl | rfl | rfl⟩ := hgoes
    · exact (frames_readFraction positive n 0).behind '.' h
    · exact (frames_readExponent positive n 0).behind 'e' h
    · exact (frames_readExponent positive n 0).behind 'E' h
  · rw [readAfterWhole_of_not_goesOn positive n hgoes] at h
    simp only [Except.ok.injEq, Prod.mk.injEq] at h
    obtain ⟨rfl, rfl⟩ := h
    refine ⟨List.suffix_refl _, fun tail hstop => readAfterWhole_of_not_goesOn positive n ?_⟩
    cases cs with
    | nil => exact hstop.not_goesOn
    | cons c cs =>
      rintro ⟨d, rest, heq, hd⟩
      exact hgoes ⟨c, cs, rfl, (List.cons.inj heq).1 ▸ hd⟩

/-- A whole part that does not begin with a zero is read digit by digit. -/
theorem readNumber_of_ne (positive : Bool) {c : Char} (hzero : c ≠ '0') (cs : List Char) :
    readNumber positive (c :: cs) =
      if c.isDigit then
        if startsWithDigit (collect largestWord 0 (c :: cs)).2 then
          readLong positive (collect largestWord 0 (c :: cs)).1
            (collect largestWord 0 (c :: cs)).2
        else
          readAfterWhole positive (collect largestWord 0 (c :: cs)).1
            (collect largestWord 0 (c :: cs)).2
      else refuse .badNumber (c :: cs) 1 := by
  rw [readNumber]
  exact hzero

/-- **A number is read the same in front of any text at which numbers stop.** -/
theorem frames_readNumber (positive : Bool) : Frames (readNumber positive) := by
  intro cs n rest h
  cases cs with
  | nil => simp [readNumber, refuse] at h
  | cons c cs =>
    by_cases hzero : c = '0'
    · subst hzero
      rw [readNumber] at h
      by_cases hdigit : startsWithDigit cs = true
      · rw [if_pos hdigit] at h
        simp [refuse] at h
      · rw [if_neg hdigit] at h
        obtain ⟨hrest, hframe⟩ := frames_readAfterWhole _ _ _ _ _ h
        refine ⟨hrest.trans (List.suffix_cons _ _), fun tail hstop => ?_⟩
        rw [List.cons_append, readNumber, startsWithDigit_append hstop, if_neg hdigit]
        exact hframe tail hstop
    · rw [readNumber_of_ne positive hzero] at h
      by_cases hdigit : c.isDigit = true
      · rw [if_pos hdigit] at h
        have hsuffix := collect_suffix largestWord 0 (c :: cs)
        have happend : ∀ tail, NumberStops tail →
            collect largestWord 0 (c :: (cs ++ tail)) =
              ((collect largestWord 0 (c :: cs)).1, (collect largestWord 0 (c :: cs)).2 ++ tail) :=
          fun tail hstop => collect_append hstop largestWord 0 (c :: cs)
        by_cases hlong : startsWithDigit (collect largestWord 0 (c :: cs)).2 = true
        · rw [if_pos hlong] at h
          obtain ⟨hrest, hframe⟩ := frames_readLong _ _ _ _ _ h
          refine ⟨hrest.trans hsuffix, fun tail hstop => ?_⟩
          rw [List.cons_append, readNumber_of_ne positive hzero, if_pos hdigit,
            happend tail hstop, startsWithDigit_append hstop, if_pos hlong]
          exact hframe tail hstop
        · rw [if_neg hlong] at h
          obtain ⟨hrest, hframe⟩ := frames_readAfterWhole _ _ _ _ _ h
          refine ⟨hrest.trans hsuffix, fun tail hstop => ?_⟩
          rw [List.cons_append, readNumber_of_ne positive hzero, if_pos hdigit,
            happend tail hstop, startsWithDigit_append hstop, if_neg hlong]
          exact hframe tail hstop
      · rw [if_neg hdigit] at h
        simp [refuse] at h

end Json
end DocPipe
