import Mathlib.Data.List.Basic
import DocPipe.Text.Lowercase

/-!
# Lower case and surroundings

A text is put into lower case as a whole, and what becomes of a part of it depends on the parts
around it.  The dependence is narrow.  Only a capital sigma looks around at all, and all that it
asks is whether a letter comes next, on either side, among the characters that are not looked
through.

* **Cutting** (`lowerBetween_eq_iff`): a part is lowered within the whole as it is lowered alone
  exactly if every sigma in it ends its word within the part if it does in the whole.  `KeepsSigmas`
  is this condition.
* **ASCII** (`toLower_congr`): texts that differ in nothing but the case of ASCII letters have the
  same lower-case form.  The letters themselves are lowered alike, and a sigma beside them sees a
  letter with case either way.
-/

namespace DocPipe
namespace Text

/-! ## The nearest letter -/

theorem meetsCased_cons (c : Char) (cs : List Char) :
    meetsCased (c :: cs) = if isCaseIgnorable c then meetsCased cs else isCased c := by
  unfold meetsCased
  by_cases hc : isCaseIgnorable c = true
  · rw [List.dropWhile_cons_of_pos hc, if_pos hc]
  · rw [List.dropWhile_cons_of_neg hc, if_neg hc]

/-- A text that is looked through might as well not be there. -/
theorem meetsCased_append_of_forall {l : List Char} (h : ∀ c ∈ l, isCaseIgnorable c = true)
    (r : List Char) : meetsCased (l ++ r) = meetsCased r := by
  unfold meetsCased
  rw [List.dropWhile_append_of_pos h]

/-- A text that is not looked through hides what is behind it. -/
theorem meetsCased_append_of_not_forall {l : List Char}
    (h : ¬∀ c ∈ l, isCaseIgnorable c = true) (r : List Char) :
    meetsCased (l ++ r) = meetsCased l := by
  induction l with
  | nil => exact absurd (List.forall_mem_nil _) h
  | cons c l ih =>
    rw [List.cons_append, meetsCased_cons, meetsCased_cons]
    cases hc : isCaseIgnorable c with
    | false => rfl
    | true =>
      have hrest : ¬∀ d ∈ l, isCaseIgnorable d = true := by
        intro hall
        exact h (List.forall_mem_cons.mpr ⟨hc, hall⟩)
      exact ih hrest

/-- A text that is looked through has no letter with case in it. -/
theorem meetsCased_of_forall {l : List Char} (h : ∀ c ∈ l, isCaseIgnorable c = true) :
    meetsCased l = false := by
  have hnil := meetsCased_append_of_forall h []
  rwa [List.append_nil] at hnil

/-- A letter that is met is met whatever comes behind it. -/
theorem meetsCased_append_of_meetsCased {l : List Char} (h : meetsCased l = true)
    (r : List Char) : meetsCased (l ++ r) = true := by
  have hsome : ¬∀ c ∈ l, isCaseIgnorable c = true := by
    intro hall
    exact absurd (h.symm.trans (meetsCased_of_forall hall)) (by simp)
  rw [meetsCased_append_of_not_forall hsome, h]

/-! ## A text within a text -/

/-- The lower-case form of a text that stands between `before` (read backwards) and `after`. -/
def lowerBetween (before : List Char) (cs after : List Char) : List Char :=
  match cs with
  | [] => []
  | c :: rest => lowerAt before c (rest ++ after) ++ lowerBetween (c :: before) rest after

/-- Without anything behind it, a text is lowered as it is by `lowerFrom`. -/
theorem lowerBetween_nil (before cs : List Char) :
    lowerBetween before cs [] = lowerFrom before cs := by
  induction cs generalizing before with
  | nil => rfl
  | cons c rest ih =>
    rw [lowerBetween, lowerFrom, List.append_nil, ih]

/-- **The lower-case form of two texts is that of the first in front of the second, and that of the
second behind the first.** -/
theorem lowerFrom_append (before cs ds : List Char) :
    lowerFrom before (cs ++ ds) =
      lowerBetween before cs ds ++ lowerFrom (cs.reverse ++ before) ds := by
  induction cs generalizing before with
  | nil => rfl
  | cons c rest ih =>
    rw [List.cons_append, lowerFrom, ih, lowerBetween, List.append_assoc, List.reverse_cons,
      List.append_assoc]
    rfl

/-- The lower-case form of a text in three parts. -/
theorem toLower_append_append (a cs b : List Char) :
    toLower (a ++ cs ++ b) =
      lowerBetween [] a (cs ++ b) ++ lowerBetween a.reverse cs b ++
        lowerFrom (cs.reverse ++ a.reverse) b := by
  rw [toLower, List.append_assoc a, lowerFrom_append, lowerFrom_append, List.append_nil,
    List.append_assoc]

/-- How long the lower-case form of a character is does not depend on where it stands. -/
theorem length_lowerAt (before before' : List Char) (c : Char) (after after' : List Char) :
    (lowerAt before c after).length = (lowerAt before' c after').length := by
  unfold lowerAt
  split
  · rfl
  · split <;> rfl

theorem length_lowerBetween (before before' cs after after' : List Char) :
    (lowerBetween before cs after).length = (lowerBetween before' cs after').length := by
  induction cs generalizing before before' with
  | nil => rfl
  | cons c rest ih =>
    rw [lowerBetween, lowerBetween, List.length_append, List.length_append,
      length_lowerAt before before' c (rest ++ after) (rest ++ after'), ih]

/-- A text is as long in lower case wherever it stands. -/
theorem length_lowerBetween_eq (before cs after : List Char) :
    (lowerBetween before cs after).length = (toLower cs).length := by
  rw [length_lowerBetween before [] cs after [], lowerBetween_nil]
  rfl

theorem lowerAt_sigma (before after : List Char) :
    lowerAt before 'Σ' after = [if endsWord before after then 'ς' else 'σ'] := by
  rw [lowerAt, if_neg (by decide), if_pos rfl]

/-- Only a sigma looks around. -/
theorem lowerAt_of_ne_sigma {c : Char} (h : c ≠ 'Σ') (before before' after after' : List Char) :
    lowerAt before c after = lowerAt before' c after' := by
  unfold lowerAt
  rw [if_neg h, if_neg h]

theorem lowerAt_eq_iff {c : Char} {before before' after after' : List Char} :
    lowerAt before c after = lowerAt before' c after' ↔
      (c = 'Σ' → endsWord before after = endsWord before' after') := by
  by_cases hc : c = 'Σ'
  · subst hc
    rw [lowerAt_sigma, lowerAt_sigma]
    cases endsWord before after <;> cases endsWord before' after' <;> simp
  · exact ⟨fun _ hsigma => absurd hsigma hc, fun _ => lowerAt_of_ne_sigma hc ..⟩

/-- **A text has the same lower-case form in two places exactly if every sigma in it ends its word
in both or in neither.** -/
theorem lowerBetween_eq_iff {before before' cs after after' : List Char} :
    lowerBetween before cs after = lowerBetween before' cs after' ↔
      ∀ p q, cs = p ++ 'Σ' :: q →
        endsWord (p.reverse ++ before) (q ++ after) =
          endsWord (p.reverse ++ before') (q ++ after') := by
  induction cs generalizing before before' with
  | nil => exact ⟨fun _ p q h => absurd h (by simp), fun _ => rfl⟩
  | cons c rest ih =>
    have hlength := length_lowerAt before before' c (rest ++ after) (rest ++ after')
    rw [lowerBetween, lowerBetween]
    constructor
    · intro h p q heq
      obtain ⟨hhead, htail⟩ := List.append_inj h hlength
      have hfirst := lowerAt_eq_iff.mp hhead
      have hrest := ih.mp htail
      cases p with
      | nil =>
        obtain ⟨rfl, rfl⟩ := List.cons.inj heq
        exact hfirst rfl
      | cons d p =>
        obtain ⟨rfl, hsplit⟩ := List.cons.inj heq
        rw [List.reverse_cons, List.append_assoc, List.append_assoc]
        exact hrest p q hsplit
    · intro h
      have hhead : lowerAt before c (rest ++ after) = lowerAt before' c (rest ++ after') := by
        refine lowerAt_eq_iff.mpr ?_
        rintro rfl
        exact h [] rest rfl
      have htail : lowerBetween (c :: before) rest after =
          lowerBetween (c :: before') rest after' := by
        refine ih.mpr fun p q hsplit => ?_
        have hwhole := h (c :: p) q (congrArg (c :: ·) hsplit)
        rwa [List.reverse_cons, List.append_assoc, List.append_assoc] at hwhole
      rw [hhead, htail]

/-- Whether every capital sigma of `cs` ends its word within `cs` exactly if it does within the text
that has `before` in front of `cs` and `after` behind it. -/
def KeepsSigmas (before cs after : List Char) : Prop :=
  ∀ p q, cs = p ++ 'Σ' :: q →
    endsWord (p.reverse ++ before.reverse) (q ++ after) = endsWord p.reverse q

/-- **A text is lowered within a whole as it is lowered alone exactly if it keeps its sigmas
there.** -/
theorem keepsSigmas_iff {before cs after : List Char} :
    KeepsSigmas before cs after ↔ lowerBetween before.reverse cs after = toLower cs := by
  have hiff : lowerBetween before.reverse cs after = lowerBetween [] cs [] ↔
      ∀ p q, cs = p ++ 'Σ' :: q →
        endsWord (p.reverse ++ before.reverse) (q ++ after) =
          endsWord (p.reverse ++ []) (q ++ []) := lowerBetween_eq_iff
  simp only [List.append_nil] at hiff
  rw [KeepsSigmas, ← hiff, lowerBetween_nil]
  rfl

/-- A text without a capital sigma has none to change. -/
theorem keepsSigmas_of_notMem {cs : List Char} (h : 'Σ' ∉ cs) (before after : List Char) :
    KeepsSigmas before cs after := by
  rintro p q rfl
  exact absurd (List.mem_append_right p List.mem_cons_self) h

/-! ## The case of ASCII letters -/

/-- The ASCII letters by their code points. -/
theorem isAlpha_iff {c : Char} :
    c.isAlpha = true ↔ 65 ≤ c.toNat ∧ c.toNat ≤ 90 ∨ 97 ≤ c.toNat ∧ c.toNat ≤ 122 := by
  have hcapital : c.isUpper = true ↔ 65 ≤ c.toNat ∧ c.toNat ≤ 90 := decide_eq_true_iff
  have hsmall : c.isLower = true ↔ 97 ≤ c.toNat ∧ c.toNat ≤ 122 :=
    (Bool.and_eq_true_iff).trans (and_congr decide_eq_true_iff decide_eq_true_iff)
  exact (Bool.or_eq_true_iff).trans (or_congr hcapital hsmall)

theorem toNat_toLower (c : Char) :
    c.toLower.toNat = if 65 ≤ c.toNat ∧ c.toNat ≤ 90 then c.toNat + 32 else c.toNat := by
  unfold Char.toLower
  split
  · next h =>
    have hcapital : 65 ≤ c.toNat ∧ c.toNat ≤ 90 := h
    have hval : c.val.toNat ≤ 90 := h.2
    rw [if_pos hcapital]
    show (c.val + 32).toNat = c.val.toNat + 32
    rw [UInt32.toNat_add]
    show (c.val.toNat + 32) % 2 ^ 32 = c.val.toNat + 32
    omega
  · next h => exact (if_neg h).symm

/-- Characters with the same ASCII lower case are the same or are two ASCII letters. -/
theorem eq_or_isAlpha_of_toLower_eq {c d : Char} (h : c.toLower = d.toLower) :
    c = d ∨ c.isAlpha = true ∧ d.isAlpha = true := by
  have hval := congrArg Char.toNat h
  rw [toNat_toLower, toNat_toLower] at hval
  rw [isAlpha_iff, isAlpha_iff, ← Char.toNat_inj]
  split at hval <;> split at hval <;> omega

theorem inRanges_eq_false {ranges : Array (Nat × Nat)} {c : Char}
    (h : ∀ r ∈ ranges.toList, c.toNat < r.1 ∨ r.2 < c.toNat) : inRanges ranges c = false := by
  refine Array.any_eq_false'.mpr fun r hr => ?_
  have hout := h r (Array.mem_toList_iff.mpr hr)
  simp
  omega

theorem inRanges_of_mem {ranges : Array (Nat × Nat)} {c : Char} {r : Nat × Nat}
    (hr : r ∈ ranges.toList) (h : r.1 ≤ c.toNat ∧ c.toNat ≤ r.2) : inRanges ranges c = true := by
  unfold inRanges
  rw [← Array.any_toList, List.any_eq_true]
  exact ⟨r, hr, by simp [h]⟩

/-- An ASCII letter is not looked through. -/
theorem isCaseIgnorable_of_isAlpha {c : Char} (h : c.isAlpha = true) :
    isCaseIgnorable c = false := by
  -- the circumflex and the grave accent stand between the capitals and the small letters
  have hranges : ∀ r ∈ caseIgnorableRanges.toList,
      r.2 < 65 ∨ 122 < r.1 ∨ 90 < r.1 ∧ r.2 < 97 := by decide +kernel
  have hletter := isAlpha_iff.mp h
  refine inRanges_eq_false fun r hr => ?_
  rcases hranges r hr with hlow | hhigh | hbetween <;> omega

/-- An ASCII letter has case. -/
theorem isCased_of_isAlpha {c : Char} (h : c.isAlpha = true) : isCased c = true := by
  have hupper : (65, 90) ∈ casedRanges.toList := by decide +kernel
  have hlower : (97, 122) ∈ casedRanges.toList := by decide +kernel
  rcases isAlpha_iff.mp h with hletter | hletter
  · exact inRanges_of_mem hupper hletter
  · exact inRanges_of_mem hlower hletter

theorem meetsCased_of_isAlpha {c : Char} (h : c.isAlpha = true) (cs : List Char) :
    meetsCased (c :: cs) = true := by
  rw [meetsCased_cons, isCaseIgnorable_of_isAlpha h, isCased_of_isAlpha h]
  rfl

/-- An ASCII letter in lower case, within any text. -/
theorem lowerBetween_of_isAlpha {c : Char} (h : c.isAlpha = true) (before after : List Char) :
    lowerBetween before [c] after = [c.toLower] := by
  have hascii := isAlpha_iff.mp h
  rw [lowerBetween, lowerAt_ascii (by omega)]
  rfl

/-- **A text that keeps its sigmas beside a single letter, on either side, keeps them anywhere.**
The worst that can happen to a sigma is that a letter comes to stand next to it. -/
theorem keepsSigmas_of_letters {cs : List Char} {x y : Char} (hx : x.isAlpha = true)
    (hy : y.isAlpha = true) (hafter : KeepsSigmas [] cs [x]) (hbefore : KeepsSigmas [y] cs [])
    (before after : List Char) : KeepsSigmas before cs after := by
  intro p q hsplit
  have hright := hafter p q hsplit
  have hleft := hbefore p q hsplit
  simp only [List.reverse_nil, List.append_nil, List.reverse_singleton] at hright hleft
  unfold endsWord at hright hleft ⊢
  by_cases hp : ∀ c ∈ p.reverse, isCaseIgnorable c = true
  · rw [meetsCased_append_of_forall hp, meetsCased_of_isAlpha hy, meetsCased_of_forall hp,
      Bool.true_and, Bool.false_and, Bool.not_eq_false'] at hleft
    rw [meetsCased_append_of_meetsCased hleft, meetsCased_of_forall hp, Bool.not_true,
      Bool.and_false, Bool.false_and]
  · rw [meetsCased_append_of_not_forall hp]
    by_cases hq : ∀ c ∈ q, isCaseIgnorable c = true
    · rw [meetsCased_append_of_forall hq, meetsCased_of_isAlpha hx, meetsCased_of_forall hq,
        Bool.not_true, Bool.and_false, Bool.not_false, Bool.and_true] at hright
      rw [← hright, Bool.false_and, Bool.false_and]
    · rw [meetsCased_append_of_not_forall hq]

/-- An ASCII text without capitals is its own lower-case form. -/
theorem lowerFrom_ascii {cs : List Char} (h : ∀ c ∈ cs, c.toNat < 0x80 ∧ c.toLower = c)
    (before : List Char) : lowerFrom before cs = cs := by
  induction cs generalizing before with
  | nil => rfl
  | cons c cs ih =>
    obtain ⟨⟨hascii, hsmall⟩, hcs⟩ := List.forall_mem_cons.mp h
    rw [lowerFrom, lowerAt_ascii hascii, hsmall, ih hcs, List.singleton_append]

/-- Whether two texts differ in nothing but the case of ASCII letters. -/
def SameLetters (s t : List Char) : Prop := s.map Char.toLower = t.map Char.toLower

theorem sameLetters_cons_iff {c d : Char} {s t : List Char} :
    SameLetters (c :: s) (d :: t) ↔ c.toLower = d.toLower ∧ SameLetters s t := by
  unfold SameLetters
  rw [List.map_cons, List.map_cons, List.cons.injEq]

/-- The nearest letter is one with case, whatever its case is. -/
theorem meetsCased_congr {s t : List Char} (h : SameLetters s t) :
    meetsCased s = meetsCased t := by
  induction s generalizing t with
  | nil =>
    rw [List.map_eq_nil_iff.mp h.symm]
  | cons c s ih =>
    cases t with
    | nil => exact absurd h (by simp [SameLetters])
    | cons d t =>
      obtain ⟨hhead, htail⟩ := sameLetters_cons_iff.mp h
      rw [meetsCased_cons, meetsCased_cons, ih htail]
      rcases eq_or_isAlpha_of_toLower_eq hhead with rfl | ⟨hc, hd⟩
      · rfl
      · rw [isCaseIgnorable_of_isAlpha hc, isCaseIgnorable_of_isAlpha hd, isCased_of_isAlpha hc,
          isCased_of_isAlpha hd]

/-- A character is lowered alike in surroundings that are alike. -/
theorem lowerAt_congr {before before' after after' : List Char} {c d : Char}
    (hbefore : SameLetters before before') (hc : c.toLower = d.toLower)
    (hafter : SameLetters after after') : lowerAt before c after = lowerAt before' d after' := by
  have hends : endsWord before after = endsWord before' after' := by
    unfold endsWord
    rw [meetsCased_congr hbefore, meetsCased_congr hafter]
  rcases eq_or_isAlpha_of_toLower_eq hc with rfl | ⟨hcletter, hdletter⟩
  · exact lowerAt_eq_iff.mpr fun _ => hends
  · have hcascii := isAlpha_iff.mp hcletter
    have hdascii := isAlpha_iff.mp hdletter
    rw [lowerAt_ascii (by omega), lowerAt_ascii (by omega), hc]

theorem lowerFrom_congr {before before' cs ds : List Char}
    (hbefore : SameLetters before before') (h : SameLetters cs ds) :
    lowerFrom before cs = lowerFrom before' ds := by
  induction cs generalizing before before' ds with
  | nil =>
    rw [List.map_eq_nil_iff.mp h.symm]
    rfl
  | cons c cs ih =>
    cases ds with
    | nil => exact absurd h (by simp [SameLetters])
    | cons d ds =>
      obtain ⟨hhead, htail⟩ := sameLetters_cons_iff.mp h
      rw [lowerFrom, lowerFrom, lowerAt_congr hbefore hhead htail,
        ih (sameLetters_cons_iff.mpr ⟨hhead, hbefore⟩) htail]

/-- **The case of ASCII letters does not show in the lower-case form.** -/
theorem toLower_congr {s t : List Char} (h : SameLetters s t) : toLower s = toLower t :=
  lowerFrom_congr rfl h

end Text
end DocPipe
