import Mathlib.Data.List.Chain
import DocPipe.Text.Cut

/-!
# The first pair of marks

`Text.cutPair?` looks for two neighbouring marks from the left.  What it finds can be said without
the search: of all the ways to cut the text at such a pair it is the one with the least in front,
and it finds nothing only if there is no way.  Everything about placeholders is proved from these
two statements.

`NoPair` says the same of a text as a whole, as a condition on neighbours.  So it can be checked for
a text that is put together from parts, with one condition for each seam (`noPair_append_iff`).
-/

namespace DocPipe
namespace Text

/-- Every pair of marks that a text has stands no further left than the cut. -/
theorem length_le_of_cutPair? {mark : Char} {cs before after b a : List Char}
    (h : cutPair? mark cs = some (before, after)) (hcs : cs = b ++ mark :: mark :: a) :
    before.length ≤ b.length := by
  induction cs generalizing before after b with
  | nil => exact absurd h (by simp [cutPair?])
  | cons c cs ih =>
    cases cs with
    | nil => exact absurd h (by simp [cutPair?])
    | cons d cs =>
      by_cases hmark : c = mark ∧ d = mark
      · rw [cutPair?, if_pos hmark] at h
        rw [← (Prod.mk.inj (Option.some.inj h)).1]
        exact Nat.zero_le _
      · rw [cutPair?, if_neg hmark] at h
        obtain ⟨p, hp, hcut⟩ := Option.map_eq_some_iff.mp h
        rw [← (Prod.mk.inj hcut).1]
        cases b with
        | nil =>
          obtain ⟨hc, hrest⟩ := List.cons.inj hcs
          exact absurd ⟨hc, (List.cons.inj hrest).1⟩ hmark
        | cons x b =>
          exact Nat.succ_le_succ (ih hp (List.cons.inj hcs).2)

/-- **There is no cut exactly if there is no pair.** -/
theorem cutPair?_eq_none_iff {mark : Char} {cs : List Char} :
    cutPair? mark cs = none ↔ ∀ b a, cs ≠ b ++ mark :: mark :: a := by
  constructor
  · intro h b a hcs
    subst hcs
    induction b with
    | nil => exact absurd h (by simp [cutPair?])
    | cons c b ih =>
      -- behind the first character there is at least the pair
      obtain ⟨d, cs, hd⟩ : ∃ d cs, b ++ mark :: mark :: a = d :: cs := by
        cases b with
        | nil => exact ⟨_, _, rfl⟩
        | cons x b => exact ⟨_, _, rfl⟩
      rw [List.cons_append, hd, cutPair?] at h
      split at h
      · exact absurd h (by simp)
      · rw [← hd] at h
        exact ih (Option.map_eq_none_iff.mp h)
  · intro h
    cases hcut : cutPair? mark cs with
    | none => rfl
    | some p => exact absurd (eq_append_of_cutPair? hcut) (h p.1 p.2)

/-- **The cut is the one with the least in front.** -/
theorem cutPair?_eq_some_iff {mark : Char} {cs before after : List Char} :
    cutPair? mark cs = some (before, after) ↔
      cs = before ++ mark :: mark :: after ∧
        ∀ b a, cs = b ++ mark :: mark :: a → before.length ≤ b.length := by
  refine ⟨fun h => ⟨eq_append_of_cutPair? h, fun b a => length_le_of_cutPair? h⟩, ?_⟩
  rintro ⟨hcs, hleast⟩
  cases hcut : cutPair? mark cs with
  | none => exact absurd hcs (cutPair?_eq_none_iff.mp hcut before after)
  | some p =>
    have hp := eq_append_of_cutPair? hcut
    have hlength : p.1.length = before.length :=
      Nat.le_antisymm (length_le_of_cutPair? hcut hcs) (hleast p.1 p.2 hp)
    obtain ⟨hbefore, hafter⟩ := List.append_inj (hp.symm.trans hcs) hlength
    have hafter' := (List.cons.inj (List.cons.inj hafter).2).2
    rw [← hbefore, ← hafter']

/-! ## Texts without a pair -/

/-- Whether no two neighbouring characters of a text are both the mark. -/
def NoPair (mark : Char) (cs : List Char) : Prop := cs.IsChain fun c d => ¬(c = mark ∧ d = mark)

instance decidableNoPair (mark : Char) : DecidablePred (NoPair mark) := fun cs =>
  inferInstanceAs (Decidable (cs.IsChain fun c d => ¬(c = mark ∧ d = mark)))

theorem noPair_iff {mark : Char} {cs : List Char} :
    NoPair mark cs ↔ ∀ b a, cs ≠ b ++ mark :: mark :: a := by
  rw [NoPair, List.isChain_iff_forall_rel_of_append_cons_cons]
  constructor
  · intro h b a hcs
    exact h hcs ⟨rfl, rfl⟩
  · rintro h c d b a hcs ⟨rfl, rfl⟩
    exact h b a hcs

/-- **Two texts that are joined have no pair exactly if neither has one and none stands across the
seam.** -/
theorem noPair_append_iff {mark : Char} {cs ds : List Char} :
    NoPair mark (cs ++ ds) ↔ NoPair mark cs ∧ NoPair mark ds ∧
      ¬(cs.getLast? = some mark ∧ ds.head? = some mark) := by
  have hseam : (∀ c ∈ cs.getLast?, ∀ d ∈ ds.head?, ¬(c = mark ∧ d = mark)) ↔
      ¬(cs.getLast? = some mark ∧ ds.head? = some mark) := by
    constructor
    · rintro h ⟨hlast, hfirst⟩
      exact h mark hlast mark hfirst ⟨rfl, rfl⟩
    · rintro h c hc d hd ⟨rfl, rfl⟩
      exact h ⟨hc, hd⟩
  rw [NoPair, List.isChain_append, hseam]
  exact Iff.rfl

/-- Up to the first mark of a pair there is no other pair, so the pair is the first one. -/
theorem NoPair.length_le {mark : Char} {before after b a : List Char}
    (h : NoPair mark (before ++ [mark]))
    (heq : before ++ mark :: mark :: after = b ++ mark :: mark :: a) :
    before.length ≤ b.length := by
  by_contra hlt
  have hprefix : b ++ [mark, mark] <+: before ++ [mark] := by
    have hshort : (b ++ [mark, mark]).length ≤ (before ++ [mark]).length := by
      simp only [List.length_append, List.length_cons, List.length_nil]
      omega
    have hleft : b ++ [mark, mark] <+: before ++ mark :: mark :: after :=
      ⟨a, by rw [heq, List.append_assoc]; rfl⟩
    have hright : before ++ [mark] <+: before ++ mark :: mark :: after :=
      ⟨mark :: after, by rw [List.append_assoc]; rfl⟩
    exact List.prefix_of_prefix_length_le hleft hright hshort
  obtain ⟨x, hx⟩ := hprefix
  rw [List.append_assoc] at hx
  exact noPair_iff.mp h b x hx.symm

end Text
end DocPipe
