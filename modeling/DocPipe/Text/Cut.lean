/-!
# Cutting a text at a mark

Brackets and placeholders end at the first closing mark.  `cut?` finds it and gives what stands
before and behind; `cutPair?` does the same for a mark of two equal characters.  Each comes with the
lemma that says what it finds, which is all that anyone needs to know about it.
-/

namespace DocPipe
namespace Text

/-- What stands before and behind the first `mark`. -/
def cut? (mark : Char) : List Char → Option (List Char × List Char)
  | [] => none
  | c :: cs => if c = mark then some ([], cs) else (cut? mark cs).map fun p => (c :: p.1, p.2)

/-- What stands before and behind the first two neighbouring `mark`s. -/
def cutPair? (mark : Char) : List Char → Option (List Char × List Char)
  | c :: d :: cs =>
    if c = mark ∧ d = mark then some ([], cs)
    else (cutPair? mark (d :: cs)).map fun p => (c :: p.1, p.2)
  | _ => none

/-- The cut is at the first mark, and loses nothing but it. -/
theorem cut?_eq_some_iff {mark : Char} {cs before after : List Char} :
    cut? mark cs = some (before, after) ↔ cs = before ++ mark :: after ∧ mark ∉ before := by
  induction cs generalizing before with
  | nil => simp [cut?]
  | cons c cs ih =>
    by_cases h : c = mark
    · subst h
      simp only [cut?, if_true, Option.some.injEq, Prod.mk.injEq]
      constructor
      · rintro ⟨rfl, rfl⟩; simp
      · rintro ⟨he, hn⟩
        cases before with
        | nil => simpa using he
        | cons b bs => simp at he; simp [he.1] at hn
    · simp only [cut?, h, if_false, Option.map_eq_some_iff, Prod.exists, Prod.mk.injEq]
      constructor
      · rintro ⟨a, b, hab, rfl, rfl⟩
        obtain ⟨rfl, hn⟩ := ih.1 hab
        simp [hn, Ne.symm h]
      · rintro ⟨he, hn⟩
        cases before with
        | nil => simp at he; exact absurd he.1 h
        | cons b bs =>
          simp only [List.cons_append, List.cons.injEq] at he
          obtain ⟨rfl, rfl⟩ := he
          exact ⟨bs, after, ih.2 ⟨rfl, fun hm => hn (List.mem_cons_of_mem _ hm)⟩, rfl, rfl⟩

/-- What stands behind a cut is shorter than the text. -/
theorem length_lt_of_cut? {mark : Char} {cs before after : List Char}
    (h : cut? mark cs = some (before, after)) : after.length < cs.length := by
  obtain ⟨rfl, -⟩ := cut?_eq_some_iff.1 h
  simp; omega

/-- A cut at a pair loses nothing but the pair. -/
theorem eq_append_of_cutPair? {mark : Char} {cs before after : List Char}
    (h : cutPair? mark cs = some (before, after)) : cs = before ++ mark :: mark :: after := by
  induction cs generalizing before with
  | nil => simp [cutPair?] at h
  | cons c cs ih =>
    cases cs with
    | nil => simp [cutPair?] at h
    | cons d cs =>
      by_cases hm : c = mark ∧ d = mark
      · obtain ⟨rfl, rfl⟩ := hm
        simp [cutPair?] at h
        simp [h.1.symm, h.2]
      · simp only [cutPair?, hm, if_false, Option.map_eq_some_iff, Prod.exists,
          Prod.mk.injEq] at h
        obtain ⟨a, b, hab, rfl, rfl⟩ := h
        rw [ih hab]
        rfl

/-- What stands behind a cut at a pair is shorter than the text by at least the pair. -/
theorem length_lt_of_cutPair? {mark : Char} {cs before after : List Char}
    (h : cutPair? mark cs = some (before, after)) : after.length + 1 < cs.length := by
  rw [eq_append_of_cutPair? h]
  simp; omega

end Text
end DocPipe
