import Mathlib.Data.List.DropRight
import DocPipe.Proofs.Text.Runs
import DocPipe.Text.Blank

/-!
# What trimming leaves

`Text.trim` is two passes over a text, one from either end.  What they leave can be said without
them: it is the text that neither begins nor ends with a blank, and that the whole text is with
nothing but blanks around it.  There is exactly one such text (`trim_eq_iff`).

Trimming two texts that are joined trims the first in front and the second behind, and nothing at
the seam, as long as neither of them is blank there (`trim_append_append`).
-/

namespace DocPipe
namespace Text

/-- Whether a text has no blank at either end. -/
structure IsTrimmed (cs : List Char) : Prop where
  first : ∀ c ∈ cs.head?, isBlank c = false
  last : ∀ c ∈ cs.getLast?, isBlank c = false

/-- Blanks in front of a text that does not begin with one are what `trimStart` drops. -/
theorem trimStart_append {l cs : List Char} (hl : ∀ c ∈ l, isBlank c = true)
    (hcs : ∀ c ∈ cs.head?, isBlank c = false) : trimStart (l ++ cs) = cs :=
  dropWhile_append_of_forall hl hcs

/-- Blanks behind a text that does not end with one are what `trimEnd` drops. -/
theorem trimEnd_append {cs r : List Char} (hr : ∀ c ∈ r, isBlank c = true)
    (hcs : ∀ c ∈ cs.getLast?, isBlank c = false) : trimEnd (cs ++ r) = cs := by
  have hreversed : trimStart (r.reverse ++ cs.reverse) = cs.reverse := by
    refine trimStart_append (fun c hc => hr c (List.mem_reverse.mp hc)) ?_
    rwa [List.head?_reverse]
  rw [trimEnd, List.reverse_append]
  exact List.reverse_eq_iff.mpr hreversed

/-- What is left of blanks around a text that has none at its ends is that text. -/
theorem trim_append {l cs r : List Char} (hl : ∀ c ∈ l, isBlank c = true)
    (hr : ∀ c ∈ r, isBlank c = true) (hcs : IsTrimmed cs) : trim (l ++ (cs ++ r)) = cs := by
  cases cs with
  | nil =>
    have hblank : ∀ c ∈ l ++ r, isBlank c = true := by
      intro c hc
      rcases List.mem_append.mp hc with hc | hc
      · exact hl c hc
      · exact hr c hc
    rw [List.nil_append, trim, trimStart, List.dropWhile_eq_nil_iff.mpr hblank]
    rfl
  | cons c cs =>
    have hstart : trimStart (l ++ (c :: cs ++ r)) = c :: cs ++ r := trimStart_append hl hcs.first
    rw [trim, hstart, trimEnd_append hr hcs.last]

/-- A text is the run of blanks in front of it, what is left of it, and blanks. -/
theorem exists_eq_takeWhile_append_trim (cs : List Char) :
    ∃ r, (∀ c ∈ r, isBlank c = true) ∧ cs = cs.takeWhile isBlank ++ (trim cs ++ r) := by
  refine ⟨(trimStart cs).rtakeWhile isBlank, fun c hc => List.mem_rtakeWhile_imp hc, ?_⟩
  have hend : trim cs ++ (trimStart cs).rtakeWhile isBlank = trimStart cs :=
    List.rdropWhile_append_rtakeWhile
  rw [hend]
  exact List.takeWhile_append_dropWhile.symm

/-- A text is what is left of it with blanks around. -/
theorem exists_eq_append_trim (cs : List Char) :
    ∃ l r, (∀ c ∈ l, isBlank c = true) ∧ (∀ c ∈ r, isBlank c = true) ∧
      cs = l ++ (trim cs ++ r) := by
  obtain ⟨r, hr, hcs⟩ := exists_eq_takeWhile_append_trim cs
  exact ⟨cs.takeWhile isBlank, r, fun c hc => List.mem_takeWhile_imp hc, hr, hcs⟩

/-- What is left has no blank at its ends. -/
theorem isTrimmed_trim (cs : List Char) : IsTrimmed (trim cs) := by
  constructor
  · -- the second pass leaves the beginning of what the first has left
    intro c hc
    obtain ⟨r, hr⟩ : trim cs <+: trimStart cs := List.rdropWhile_prefix isBlank _
    have hstart : (trimStart cs).head? = some c := by
      rw [← hr, List.head?_append, hc]
      rfl
    have hnot := List.head?_dropWhile_not isBlank cs
    rw [← trimStart, hstart] at hnot
    exact hnot
  · intro c hc
    have hnot := List.head?_dropWhile_not isBlank (trimStart cs).reverse
    rw [trim, trimEnd, List.getLast?_reverse] at hc
    rw [hc] at hnot
    exact hnot

/-- **What trimming leaves is the only text without blanks at its ends that the whole is with blanks
around it.** -/
theorem trim_eq_iff {cs core : List Char} :
    trim cs = core ↔ IsTrimmed core ∧ ∃ l r, (∀ c ∈ l, isBlank c = true) ∧
      (∀ c ∈ r, isBlank c = true) ∧ cs = l ++ (core ++ r) := by
  constructor
  · rintro rfl
    exact ⟨isTrimmed_trim cs, exists_eq_append_trim cs⟩
  · rintro ⟨hcore, l, r, hl, hr, rfl⟩
    exact trim_append hl hr hcore

/-! ## Texts that are joined -/

/-- Nothing is trimmed behind a text that does not end with a blank. -/
theorem exists_eq_append_trim_of_last {cs : List Char}
    (hlast : ∀ c ∈ cs.getLast?, isBlank c = false) :
    ∃ l, (∀ c ∈ l, isBlank c = true) ∧ cs = l ++ trim cs := by
  obtain ⟨l, r, hl, hr, hcs⟩ := exists_eq_append_trim cs
  rcases List.eq_nil_or_concat' r with rfl | ⟨r, c, rfl⟩
  · rw [List.append_nil] at hcs
    exact ⟨l, hl, hcs⟩
  · have hc : cs.getLast? = some c := by
      rw [hcs, ← List.append_assoc, ← List.append_assoc, List.getLast?_concat]
    have hblank := hr c (by simp)
    rw [hlast c hc] at hblank
    exact absurd hblank (by simp)

/-- Nothing is trimmed in front of a text that does not begin with a blank. -/
theorem exists_eq_trim_append_of_first {cs : List Char}
    (hfirst : ∀ c ∈ cs.head?, isBlank c = false) :
    ∃ r, (∀ c ∈ r, isBlank c = true) ∧ cs = trim cs ++ r := by
  obtain ⟨l, r, hl, hr, hcs⟩ := exists_eq_append_trim cs
  cases l with
  | nil => exact ⟨r, hr, hcs⟩
  | cons c l =>
    have hblank := hl c List.mem_cons_self
    rw [hfirst c (by rw [hcs]; rfl)] at hblank
    exact absurd hblank (by simp)

/-- Trimming keeps the beginning of a text that does not begin with a blank. -/
theorem head?_trim_of_first {cs : List Char} (hfirst : ∀ c ∈ cs.head?, isBlank c = false) :
    (trim cs).head? = cs.head? := by
  obtain ⟨r, hr, hcs⟩ := exists_eq_trim_append_of_first hfirst
  cases htrim : trim cs with
  | cons d rest => rw [hcs, htrim, List.cons_append, List.head?_cons, List.head?_cons]
  | nil =>
    rw [htrim, List.nil_append] at hcs
    cases cs with
    | nil => rfl
    | cons d rest =>
      have hblank := hr d (by rw [← hcs]; exact List.mem_cons_self)
      rw [hfirst d rfl] at hblank
      exact absurd hblank (by simp)

/-- **Joining two texts that are not blank where they meet, trimming commutes with it.** -/
theorem trim_append_append {p q : List Char} (hlast : ∀ c ∈ p.getLast?, isBlank c = false)
    (hfirst : ∀ c ∈ q.head?, isBlank c = false) (hp : trim p ≠ []) (hq : trim q ≠ [])
    (between : List Char) : trim (p ++ (between ++ q)) = trim p ++ (between ++ trim q) := by
  obtain ⟨l, hl, hpl⟩ := exists_eq_append_trim_of_last hlast
  obtain ⟨r, hr, hqr⟩ := exists_eq_trim_append_of_first hfirst
  have hcore : IsTrimmed (trim p ++ (between ++ trim q)) := by
    constructor
    · intro c hc
      rw [List.head?_append_of_ne_nil _ hp] at hc
      exact (isTrimmed_trim p).first c hc
    · intro c hc
      rw [← List.append_assoc, List.getLast?_append_of_ne_nil _ hq] at hc
      exact (isTrimmed_trim q).last c hc
  refine trim_eq_iff.mpr ⟨hcore, l, r, hl, hr, ?_⟩
  calc p ++ (between ++ q)
      = (l ++ trim p) ++ (between ++ (trim q ++ r)) := by rw [← hpl, ← hqr]
    _ = l ++ (trim p ++ (between ++ trim q) ++ r) := by simp only [List.append_assoc]

end Text
end DocPipe
