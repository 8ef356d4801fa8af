import Mathlib.Data.List.TakeWhile

/-!
# Where a run of characters ends

Names, words, rows of digits and blanks are all read in the same way: as far as the characters are
of one kind.  So where a run ends does not depend on what comes behind a text, unless that goes on
with the run; and a text that is one run is read to its end.
-/

namespace DocPipe
namespace Text

variable {kind : Char → Bool} {cs tail : List Char}

/-- A run ends where it does without the text behind it, if that does not go on with it. -/
theorem takeWhile_append (htail : ∀ c ∈ tail.head?, kind c = false) (cs : List Char) :
    (cs ++ tail).takeWhile kind = cs.takeWhile kind := by
  induction cs with
  | nil =>
    cases tail with
    | nil => rfl
    | cons c tail => exact List.takeWhile_cons_of_neg (by simp [htail c rfl])
  | cons c cs ih => rw [List.cons_append, List.takeWhile_cons, List.takeWhile_cons, ih]

theorem dropWhile_append (htail : ∀ c ∈ tail.head?, kind c = false) (cs : List Char) :
    (cs ++ tail).dropWhile kind = cs.dropWhile kind ++ tail := by
  induction cs with
  | nil =>
    cases tail with
    | nil => rfl
    | cons c tail => exact List.dropWhile_cons_of_neg (by simp [htail c rfl])
  | cons c cs ih =>
    rw [List.cons_append, List.dropWhile_cons, List.dropWhile_cons, ih]
    cases kind c <;> rfl

/-- A text that is a run is read to its end, and what is behind it is left. -/
theorem takeWhile_append_of_forall (hcs : ∀ c ∈ cs, kind c = true)
    (htail : ∀ c ∈ tail.head?, kind c = false) : (cs ++ tail).takeWhile kind = cs := by
  rw [takeWhile_append htail, List.takeWhile_eq_self_iff.mpr hcs]

theorem dropWhile_append_of_forall (hcs : ∀ c ∈ cs, kind c = true)
    (htail : ∀ c ∈ tail.head?, kind c = false) : (cs ++ tail).dropWhile kind = tail := by
  rw [dropWhile_append htail, List.dropWhile_eq_nil_iff.mpr hcs, List.nil_append]

end Text
end DocPipe
