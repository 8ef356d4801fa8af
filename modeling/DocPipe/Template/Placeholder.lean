import DocPipe.Text.Blank
import DocPipe.Text.Cut

/-!
# The placeholders of a template

A template is text with placeholders.  A placeholder begins at two opening braces and ends at the
first two closing ones behind them; what stands between, without the blanks around it, is its key.
Every text is a template: two opening braces that nothing closes are text.

Filling a template in and checking it are two loops over its placeholders.  Each of them remembers
where the placeholder before has ended, and takes the text from there to the next one.
-/

namespace DocPipe
namespace Template

/-- A placeholder: where it begins and where it has ended, counted in characters from the beginning
of the template, and what stands between its braces. -/
structure Placeholder where
  start : Nat
  stop : Nat
  inner : List Char
  deriving DecidableEq, Repr

/-- The key of a placeholder. -/
def Placeholder.key (p : Placeholder) : String := String.ofList (Text.trim p.inner)

/-- The first placeholder of a text that begins at `offset`, and what stands behind it. -/
def firstPlaceholder? (offset : Nat) (cs : List Char) : Option (Placeholder × List Char) :=
  (Text.cutPair? '\x7b' cs).bind fun opened =>
    (Text.cutPair? '\x7d' opened.2).map fun closed =>
      let start := offset + opened.1.length
      (⟨start, start + (closed.1.length + 4), closed.1⟩, closed.2)

/-- What stands behind the first placeholder is shorter than the text. -/
theorem length_lt_of_firstPlaceholder? {offset : Nat} {cs rest : List Char} {p : Placeholder}
    (h : firstPlaceholder? offset cs = some (p, rest)) : rest.length < cs.length := by
  simp only [firstPlaceholder?, Option.bind_eq_some_iff, Option.map_eq_some_iff, Prod.exists,
    Prod.mk.injEq] at h
  obtain ⟨before, inner, hopen, body, after, hclose, -, rfl⟩ := h
  have h1 := Text.length_lt_of_cutPair? hopen
  have h2 := Text.length_lt_of_cutPair? hclose
  omega

/-- The placeholders of a text that begins at `offset`, from the left. -/
def placeholdersFrom (offset : Nat) (cs : List Char) : List Placeholder :=
  match _h : firstPlaceholder? offset cs with
  | none => []
  | some (p, rest) => p :: placeholdersFrom p.stop rest
termination_by cs.length
decreasing_by all_goals exact length_lt_of_firstPlaceholder? _h

/-- The text of a template from one place to another. -/
def between (template : List Char) (start stop : Nat) : String :=
  String.ofList ((template.take stop).drop start)

/-- Without a first placeholder, there are none. -/
theorem placeholdersFrom_of_none {offset : Nat} {cs : List Char}
    (h : firstPlaceholder? offset cs = none) : placeholdersFrom offset cs = [] := by
  rw [placeholdersFrom]
  split
  · rfl
  · next heq => simp [h] at heq

/-- The placeholders are the first one and those behind it. -/
theorem placeholdersFrom_of_some {offset : Nat} {cs rest : List Char} {p : Placeholder}
    (h : firstPlaceholder? offset cs = some (p, rest)) :
    placeholdersFrom offset cs = p :: placeholdersFrom p.stop rest := by
  rw [placeholdersFrom]
  split
  · next heq => simp [h] at heq
  · next heq =>
    rw [h, Option.some.injEq, Prod.mk.injEq] at heq
    rw [heq.1, heq.2]

end Template
end DocPipe
