import DocPipe.Number.Word
import DocPipe.Path.Basic
import DocPipe.Text.Blank
import DocPipe.Text.Cut

/-!
# Reading paths

A path is written as parts with points between them.  A part is a name followed by any number of
brackets, or brackets alone; a name is whatever stands before the next point or bracket, blanks
included.  Between brackets stands a star or a position.

    events[*].attendees[0].email

Blanks around the whole path and around what stands between brackets do not count, one leading point
is allowed, and a path of nothing, or of a single point, is the empty path.

## Positions

A character that may not stand where it does is reported with its position, counted from the first
character behind the blanks and the leading point.  The scanner only ever holds the text that is
left, so it finds the position by subtracting the length of that from the length of the whole.
-/

namespace DocPipe
namespace Path

/-- The characters of a name. -/
def isNameChar (c : Char) : Bool := c != '.' && c != '[' && c != ']'

/-- The step that brackets with the given body stand for. -/
def bracketSegment (body : List Char) : Except PathError Segment :=
  let body := Text.trim body
  if body = ['*'] then .ok .wildcard
  else match wordOfText? body with
    | some i => .ok (.index i)
    | none => .error (.invalidIndex (String.ofList body))

/-- The steps of the brackets at the start of a text, and what follows them. -/
def brackets (cs : List Char) : Except PathError (Path × List Char) :=
  match cs with
  | '[' :: rest =>
    match _h : Text.cut? ']' rest with
    | none => .error .unclosedBracket
    | some (body, tail) =>
      match bracketSegment body with
      | .error e => .error e
      | .ok segment => (brackets tail).map fun p => (segment :: p.1, p.2)
  | _ => .ok ([], cs)
termination_by cs.length
decreasing_by
  have := Text.length_lt_of_cut? _h
  simp only [List.length_cons]
  omega

/-- The step that a name stands for; no name is no step. -/
def nameSegments (name : List Char) : Path :=
  if name = [] then [] else [.field (String.ofList name)]

/-- What the brackets leave is never longer than the text. -/
theorem length_le_of_brackets {cs rest : List Char} {segments : Path}
    (h : brackets cs = .ok (segments, rest)) : rest.length ≤ cs.length := by
  fun_induction brackets cs generalizing segments rest with
  | case1 => simp at h
  | case2 => simp at h
  | case3 r body tail hcut segment _ ih =>
    cases hb : brackets tail with
    | error e => simp [hb, Except.map] at h
    | ok p =>
      simp only [hb, Except.map, Except.ok.injEq, Prod.mk.injEq] at h
      obtain ⟨-, rfl⟩ := h
      have h1 := ih hb
      have h2 := Text.length_lt_of_cut? hcut
      simp only [List.length_cons]
      omega
  | case4 =>
    simp only [Except.ok.injEq, Prod.mk.injEq] at h
    simp [h.2]

/-- The refusal of the first character of `rest`, in a text of `total` characters. -/
def unexpected (total : Nat) (c : Char) (rest : List Char) : PathError :=
  .unexpectedCharacter c (total - (rest.length + 1))

/-- The steps of the parts of a text.  `total` is the length of the text that this is the end of. -/
def parts (total : Nat) (cs : List Char) : Except PathError Path :=
  match _hname : cs.dropWhile isNameChar with
  | ']' :: rest => .error (unexpected total ']' rest)
  | afterName =>
    match _h : brackets afterName with
    | .error e => .error e
    | .ok p =>
      match nameSegments (cs.takeWhile isNameChar) ++ p.1, _hrest : p.2 with
      | [], _ => .error .emptySegment
      | segments, [] => .ok segments
      | _, ['.'] => .error .emptySegment
      | segments, '.' :: c :: more => (parts total (c :: more)).map (segments ++ ·)
      | _, c :: more => .error (unexpected total c more)
termination_by cs.length
decreasing_by
  have h1 := length_le_of_brackets _h
  have h2 := (List.dropWhile_sublist (l := cs) isNameChar).length_le
  rw [_hname] at h2
  rw [_hrest] at h1
  simp only [List.length_cons] at *
  omega

/-- The text behind one leading point. -/
def dropPoint : List Char → List Char
  | '.' :: cs => cs
  | cs => cs

/-- The path that a list of characters denotes. -/
def parseChars (cs : List Char) : Except PathError Path :=
  let body := Text.trim cs
  if body = [] ∨ body = ['.'] then .ok []
  else parts (dropPoint body).length (dropPoint body)

/-- The path that a text denotes. -/
def parse (text : String) : Except PathError Path := parseChars text.toList

end Path
end DocPipe
