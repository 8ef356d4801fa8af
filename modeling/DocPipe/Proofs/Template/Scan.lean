import DocPipe.Proofs.Template.Pair
import DocPipe.Template.Parser

/-!
# Where the placeholders of a template are

A template is filled in by one loop and checked by another.  This file says, without either of them,
where a template has its placeholders, and proves that these are the ones the loops are given.

`FirstPlaceholder` describes a single cut: of all opening braces with closing ones behind them the
first, and then the first closing ones.  `Scan` repeats it on what is left, and gives the template
as a row of texts and keys in turn.  Nothing in either is computed, and no place is counted; that
there is always exactly one scan is a theorem (`exists_scan`, `Scan.unique`).

## What can overlap

Three opening braces can be read as a pair in two ways, and so can three closing ones.  Since the
first pair counts on both sides, a spare opening brace belongs to the key and a spare closing brace
to the text behind.  An opening pair that nothing closes is text, and then every opening pair behind
it is text too: what would close the later one would close the earlier one.

## Places

The loops do not see the text that is left but count places in the whole template.  The place where
the last placeholder has ended is the length of the text up to there, so a template in the middle of
a loop is written `done ++ cs`, and the loop is at `done.length`.  The lemmas of the last section
say what lies between the places of the next placeholder, in these terms.
-/

namespace DocPipe
namespace Template

/-! ## One placeholder -/

/-- The text with a placeholder in it: `inner` in double braces, between `before` and `rest`. -/
def written (before inner rest : List Char) : List Char :=
  before ++ '\x7b' :: '\x7b' :: (inner ++ '\x7d' :: '\x7d' :: rest)

/-- The first placeholder of a text begins at the first opening pair that has a closing pair behind
it, and ends at the first such closing pair. -/
structure FirstPlaceholder (cs before inner rest : List Char) : Prop where
  eq_written : cs = written before inner rest
  opens_first : ∀ b i r, cs = written b i r → before.length ≤ b.length
  closes_first : ∀ i r, cs = written before i r → inner.length ≤ i.length

/-- A text has at most one first placeholder. -/
theorem FirstPlaceholder.unique {cs b i r b' i' r' : List Char} (h : FirstPlaceholder cs b i r)
    (h' : FirstPlaceholder cs b' i' r') : b = b' ∧ i = i' ∧ r = r' := by
  have heq := h.eq_written.symm.trans h'.eq_written
  have hlength : b.length = b'.length :=
    Nat.le_antisymm (h.opens_first _ _ _ h'.eq_written) (h'.opens_first _ _ _ h.eq_written)
  obtain ⟨rfl, hinner⟩ := List.append_inj heq hlength
  have hinner' := (List.cons.inj (List.cons.inj hinner).2).2
  have hlength' : i.length = i'.length :=
    Nat.le_antisymm (h.closes_first _ _ h'.eq_written) (h'.closes_first _ _ h.eq_written)
  obtain ⟨rfl, hrest⟩ := List.append_inj hinner' hlength'
  exact ⟨rfl, rfl, (List.cons.inj (List.cons.inj hrest).2).2⟩

/-- A text that has a placeholder somewhere has one behind its first opening pair. -/
theorem exists_of_eq_written {cs before inner rest b a : List Char}
    (hcs : cs = written before inner rest)
    (hopen : Text.cutPair? '\x7b' cs = some (b, a)) :
    ∃ i r, a = i ++ '\x7d' :: '\x7d' :: r := by
  obtain ⟨hcut, hleast⟩ := Text.cutPair?_eq_some_iff.mp hopen
  have hlength : b.length ≤ before.length := hleast before _ hcs
  have heq : (b ++ ['\x7b', '\x7b']) ++ a =
      (before ++ ['\x7b', '\x7b']) ++ (inner ++ '\x7d' :: '\x7d' :: rest) := by
    simpa [written] using hcut.symm.trans hcs
  rcases List.append_eq_append_iff.mp heq with ⟨x, -, ha⟩ | ⟨x, hx, ha⟩
  · exact ⟨x ++ inner, rest, by rw [ha, List.append_assoc]⟩
  · -- the two openings are at the same place, so nothing lies between them
    have hx' := congrArg List.length hx
    simp only [List.length_append, List.length_cons, List.length_nil] at hx'
    have hnil : x = [] := List.eq_nil_of_length_eq_zero (by omega)
    rw [hnil, List.nil_append] at ha
    exact ⟨inner, rest, ha.symm⟩

/-- **No placeholder is found exactly if there is none.** -/
theorem firstPlaceholder?_eq_none_iff {offset : Nat} {cs : List Char} :
    firstPlaceholder? offset cs = none ↔ ∀ b i r, cs ≠ written b i r := by
  constructor
  · intro h b i r hcs
    cases hopen : Text.cutPair? '\x7b' cs with
    | none => exact Text.cutPair?_eq_none_iff.mp hopen b _ hcs
    | some p =>
      obtain ⟨i', r', ha⟩ := exists_of_eq_written hcs hopen
      cases hclose : Text.cutPair? '\x7d' p.2 with
      | none => exact Text.cutPair?_eq_none_iff.mp hclose i' r' ha
      | some q => exact absurd h (by simp [firstPlaceholder?, hopen, hclose])
  · intro h
    cases hopen : Text.cutPair? '\x7b' cs with
    | none => simp [firstPlaceholder?, hopen]
    | some p =>
      cases hclose : Text.cutPair? '\x7d' p.2 with
      | none => simp [firstPlaceholder?, hopen, hclose]
      | some q =>
        refine absurd ?_ (h p.1 q.1 q.2)
        rw [written, ← Text.eq_append_of_cutPair? hclose]
        exact Text.eq_append_of_cutPair? hopen

/-- What is found is the first placeholder, and its places are counted from the offset. -/
theorem exists_of_firstPlaceholder? {offset : Nat} {cs rest : List Char} {p : Placeholder}
    (h : firstPlaceholder? offset cs = some (p, rest)) :
    ∃ before inner, FirstPlaceholder cs before inner rest ∧
      p = ⟨offset + before.length, offset + before.length + (inner.length + 4), inner⟩ := by
  simp only [firstPlaceholder?, Option.bind_eq_some_iff, Option.map_eq_some_iff, Prod.exists,
    Prod.mk.injEq] at h
  obtain ⟨before, after, hopen, inner, rest', hclose, rfl, rfl⟩ := h
  obtain ⟨hcs, hopenLeast⟩ := Text.cutPair?_eq_some_iff.mp hopen
  obtain ⟨hafter, hcloseLeast⟩ := Text.cutPair?_eq_some_iff.mp hclose
  refine ⟨before, inner, ⟨?_, fun b i r hb => hopenLeast b _ hb, fun i r hi => ?_⟩, rfl⟩
  · rw [written, ← hafter]
    exact hcs
  · have htail := List.append_cancel_left (hcs.symm.trans hi)
    exact hcloseLeast i r (List.cons.inj (List.cons.inj htail).2).2

/-- **What is found is the first placeholder.** -/
theorem FirstPlaceholder.found {cs before inner rest : List Char}
    (h : FirstPlaceholder cs before inner rest) (offset : Nat) :
    firstPlaceholder? offset cs =
      some (⟨offset + before.length, offset + before.length + (inner.length + 4), inner⟩,
        rest) := by
  cases hfound : firstPlaceholder? offset cs with
  | none =>
    exact absurd h.eq_written (firstPlaceholder?_eq_none_iff.mp hfound before inner rest)
  | some found =>
    obtain ⟨p, rest'⟩ := found
    obtain ⟨before', inner', hfirst, rfl⟩ := exists_of_firstPlaceholder? hfound
    obtain ⟨rfl, rfl, rfl⟩ := h.unique hfirst
    rfl

/-! ## All placeholders -/

/-- `Scan cs pieces` says that `pieces` are the texts and keys of the template `cs` in turn, from
its first placeholder to the text behind the last.  Texts can be empty. -/
inductive Scan : List Char → List Part → Prop where
  | last {cs : List Char} (h : ∀ b i r, cs ≠ written b i r) :
      Scan cs [.literal (String.ofList cs)]
  | placeholder {cs before inner rest : List Char} {pieces : List Part}
      (h : FirstPlaceholder cs before inner rest) (hrest : Scan rest pieces) :
      Scan cs (.literal (String.ofList before) ::
        .placeholder (String.ofList (Text.trim inner)) :: pieces)

/-- Every template has a scan. -/
theorem exists_scan (cs : List Char) : ∃ pieces, Scan cs pieces := by
  generalize hn : cs.length = n
  induction n using Nat.strongRecOn generalizing cs with
  | ind n ih =>
    cases hfound : firstPlaceholder? 0 cs with
    | none => exact ⟨_, .last (firstPlaceholder?_eq_none_iff.mp hfound)⟩
    | some found =>
      obtain ⟨p, rest⟩ := found
      obtain ⟨before, inner, hfirst, -⟩ := exists_of_firstPlaceholder? hfound
      have hlt : rest.length < n := hn ▸ length_lt_of_firstPlaceholder? hfound
      obtain ⟨pieces, hpieces⟩ := ih rest.length hlt rest rfl
      exact ⟨_, .placeholder hfirst hpieces⟩

/-- **No template has two scans.** -/
theorem Scan.unique {cs : List Char} {pieces pieces' : List Part} (h : Scan cs pieces)
    (h' : Scan cs pieces') : pieces = pieces' := by
  induction h generalizing pieces' with
  | last hnone =>
    cases h' with
    | last => rfl
    | placeholder hfirst => exact absurd hfirst.eq_written (hnone _ _ _)
  | placeholder hfirst _ ih =>
    cases h' with
    | last hnone => exact absurd hfirst.eq_written (hnone _ _ _)
    | placeholder hfirst' hrest' =>
      obtain ⟨rfl, rfl, rfl⟩ := hfirst.unique hfirst'
      rw [ih hrest']

/-- A scan ends with a text. -/
theorem Scan.ne_nil {cs : List Char} {pieces : List Part} (h : Scan cs pieces) : pieces ≠ [] := by
  cases h <;> exact List.cons_ne_nil _ _

/-! ## Places -/

/-- The text up to the end of a placeholder. -/
def passed (done before inner : List Char) : List Char :=
  done ++ (before ++ '\x7b' :: '\x7b' :: (inner ++ ['\x7d', '\x7d']))

/-- Where the placeholder has ended. -/
theorem length_passed (done before inner : List Char) :
    (passed done before inner).length = done.length + before.length + (inner.length + 4) := by
  simp only [passed, List.length_append, List.length_cons, List.length_nil]
  omega

/-- Behind the placeholder the template goes on. -/
theorem append_written (done before inner rest : List Char) :
    done ++ written before inner rest = passed done before inner ++ rest := by
  simp [written, passed]

/-- In front of the placeholder stands its text. -/
theorem between_written (done before inner rest : List Char) :
    between (done ++ written before inner rest) done.length (done.length + before.length) =
      String.ofList before := by
  have htake : (done ++ written before inner rest).take (done.length + before.length) =
      done ++ before := by
    rw [written, ← List.append_assoc, ← List.length_append, List.take_left]
  rw [between, htake, List.drop_left]

/-- Without a placeholder the loops are given none. -/
theorem placeholdersFrom_of_forall_ne {cs : List Char} (h : ∀ b i r, cs ≠ written b i r)
    (offset : Nat) : placeholdersFrom offset cs = [] :=
  placeholdersFrom_of_none (firstPlaceholder?_eq_none_iff.mpr h)

/-- The loops are given the first placeholder, and then those behind it. -/
theorem FirstPlaceholder.placeholdersFrom_eq {cs before inner rest : List Char}
    (h : FirstPlaceholder cs before inner rest) (done : List Char) :
    placeholdersFrom done.length cs =
      ⟨done.length + before.length, (passed done before inner).length, inner⟩ ::
        placeholdersFrom (passed done before inner).length rest := by
  rw [placeholdersFrom_of_some (h.found done.length), length_passed]

end Template
end DocPipe
