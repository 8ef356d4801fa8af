import DocPipe.Proofs.Path.Grammar
import DocPipe.Proofs.Path.Places
import DocPipe.Proofs.Text.Trim

/-!
# Joining paths

A path leads into a document in stages: what is in front leads to a place, and what is behind goes on
from there.  This file says how far that carries, for paths as lists of steps and then for the texts
that they are written as.

## Steps

Following is composition as long as there is no wildcard in front.  A wildcard in front ends
following, and so what is behind it does not matter (`follow_append_of_mem`).  Selecting branches at
a wildcard; but what it collects at the end of a path is opened, if it is a list, so a selection can
be gone on from only if it has ended with a wildcard, where nothing is opened
(`select_append_of_getLast?`).

## Texts

Two texts are joined by a point, or by nothing if the second begins with a bracket.  In terms of
spellings the first way puts one row of parts behind another, and the second melts the last part of
the one and the first of the other into a single part, whose steps are those of both
(`exists_spelling_melted`).  Blanks at the seam would stand inside a name, and a point would be a
second one, so neither may be there; at the other ends both are dropped, as always.
-/

namespace DocPipe
namespace Path

/-! ## Joining steps -/

/-- **Following a path without wildcards, and then another.** -/
theorem follow_append {s : Path} (h : .wildcard ∉ s) (t : Path) (v : Value) :
    follow (s ++ t) v = (follow s v).bind (follow t) := by
  induction s generalizing v with
  | nil => rfl
  | cons segment s ih =>
    obtain ⟨hsegment, hs⟩ := not_or.mp (fun hm => h (List.mem_cons.mpr hm))
    cases segment with
    | field name =>
      rw [List.cons_append, follow, follow]
      cases v.field? name with
      | none => rfl
      | some next => exact ih hs next
    | index i =>
      rw [List.cons_append, follow, follow]
      cases v.item? i with
      | none => rfl
      | some next => exact ih hs next
    | wildcard => exact absurd rfl hsegment

/-- **Behind a wildcard nothing is followed.** -/
theorem follow_append_of_mem {s : Path} (h : .wildcard ∈ s) (t : Path) (v : Value) :
    follow (s ++ t) v = follow s v := by
  obtain ⟨before, after, rfl, hbefore⟩ := List.eq_append_cons_of_mem h
  rw [List.append_assoc, List.cons_append, follow_append_wildcard hbefore,
    follow_append_wildcard hbefore]

/-- **Selecting goes on from the place that a path without wildcards leads to.** -/
theorem select_append {s : Path} (h : .wildcard ∉ s) (t : Path) (v : Value) :
    select (s ++ t) v = ((follow s v).map (select t)).getD [] := by
  induction s generalizing v with
  | nil => rfl
  | cons segment s ih =>
    obtain ⟨hsegment, hs⟩ := not_or.mp (fun hm => h (List.mem_cons.mpr hm))
    cases segment with
    | field name =>
      rw [List.cons_append, select, follow]
      cases v.field? name with
      | none => rfl
      | some next => exact ih hs next
    | index i =>
      rw [List.cons_append, select, follow]
      cases v.item? i with
      | none => rfl
      | some next => exact ih hs next
    | wildcard => exact absurd rfl hsegment

/-- **Selecting goes on from everything that a path with a wildcard at its end has selected.** -/
theorem select_append_of_getLast? {s t : Path} (h : s.getLast? = some .wildcard) (ht : t ≠ [])
    (v : Value) : select (s ++ t) v = (select s v).flatMap (select t) := by
  induction s generalizing v with
  | nil => exact absurd h (by simp)
  | cons segment s ih =>
    cases s with
    | nil =>
      obtain rfl : segment = .wildcard := Option.some.inj h
      obtain ⟨step, t, rfl⟩ := List.exists_cons_of_ne_nil ht
      rfl
    | cons step s =>
      rw [List.getLast?_cons_cons] at h
      cases segment with
      | field name =>
        rw [List.cons_append, select, select]
        cases v.field? name with
        | none => rfl
        | some next => exact ih h next
      | index i =>
        rw [List.cons_append, select, select]
        cases v.item? i with
        | none => rfl
        | some next => exact ih h next
      | wildcard =>
        have hitems : ∀ item, select (step :: (s ++ t)) item =
            (select (step :: s) item).flatMap (select t) := ih h
        show (v.items?.getD []).flatMap (select (step :: (s ++ t))) =
          ((v.items?.getD []).flatMap (select (step :: s))).flatMap (select t)
        rw [List.flatMap_assoc]
        exact congrArg (List.flatMap · (v.items?.getD [])) (funext hitems)

/-! ## Joining spellings -/

/-- A point joins two rows of parts to one. -/
theorem spelling_append {ps qs : List Part} (hps : ps ≠ []) (hqs : qs ≠ []) :
    spelling (ps ++ qs) = spelling ps ++ '.' :: spelling qs := by
  obtain ⟨q, qs, rfl⟩ := List.exists_cons_of_ne_nil hqs
  induction ps with
  | nil => exact absurd rfl hps
  | cons p ps ih =>
    cases ps with
    | nil => rw [spelling_singleton, List.singleton_append, spelling_cons, behindPart]
    | cons p' ps =>
      rw [List.cons_append, spelling_cons, spelling_cons p, List.append_assoc]
      congr 1
      exact congrArg ('.' :: ·) (ih (List.cons_ne_nil p' ps))

/-- Brackets behind a part belong to it. -/
def Part.extend (p : Part) (bs : List Bracket) : Part where
  name := p.name
  brackets := p.brackets ++ bs
  isName := p.isName
  nonempty := p.nonempty.imp_right fun h hnil => h (List.append_eq_nil_iff.mp hnil).1

theorem Part.text_extend (p : Part) (bs : List Bracket) :
    (p.extend bs).text = p.text ++ bracketsText bs := by
  simp [Part.text, Part.extend, bracketsText]

theorem Part.path_extend (p : Part) (bs : List Bracket) :
    (p.extend bs).path = p.path ++ bs.map Bracket.segment := by
  simp [Part.path, Part.extend]

/-- **Two rows of parts, of which the second begins with a bracket, are one row** as they stand. -/
theorem exists_spelling_melted {ps qs : List Part} (hps : ps ≠ [])
    (hqs : (spelling qs).head? = some '[') :
    ∃ rs, rs ≠ [] ∧ spelling rs = spelling ps ++ spelling qs ∧ pathOf rs = pathOf ps ++ pathOf qs := by
  cases qs with
  | nil => exact absurd hqs (by simp [spelling])
  | cons q qs =>
    have hname : q.name = [] := by
      rw [spelling_cons, Part.text, List.append_assoc] at hqs
      cases hq : q.name with
      | nil => rfl
      | cons c name =>
        rw [hq] at hqs
        obtain rfl : c = '[' := Option.some.inj hqs
        exact absurd (q.isName '[' (by rw [hq]; exact List.mem_cons_self)) (by decide)
    have htext : q.text = bracketsText q.brackets := by rw [Part.text, hname, List.nil_append]
    have hpath : q.path = q.brackets.map Bracket.segment := by
      rw [Part.path, hname]
      rfl
    -- only the last of the parts in front takes the brackets in
    induction ps with
    | nil => exact absurd rfl hps
    | cons p ps ih =>
      cases ps with
      | nil =>
        refine ⟨p.extend q.brackets :: qs, by simp, ?_, ?_⟩
        · rw [spelling_singleton, spelling_cons, spelling_cons, Part.text_extend, htext,
            List.append_assoc]
        · rw [pathOf_cons, pathOf_cons p, pathOf_cons q, Part.path_extend, hpath,
            List.append_assoc, List.append_assoc]
          rfl
      | cons p' ps =>
        obtain ⟨rs, hrs, hspelling, hrsPath⟩ := ih (List.cons_ne_nil p' ps)
        obtain ⟨r, rs, rfl⟩ := List.exists_cons_of_ne_nil hrs
        refine ⟨p :: r :: rs, by simp, ?_, ?_⟩
        · rw [spelling_cons, behindPart, hspelling, spelling_cons p, behindPart, List.append_assoc]
          rfl
        · rw [pathOf_cons, hrsPath, pathOf_cons p, List.append_assoc]

/-! ## Joining texts -/

/-- Only a point is dropped. -/
theorem dropPoint_of_ne {c : Char} (h : c ≠ '.') (cs : List Char) :
    dropPoint (c :: cs) = c :: cs := by
  rw [dropPoint]
  rintro cs' heq
  exact h (List.cons.inj heq).1

/-- A leading point is dropped from the first of two texts. -/
theorem dropPoint_append {cs : List Char} (h : cs ≠ []) (rest : List Char) :
    dropPoint (cs ++ rest) = dropPoint cs ++ rest := by
  obtain ⟨c, cs, rfl⟩ := List.exists_cons_of_ne_nil h
  by_cases hc : c = '.'
  · subst hc
    rfl
  · rw [List.cons_append, dropPoint_of_ne hc, dropPoint_of_ne hc, List.cons_append]

/-- What parts are read from is not blank. -/
theorem trim_ne_nil_of_spelling {cs : List Char} {ps : List Part} (hps : ps ≠ [])
    (h : dropPoint (Text.trim cs) = spelling ps) : Text.trim cs ≠ [] := by
  intro hnil
  rw [hnil] at h
  exact spelling_ne_nil hps h.symm

/-- Parts at the very beginning of a text begin as the text does. -/
theorem trim_eq_spelling_of_first {cs : List Char} {ps : List Part} (hps : ps ≠ [])
    (h : dropPoint (Text.trim cs) = spelling ps)
    (hfirst : ∀ c ∈ cs.head?, Text.isBlank c = false ∧ c ≠ '.') :
    Text.trim cs = spelling ps ∧ (spelling ps).head? = cs.head? := by
  obtain ⟨r, -, hr⟩ := Text.exists_eq_trim_append_of_first fun c hc => (hfirst c hc).1
  have hne := trim_ne_nil_of_spelling hps h
  have hhead : cs.head? = (Text.trim cs).head? := by
    conv_lhs => rw [hr]
    exact List.head?_append_of_ne_nil _ hne
  obtain ⟨c, core, hcore⟩ := List.exists_cons_of_ne_nil hne
  have hpoint : dropPoint (Text.trim cs) = Text.trim cs := by
    rw [hcore]
    exact dropPoint_of_ne (hfirst c (by rw [hhead, hcore]; rfl)).2 core
  rw [hpoint] at h
  exact ⟨h, by rw [hhead, h]⟩

/-- **Parts of two texts are the parts of both**, with blanks and a point in front of the first and
blanks behind the second. -/
theorem dropPoint_trim_append {p q : List Char} {ps qs : List Part} (hps : ps ≠ []) (hqs : qs ≠ [])
    (hp : dropPoint (Text.trim p) = spelling ps) (hq : dropPoint (Text.trim q) = spelling qs)
    (hlast : ∀ c ∈ p.getLast?, Text.isBlank c = false)
    (hfirst : ∀ c ∈ q.head?, Text.isBlank c = false ∧ c ≠ '.') (between : List Char) :
    dropPoint (Text.trim (p ++ (between ++ q))) = spelling ps ++ (between ++ spelling qs) := by
  have hpne := trim_ne_nil_of_spelling hps hp
  have hqne := trim_ne_nil_of_spelling hqs hq
  rw [Text.trim_append_append hlast (fun c hc => (hfirst c hc).1) hpne hqne,
    dropPoint_append hpne, hp, (trim_eq_spelling_of_first hqs hq hfirst).1]

/-- A text that leads somewhere leads where its steps do. -/
theorem resolveText_eq_follow {text : String} {path : Path} (h : parse text = .ok path)
    (hpath : path ≠ []) (root : Value) : resolveText text root = follow path root := by
  rw [resolveText, h, follow_eq_resolve fun hroot => hpath hroot.2]

/-- A text names what its steps select. -/
theorem selectText_eq_select {text : String} {path : Path} (h : parse text = .ok path)
    (root : Value) : selectText text root = select path root := by
  rw [selectText, h]

/-- **Concatenating paths is composing lookups.**  Two texts of paths, joined by a point, are the
text of the steps of the first and then those of the second; and so they are as they stand, if the
second begins with a bracket.  If there is no wildcard in the first, looking up and selecting go on
from the place that the first leads to.  If there is one, looking up ends in the first; and if the
first ends with one, selecting goes on from everything that the first selects. -/
theorem parse_append_and_lookups {p q : String} {s t : Path} (hp : parse p = .ok s)
    (hq : parse q = .ok t) (hs : s ≠ []) (ht : t ≠ [])
    (hlast : ∀ c ∈ p.toList.getLast?, Text.isBlank c = false)
    (hfirst : ∀ c ∈ q.toList.head?, Text.isBlank c = false ∧ c ≠ '.') :
    parse (p ++ "." ++ q) = .ok (s ++ t) ∧
    (q.toList.head? = some '[' → parse (p ++ q) = .ok (s ++ t)) ∧
    ∀ joined, (joined = p ++ "." ++ q ∨ (q.toList.head? = some '[' ∧ joined = p ++ q)) →
      ∀ root,
        (.wildcard ∉ s →
          resolveText joined root = (resolveText p root).bind (resolveText q) ∧
          selectText joined root = ((resolveText p root).map (selectText q)).getD []) ∧
        (.wildcard ∈ s → resolveText joined root = resolveText p root) ∧
        (s.getLast? = some .wildcard →
          selectText joined root = (selectText p root).flatMap (selectText q)) := by
  obtain ⟨ps, hps, hpText, rfl⟩ := exists_spelling_of_parse hp hs
  obtain ⟨qs, hqs, hqText, rfl⟩ := exists_spelling_of_parse hq ht
  have hpoint : parse (p ++ "." ++ q) = .ok (pathOf ps ++ pathOf qs) := by
    have htext : (p ++ "." ++ q).toList = p.toList ++ (['.'] ++ q.toList) := by
      rw [String.toList_append, String.toList_append, List.append_assoc]
      rfl
    have hspelling : dropPoint (Text.trim (p ++ "." ++ q).toList) = spelling (ps ++ qs) := by
      rw [htext, dropPoint_trim_append hps hqs hpText hqText hlast hfirst, spelling_append hps hqs]
      rfl
    rw [parse_of_spelling (List.append_ne_nil_of_left_ne_nil hps qs) hspelling, pathOf_append]
  have hbracket : q.toList.head? = some '[' → parse (p ++ q) = .ok (pathOf ps ++ pathOf qs) := by
    intro hhead
    rw [← (trim_eq_spelling_of_first hqs hqText hfirst).2] at hhead
    obtain ⟨rs, hrs, hspelling, hpath⟩ := exists_spelling_melted hps hhead
    have htext : (p ++ q).toList = p.toList ++ ([] ++ q.toList) := String.toList_append
    rw [← hpath]
    refine parse_of_spelling hrs ?_
    rw [htext, dropPoint_trim_append hps hqs hpText hqText hlast hfirst, hspelling,
      List.nil_append]
  refine ⟨hpoint, hbracket, fun joined hjoined root => ?_⟩
  have hparse : parse joined = .ok (pathOf ps ++ pathOf qs) := by
    rcases hjoined with rfl | ⟨hhead, rfl⟩
    · exact hpoint
    · exact hbracket hhead
  have hne : pathOf ps ++ pathOf qs ≠ [] := List.append_ne_nil_of_left_ne_nil hs _
  have hresolveQ : resolveText q = follow (pathOf qs) :=
    funext (resolveText_eq_follow hq ht)
  have hselectQ : selectText q = select (pathOf qs) := funext (selectText_eq_select hq)
  rw [resolveText_eq_follow hparse hne, selectText_eq_select hparse, resolveText_eq_follow hp hs,
    selectText_eq_select hp, hresolveQ, hselectQ]
  exact ⟨fun hs => ⟨follow_append hs _ root, select_append hs _ root⟩,
    fun hs => follow_append_of_mem hs _ root, fun hs => select_append_of_getLast? hs ht root⟩

/-- What is behind a wildcard is selected from every row, and looked up in none. -/
theorem parse_append_and_lookups_rows :
    parse (" .rows[*]" ++ "[ 0].id") = .ok [.field "rows", .wildcard, .index 0, .field "id"] ∧
    selectText (" .rows[*]" ++ "[ 0].id")
        (.object [("rows", .array [.array [.object [("id", .bool true)]], .null])]) =
      [.bool true] ∧
    resolveText (" .rows[*]" ++ "[ 0].id")
        (.object [("rows", .array [.array [.object [("id", .bool true)]], .null])]) =
      some (.array [.array [.object [("id", .bool true)]], .null]) := by
  have hrows : parse " .rows[*]" = .ok [.field "rows", .wildcard] := by decide +kernel
  have hid : parse "[ 0].id" = .ok [.index 0, .field "id"] := by decide +kernel
  have hlast : ∀ c ∈ " .rows[*]".toList.getLast?, Text.isBlank c = false := by
    rintro _ ⟨⟩
    decide
  have hfirst : ∀ c ∈ "[ 0].id".toList.head?, Text.isBlank c = false ∧ c ≠ '.' := by
    rintro _ ⟨⟩
    decide
  obtain ⟨-, hparse, hlookups⟩ :=
    parse_append_and_lookups hrows hid (by simp) (by simp) hlast hfirst
  obtain ⟨-, hresolve, hselect⟩ := hlookups _ (.inr ⟨by decide, rfl⟩)
    (.object [("rows", .array [.array [.object [("id", .bool true)]], .null])])
  refine ⟨hparse (by decide), (hselect rfl).trans ?_, (hresolve (by simp)).trans ?_⟩
  · rw [selectText_eq_select hrows, show selectText "[ 0].id" = select _ from
      funext (selectText_eq_select hid)]
    rfl
  · rw [resolveText_eq_follow hrows (by simp)]
    rfl

end Path
end DocPipe
