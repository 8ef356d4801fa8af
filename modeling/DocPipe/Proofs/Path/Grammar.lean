import DocPipe.Path.Parser
import DocPipe.Proofs.Text.Runs

/-!
# How paths are written

`Path.parse` scans a text from the left and stops at the first character that does not fit.  Here is
the language that it reads, said without scanning.  A path is written as parts with points between
them; a part is a name and brackets behind it, of which only one may be missing; and between
brackets stands a star or a position.

A `Part` carries the proof that it is one, so a list of parts is a spelling of some path, and
`spelling` and `pathOf` say of which text and of which path.  The main statements are that the
scanner reads exactly the texts of spellings (`parts_eq_ok_iff`) and that no text has two spellings
(`spelling_injective`).

## Where a part ends

What is written behind a name is a bracket, a point or nothing, and what is written behind brackets
is a point or nothing.  So names and rows of brackets are read to the end of the longest one, and
where that end is depends on nothing but the part itself.  The same fact serves three times: to see
what the scanner finds, to see that it finds a part that is there, and to take two spellings of one
text apart.
-/

namespace DocPipe

/-! ## Positions -/

/-- Whether a text denotes a position: digits, with or without a plus sign in front, of a number
that fits into a word. -/
def DenotesWord (text : List Char) (i : Nat) : Prop :=
  ∃ digits, (text = digits ∨ text = '+' :: digits) ∧ digits ≠ [] ∧
    (∀ c ∈ digits, c.isDigit = true) ∧ Nat.ofDigitChars 10 digits 0 = i ∧ i < wordBound

/-- The digits of a text that may have a plus sign in front. -/
theorem wordOfText?_of_digits {text digits : List Char} {i : Nat}
    (htext : text = '+' :: digits ∨ (text = digits ∧ ∀ cs, text ≠ '+' :: cs)) :
    wordOfText? text = some i ↔ digits ≠ [] ∧ (∀ c ∈ digits, c.isDigit = true) ∧
      Nat.ofDigitChars 10 digits 0 = i ∧ i < wordBound := by
  have hread : wordOfText? text =
      if digits ≠ [] ∧ digits.all Char.isDigit ∧ Nat.ofDigitChars 10 digits 0 < wordBound then
        some (Nat.ofDigitChars 10 digits 0)
      else none := by
    rcases htext with rfl | ⟨rfl, hplus⟩
    · rfl
    · rw [wordOfText?]
      exact fun cs => hplus cs
  rw [hread, Option.ite_none_right_eq_some, Option.some.injEq, List.all_eq_true]
  constructor
  · rintro ⟨⟨hne, hall, hlt⟩, rfl⟩
    exact ⟨hne, hall, rfl, hlt⟩
  · rintro ⟨hne, hall, rfl, hlt⟩
    exact ⟨⟨hne, hall, hlt⟩, rfl⟩

/-- **A text is read as a position exactly if it denotes that position.** -/
theorem wordOfText?_eq_some_iff {text : List Char} {i : Nat} :
    wordOfText? text = some i ↔ DenotesWord text i := by
  by_cases hplus : ∃ cs, text = '+' :: cs
  · obtain ⟨cs, rfl⟩ := hplus
    rw [wordOfText?_of_digits (.inl rfl)]
    constructor
    · rintro ⟨hne, hall, hvalue⟩
      exact ⟨cs, .inr rfl, hne, hall, hvalue⟩
    · rintro ⟨digits, rfl | heq, hne, hall, hvalue⟩
      · -- a plus sign is no digit
        exact absurd (hall '+' List.mem_cons_self) (by decide)
      · obtain ⟨-, rfl⟩ := List.cons.inj heq
        exact ⟨hne, hall, hvalue⟩
  · rw [wordOfText?_of_digits (.inr ⟨rfl, fun cs heq => hplus ⟨cs, heq⟩⟩)]
    constructor
    · rintro ⟨hne, hall, hvalue⟩
      exact ⟨text, .inl rfl, hne, hall, hvalue⟩
    · rintro ⟨digits, rfl | heq, hne, hall, hvalue⟩
      · exact ⟨hne, hall, hvalue⟩
      · exact absurd ⟨digits, heq⟩ hplus

namespace Path

/-! ## Brackets -/

/-- The step that a text between brackets denotes, without the blanks around it. -/
inductive Denotes : List Char → Segment → Prop where
  | star : Denotes ['*'] .wildcard
  | position {text : List Char} {i : Nat} (h : DenotesWord text i) : Denotes text (.index i)

/-- **What stands between brackets is read as a step exactly if it denotes that step.** -/
theorem bracketSegment_eq_ok_iff {body : List Char} {segment : Segment} :
    bracketSegment body = .ok segment ↔ Denotes (Text.trim body) segment := by
  rw [bracketSegment]
  by_cases hstar : Text.trim body = ['*']
  · rw [if_pos hstar, hstar]
    constructor
    · rintro ⟨⟩
      exact .star
    · intro h
      cases h with
      | star => rfl
      | position hword =>
        have hnone : wordOfText? ['*'] = none := by decide
        exact absurd (hnone.symm.trans (wordOfText?_eq_some_iff.mpr hword)) (by simp)
  · rw [if_neg hstar]
    constructor
    · intro h
      split at h
      · next i hi =>
        obtain rfl := Except.ok.inj h
        exact .position (wordOfText?_eq_some_iff.mp hi)
      · exact absurd h (by simp)
    · intro h
      generalize htext : Text.trim body = text at h hstar
      cases h with
      | star => exact absurd rfl hstar
      | position hword => rw [wordOfText?_eq_some_iff.mpr hword]

/-- A text denotes at most one step. -/
theorem Denotes.unique {body : List Char} {segment segment' : Segment}
    (h : Denotes (Text.trim body) segment) (h' : Denotes (Text.trim body) segment') :
    segment = segment' := by
  rw [← bracketSegment_eq_ok_iff] at h h'
  exact Except.ok.inj (h.symm.trans h')

/-- Brackets, what stands between them, and the step that it denotes. -/
structure Bracket where
  body : List Char
  segment : Segment
  closes_first : ']' ∉ body
  denotes : Denotes (Text.trim body) segment

/-- Brackets as they are written. -/
def Bracket.text (b : Bracket) : List Char := '[' :: (b.body ++ [']'])

/-- Brackets are determined by what stands between them. -/
theorem Bracket.eq_of_body {b b' : Bracket} (h : b.body = b'.body) : b = b' := by
  cases b with
  | mk body segment _ denotes =>
    cases b' with
    | mk body' segment' _ denotes' =>
      obtain rfl : body = body' := h
      obtain rfl := denotes.unique denotes'
      rfl

/-- A row of brackets as it is written. -/
def bracketsText (bs : List Bracket) : List Char := bs.flatMap Bracket.text

@[simp] theorem bracketsText_nil : bracketsText [] = [] := rfl

theorem bracketsText_cons_append (b : Bracket) (bs : List Bracket) (rest : List Char) :
    bracketsText (b :: bs) ++ rest = '[' :: (b.body ++ ']' :: (bracketsText bs ++ rest)) := by
  simp [bracketsText, Bracket.text]

/-- The first of a row of brackets ends at its closing bracket. -/
theorem cut?_bracketsText (b : Bracket) (bs : List Bracket) (rest : List Char) :
    Text.cut? ']' (b.body ++ ']' :: (bracketsText bs ++ rest)) =
      some (b.body, bracketsText bs ++ rest) :=
  Text.cut?_eq_some_iff.mpr ⟨rfl, b.closes_first⟩

/-- **Brackets are read to the end of the row.** -/
theorem brackets_eq_ok_iff {cs rest : List Char} {path : Path} :
    brackets cs = .ok (path, rest) ↔ ∃ bs, cs = bracketsText bs ++ rest ∧
      path = bs.map Bracket.segment ∧ rest.head? ≠ some '[' := by
  constructor
  · intro h
    fun_induction brackets cs generalizing path with
    | case1 => exact absurd h (by simp)
    | case2 => exact absurd h (by simp)
    | case3 behind body tail hcut segment hsegment ih =>
      cases htail : brackets tail with
      | error e => exact absurd h (by simp [htail, Except.map])
      | ok p =>
        simp only [htail, Except.map, Except.ok.injEq, Prod.mk.injEq] at h
        obtain ⟨rfl, rfl⟩ := h
        obtain ⟨bs, rfl, hpath, hrest⟩ := ih htail
        obtain ⟨rfl, hfirst⟩ := Text.cut?_eq_some_iff.mp hcut
        refine ⟨⟨body, segment, hfirst, bracketSegment_eq_ok_iff.mp hsegment⟩ :: bs, ?_, ?_, hrest⟩
        · rw [bracketsText_cons_append]
        · rw [List.map_cons, ← hpath]
    | case4 cs hne =>
      obtain ⟨rfl, rfl⟩ := Prod.mk.inj (Except.ok.inj h)
      refine ⟨[], rfl, rfl, fun hhead => ?_⟩
      obtain ⟨tail, rfl⟩ := List.head?_eq_some_iff.mp hhead
      exact hne tail rfl
  · rintro ⟨bs, rfl, rfl, hrest⟩
    induction bs with
    | nil =>
      rw [bracketsText_nil, List.nil_append, brackets.eq_def]
      split
      · exact absurd rfl hrest
      · rfl
    | cons b bs ih =>
      rw [bracketsText_cons_append, brackets.eq_def]
      simp only
      split
      · next hcut => exact absurd (hcut.symm.trans (cut?_bracketsText b bs rest)) (by simp)
      · next hcut =>
        obtain ⟨rfl, rfl⟩ :=
          Prod.mk.inj (Option.some.inj (hcut.symm.trans (cut?_bracketsText b bs rest)))
        rw [bracketSegment_eq_ok_iff.mpr b.denotes, ih]
        rfl

/-! ## Parts -/

/-- A part of a path: a name and brackets behind it.  The name can be missing, or the brackets can
be, but not both. -/
structure Part where
  name : List Char
  brackets : List Bracket
  isName : ∀ c ∈ name, isNameChar c = true
  nonempty : name ≠ [] ∨ brackets ≠ []

namespace Part

/-- A part as it is written. -/
def text (p : Part) : List Char := p.name ++ bracketsText p.brackets

/-- The steps of a part. -/
def path (p : Part) : Path := nameSegments p.name ++ p.brackets.map Bracket.segment

/-- No part is written as nothing. -/
theorem text_ne_nil (p : Part) : p.text ≠ [] := by
  intro h
  obtain ⟨hname, hbrackets⟩ := List.append_eq_nil_iff.mp h
  rcases p.nonempty with hne | hne
  · exact hne hname
  · obtain ⟨b, bs, hbs⟩ := List.exists_cons_of_ne_nil hne
    rw [hbs] at hbrackets
    exact List.cons_ne_nil _ _ hbrackets

/-- Every part has a step. -/
theorem path_ne_nil (p : Part) : p.path ≠ [] := by
  intro h
  obtain ⟨hname, hbrackets⟩ := List.append_eq_nil_iff.mp h
  rcases p.nonempty with hne | hne
  · rw [nameSegments, if_neg hne] at hname
    exact List.cons_ne_nil _ _ hname
  · exact hne (List.map_eq_nil_iff.mp hbrackets)

end Part

/-- Whether no part goes on into a text: it is empty or begins with a point. -/
def EndsPart : List Char → Prop
  | [] => True
  | c :: _ => c = '.'

theorem endsPart_nil : EndsPart [] := trivial

theorem endsPart_point (cs : List Char) : EndsPart ('.' :: cs) := rfl

/-- Behind a name stands what belongs to no name. -/
theorem head?_bracketsText_append (bs : List Bracket) {rest : List Char} (h : EndsPart rest) :
    ∀ c ∈ (bracketsText bs ++ rest).head?, isNameChar c = false ∧ c ≠ ']' := by
  intro c hc
  cases bs with
  | nil =>
    cases rest with
    | nil => exact absurd hc (by simp)
    | cons d rest =>
      obtain rfl := Option.some.inj hc
      obtain rfl : d = '.' := h
      decide
  | cons b bs =>
    rw [bracketsText_cons_append] at hc
    obtain rfl := Option.some.inj hc
    decide

/-- A part is read to the end of its name, and no further. -/
theorem takeWhile_part (p : Part) {rest : List Char} (h : EndsPart rest) :
    (p.text ++ rest).takeWhile isNameChar = p.name ∧
      (p.text ++ rest).dropWhile isNameChar = bracketsText p.brackets ++ rest := by
  have hstop : ∀ c ∈ (bracketsText p.brackets ++ rest).head?, isNameChar c = false :=
    fun c hc => (head?_bracketsText_append p.brackets h c hc).1
  rw [Part.text, List.append_assoc]
  exact ⟨Text.takeWhile_append_of_forall p.isName hstop,
    Text.dropWhile_append_of_forall p.isName hstop⟩

/-- What ends a part begins no brackets. -/
theorem EndsPart.head?_ne {rest : List Char} (h : EndsPart rest) : rest.head? ≠ some '[' := by
  cases rest with
  | nil => simp
  | cons c rest =>
    obtain rfl : c = '.' := h
    simp

/-- The brackets of a part are read to their end. -/
theorem brackets_part (p : Part) {rest : List Char} (h : EndsPart rest) :
    brackets (bracketsText p.brackets ++ rest) = .ok (p.brackets.map Bracket.segment, rest) :=
  brackets_eq_ok_iff.mpr ⟨p.brackets, rfl, rfl, h.head?_ne⟩

/-- Two rows of brackets that begin one text, and end where no brackets follow, are the same. -/
theorem bracketsText_append_inj {bs bs' : List Bracket} {rest rest' : List Char}
    (h : rest.head? ≠ some '[') (h' : rest'.head? ≠ some '[')
    (heq : bracketsText bs ++ rest = bracketsText bs' ++ rest') : bs = bs' ∧ rest = rest' := by
  induction bs generalizing bs' with
  | nil =>
    cases bs' with
    | nil => exact ⟨rfl, heq⟩
    | cons b' bs' =>
      rw [bracketsText_cons_append] at heq
      exact absurd (congrArg List.head? heq) h
  | cons b bs ih =>
    cases bs' with
    | nil =>
      rw [bracketsText_cons_append] at heq
      exact absurd (congrArg List.head? heq).symm h'
    | cons b' bs' =>
      rw [bracketsText_cons_append, bracketsText_cons_append] at heq
      have hcut := congrArg (Text.cut? ']') (List.cons.inj heq).2
      rw [cut?_bracketsText, cut?_bracketsText] at hcut
      obtain ⟨hbody, hbehind⟩ := Prod.mk.inj (Option.some.inj hcut)
      obtain ⟨rfl, hrest⟩ := ih hbehind
      exact ⟨by rw [Bracket.eq_of_body hbody], hrest⟩

/-- **Two parts that begin one text, and end where a part can end, are the same.** -/
theorem Part.append_inj {p p' : Part} {rest rest' : List Char} (h : EndsPart rest)
    (h' : EndsPart rest') (heq : p.text ++ rest = p'.text ++ rest') : p = p' ∧ rest = rest' := by
  obtain ⟨hname, hbehind⟩ := takeWhile_part p h
  obtain ⟨hname', hbehind'⟩ := takeWhile_part p' h'
  rw [heq] at hname hbehind
  obtain ⟨hbrackets, hrest⟩ := bracketsText_append_inj h.head?_ne h'.head?_ne
    (hbehind.symm.trans hbehind')
  refine ⟨?_, hrest⟩
  cases p with
  | mk name brackets _ _ =>
    cases p' with
    | mk name' brackets' _ _ =>
      obtain rfl : name = name' := hname.symm.trans hname'
      obtain rfl : brackets = brackets' := hbrackets
      rfl

/-! ## Scanning part by part -/

variable {total : Nat} {cs : List Char}

/-- How a scan goes on behind a name and brackets with the given steps. -/
def goOn (total : Nat) (path : Path) (rest : List Char) : Except PathError Path :=
  if path = [] then .error .emptySegment
  else match rest with
    | [] => .ok path
    | ['.'] => .error .emptySegment
    | '.' :: c :: more => (parts total (c :: more)).map (path ++ ·)
    | c :: more => .error (unexpected total c more)

/-- A scan reads a name and brackets, and goes on from there. -/
theorem parts_eq_goOn {steps : Path} {rest : List Char}
    (hclose : (cs.dropWhile isNameChar).head? ≠ some ']')
    (hbrackets : brackets (cs.dropWhile isNameChar) = .ok (steps, rest)) :
    parts total cs = goOn total (nameSegments (cs.takeWhile isNameChar) ++ steps) rest := by
  rw [parts.eq_def]
  split
  · next heq => exact absurd (by rw [heq]; rfl) hclose
  · split
    · next heq => exact absurd (heq.symm.trans hbrackets) (by simp)
    · next p heq =>
      obtain rfl := Except.ok.inj (heq.symm.trans hbrackets)
      dsimp only
      split
      · next hnil => rw [goOn.eq_def, if_pos hnil]
      · next hne => rw [goOn, if_neg hne]
      · next hne => rw [goOn, if_neg hne]
      · next hne => rw [goOn, if_neg hne]
      · next hlast hpoint hne =>
        rw [goOn, if_neg hne]
        · exact hlast
        · exact hpoint

/-- A scan that succeeds has read a name and brackets. -/
theorem exists_brackets_of_parts {path : Path} (h : parts total cs = .ok path) :
    (cs.dropWhile isNameChar).head? ≠ some ']' ∧
      ∃ steps rest, brackets (cs.dropWhile isNameChar) = .ok (steps, rest) := by
  rw [parts.eq_def] at h
  split at h
  · exact absurd h (by simp)
  · next hclose =>
    split at h
    · exact absurd h (by simp)
    · next p heq =>
      refine ⟨fun hhead => ?_, p.1, p.2, heq⟩
      obtain ⟨tail, htail⟩ := List.head?_eq_some_iff.mp hhead
      exact hclose tail htail

/-- A scan that goes on and succeeds is at the end, or behind a point that more parts follow. -/
theorem goOn_eq_ok_iff {path path' : Path} {rest : List Char} :
    goOn total path rest = .ok path' ↔ path ≠ [] ∧
      ((rest = [] ∧ path' = path) ∨ ∃ c more behind, rest = '.' :: c :: more ∧
        parts total (c :: more) = .ok behind ∧ path' = path ++ behind) := by
  constructor
  · intro h
    rw [goOn.eq_def] at h
    split at h
    · exact absurd h (by simp)
    · next hne =>
      refine ⟨hne, ?_⟩
      split at h
      · exact .inl ⟨rfl, (Except.ok.inj h).symm⟩
      · exact absurd h (by simp)
      · next c more =>
        cases hmore : parts total (c :: more) with
        | error e => exact absurd h (by simp [hmore, Except.map])
        | ok behind =>
          rw [hmore] at h
          exact .inr ⟨c, more, behind, rfl, hmore, (Except.ok.inj h).symm⟩
      · exact absurd h (by simp)
  · rintro ⟨hne, ⟨rfl, rfl⟩ | ⟨c, more, behind, rfl, hmore, rfl⟩⟩
    · rw [goOn, if_neg hne]
    · rw [goOn, if_neg hne, hmore]
      rfl

/-- **A part is scanned as one.** -/
theorem parts_append (total : Nat) (p : Part) {rest : List Char} (h : EndsPart rest) :
    parts total (p.text ++ rest) = goOn total p.path rest := by
  obtain ⟨hname, hbehind⟩ := takeWhile_part p h
  have hclose : ((p.text ++ rest).dropWhile isNameChar).head? ≠ some ']' := by
    rw [hbehind]
    exact fun hhead => (head?_bracketsText_append p.brackets h ']' hhead).2 rfl
  rw [parts_eq_goOn hclose (by rw [hbehind]; exact brackets_part p h), hname]
  rfl

/-- A name and brackets that have steps are a part, and no more brackets follow. -/
theorem exists_part_of_brackets {steps : Path} {rest : List Char}
    (hbrackets : brackets (cs.dropWhile isNameChar) = .ok (steps, rest))
    (hsteps : nameSegments (cs.takeWhile isNameChar) ++ steps ≠ []) :
    ∃ p : Part, p.name = cs.takeWhile isNameChar ∧ cs = p.text ++ rest ∧
      nameSegments (cs.takeWhile isNameChar) ++ steps = p.path ∧ rest.head? ≠ some '[' := by
  obtain ⟨bs, hbehind, rfl, hrest⟩ := brackets_eq_ok_iff.mp hbrackets
  have hnonempty : cs.takeWhile isNameChar ≠ [] ∨ bs ≠ [] := by
    rw [← not_and_or]
    rintro ⟨hname, hbs⟩
    refine hsteps ?_
    rw [hname, hbs]
    rfl
  refine ⟨⟨cs.takeWhile isNameChar, bs, fun c hc => List.mem_takeWhile_imp hc, hnonempty⟩, rfl,
    ?_, rfl, hrest⟩
  rw [Part.text, List.append_assoc, ← hbehind, List.takeWhile_append_dropWhile]

/-- **A scan that succeeds has scanned a part.** -/
theorem exists_part_of_parts {path : Path} (h : parts total cs = .ok path) :
    ∃ (p : Part) (rest : List Char), cs = p.text ++ rest ∧ goOn total p.path rest = .ok path := by
  obtain ⟨hclose, steps, rest, hbrackets⟩ := exists_brackets_of_parts h
  rw [parts_eq_goOn hclose hbrackets] at h
  obtain ⟨p, -, hcs, hpath, -⟩ := exists_part_of_brackets hbrackets (goOn_eq_ok_iff.mp h).1
  rw [hpath] at h
  exact ⟨p, rest, hcs, h⟩

/-! ## Spellings -/

/-- Parts as they are written, with points between them. -/
def spelling (ps : List Part) : List Char := ['.'].intercalate (ps.map Part.text)

/-- The steps of parts. -/
def pathOf (ps : List Part) : Path := ps.flatMap Part.path

theorem pathOf_cons (p : Part) (ps : List Part) : pathOf (p :: ps) = p.path ++ pathOf ps :=
  List.flatMap_cons

theorem pathOf_append (ps qs : List Part) : pathOf (ps ++ qs) = pathOf ps ++ pathOf qs :=
  List.flatMap_append

@[simp] theorem spelling_singleton (p : Part) : spelling [p] = p.text :=
  List.intercalate_singleton

/-- What is written behind a part that others follow. -/
def behindPart : List Part → List Char
  | [] => []
  | p :: ps => '.' :: spelling (p :: ps)

theorem spelling_cons (p : Part) (ps : List Part) : spelling (p :: ps) = p.text ++ behindPart ps := by
  cases ps with
  | nil => rw [spelling_singleton, behindPart, List.append_nil]
  | cons q ps =>
    rw [spelling, List.map_cons, List.map_cons, List.intercalate_cons_cons, List.append_assoc]
    rfl

theorem endsPart_behindPart (ps : List Part) : EndsPart (behindPart ps) := by
  cases ps with
  | nil => exact endsPart_nil
  | cons p ps => exact endsPart_point _

/-- Only nothing is spelled as nothing. -/
theorem spelling_ne_nil {ps : List Part} (h : ps ≠ []) : spelling ps ≠ [] := by
  obtain ⟨p, ps, rfl⟩ := List.exists_cons_of_ne_nil h
  rw [spelling_cons]
  exact fun hnil => p.text_ne_nil (List.append_eq_nil_iff.mp hnil).1

/-- **The parts of a text are scanned exactly if it is spelled with them.** -/
theorem parts_eq_ok_iff {path : Path} :
    parts total cs = .ok path ↔ ∃ ps, ps ≠ [] ∧ cs = spelling ps ∧ path = pathOf ps := by
  constructor
  · intro h
    generalize hn : cs.length = n
    induction n using Nat.strongRecOn generalizing cs path with
    | ind n ih =>
      obtain ⟨p, rest, rfl, hgo⟩ := exists_part_of_parts h
      obtain ⟨-, ⟨rfl, rfl⟩ | ⟨c, more, behind, rfl, hmore, rfl⟩⟩ := goOn_eq_ok_iff.mp hgo
      · exact ⟨[p], by simp, by simp, by simp [pathOf]⟩
      · have hlt : (c :: more).length < n := by
          simp only [← hn, List.length_append, List.length_cons]
          omega
        obtain ⟨ps, hps, hcs, rfl⟩ := ih _ hlt hmore rfl
        obtain ⟨q, qs, rfl⟩ := List.exists_cons_of_ne_nil hps
        refine ⟨p :: q :: qs, by simp, ?_, rfl⟩
        rw [spelling_cons, behindPart, ← hcs]
  · rintro ⟨ps, hps, rfl, rfl⟩
    induction ps with
    | nil => exact absurd rfl hps
    | cons p ps ih =>
      rw [spelling_cons, parts_append total p (endsPart_behindPart ps), goOn_eq_ok_iff]
      refine ⟨p.path_ne_nil, ?_⟩
      cases ps with
      | nil => exact .inl ⟨rfl, by simp [pathOf]⟩
      | cons q ps =>
        obtain ⟨c, more, hcs⟩ :=
          List.exists_cons_of_ne_nil (spelling_ne_nil (List.cons_ne_nil q ps))
        have hmore := ih (List.cons_ne_nil q ps)
        rw [hcs] at hmore
        exact .inr ⟨c, more, _, by rw [behindPart, hcs], hmore, rfl⟩

/-- **No text has two spellings.** -/
theorem spelling_injective {ps qs : List Part} (h : spelling ps = spelling qs) : ps = qs := by
  induction ps generalizing qs with
  | nil =>
    by_contra hne
    exact spelling_ne_nil (Ne.symm hne) h.symm
  | cons p ps ih =>
    cases qs with
    | nil => exact absurd h (spelling_ne_nil (List.cons_ne_nil p ps))
    | cons q qs =>
      rw [spelling_cons, spelling_cons] at h
      obtain ⟨rfl, hbehind⟩ :=
        Part.append_inj (endsPart_behindPart ps) (endsPart_behindPart qs) h
      have htail : ps = qs := by
        cases ps with
        | nil =>
          cases qs with
          | nil => rfl
          | cons q qs => exact absurd hbehind (by simp [behindPart])
        | cons p' ps =>
          cases qs with
          | nil => exact absurd hbehind (by simp [behindPart])
          | cons q qs => exact ih (List.cons.inj hbehind).2
      rw [htail]

/-! ## Texts -/

/-- A text that is not blank or a point is scanned, without the blanks around it and without one
leading point. -/
theorem parse_eq_parts {text : String}
    (h : ¬(Text.trim text.toList = [] ∨ Text.trim text.toList = ['.'])) :
    parse text = parts (dropPoint (Text.trim text.toList)).length
      (dropPoint (Text.trim text.toList)) :=
  if_neg h

/-- Spelled parts are read, with blanks around them and a point in front or without. -/
theorem parse_of_spelling {text : String} {ps : List Part} (hps : ps ≠ [])
    (h : dropPoint (Text.trim text.toList) = spelling ps) : parse text = .ok (pathOf ps) := by
  have hroot : ¬(Text.trim text.toList = [] ∨ Text.trim text.toList = ['.']) := by
    rintro (heq | heq)
    · rw [heq] at h
      exact spelling_ne_nil hps h.symm
    · rw [heq] at h
      exact spelling_ne_nil hps h.symm
  rw [parse_eq_parts hroot]
  exact parts_eq_ok_iff.mpr ⟨ps, hps, h, rfl⟩

/-- A path that is not empty is read off spelled parts. -/
theorem exists_spelling_of_parse {text : String} {path : Path} (h : parse text = .ok path)
    (hpath : path ≠ []) :
    ∃ ps, ps ≠ [] ∧ dropPoint (Text.trim text.toList) = spelling ps ∧ path = pathOf ps := by
  by_cases hroot : Text.trim text.toList = [] ∨ Text.trim text.toList = ['.']
  · have hempty : parse text = .ok [] := if_pos hroot
    exact absurd (Except.ok.inj (h.symm.trans hempty)) hpath
  · rw [parse_eq_parts hroot] at h
    exact parts_eq_ok_iff.mp h

/-- **A text is a path exactly if it is spelled as one.**  A text of blanks, or of a single point
between blanks, is the empty path.  Every other text, without the blanks around it and without one
leading point, is either the spelling of parts, of no others than these, and then it is the path of
their steps; or it is no spelling, and then it is refused. -/
theorem parse_eq_ok_iff_spelling (text : String) :
    let body := Text.trim text.toList
    (body = [] ∨ body = ['.'] → parse text = .ok []) ∧
    (¬(body = [] ∨ body = ['.']) →
      (∀ path, parse text = .ok path ↔
        ∃ ps, ps ≠ [] ∧ dropPoint body = spelling ps ∧ path = pathOf ps) ∧
      (∀ ps qs, dropPoint body = spelling ps → dropPoint body = spelling qs → ps = qs) ∧
      ((∀ ps, ps ≠ [] → dropPoint body ≠ spelling ps) → ∃ e, parse text = .error e)) := by
  intro body
  refine ⟨fun hroot => if_pos hroot, fun hroot => ?_⟩
  have hparse := parse_eq_parts hroot
  refine ⟨fun path => by rw [hparse, parts_eq_ok_iff],
    fun ps qs hps hqs => spelling_injective (hps.symm.trans hqs), fun hnone => ?_⟩
  cases hresult : parse text with
  | error e => exact ⟨e, rfl⟩
  | ok path =>
    obtain ⟨ps, hps, hspelling, -⟩ := parts_eq_ok_iff.mp (hparse.symm.trans hresult)
    exact absurd hspelling (hnone ps hps)

/-- Blanks belong to a name, but not to a position. -/
theorem parse_spelling_blanks :
    parse " . " = .ok [] ∧
      parse " .a b[ +07 ][*].c " = .ok [.field "a b", .index 7, .wildcard, .field "c"] := by
  have hposition : Denotes (Text.trim " +07 ".toList) (.index 7) :=
    bracketSegment_eq_ok_iff.mp (by decide)
  have hstar : Denotes (Text.trim ['*']) .wildcard := bracketSegment_eq_ok_iff.mp (by decide)
  have hspelled := (parse_eq_ok_iff_spelling " .a b[ +07 ][*].c ").2 (by decide)
  refine ⟨(parse_eq_ok_iff_spelling " . ").1 (by decide), (hspelled.1 _).mpr ?_⟩
  exact ⟨[⟨"a b".toList, [⟨" +07 ".toList, .index 7, by decide, hposition⟩,
      ⟨['*'], .wildcard, by decide, hstar⟩], List.all_eq_true.mp rfl, .inl (by simp)⟩,
    ⟨['c'], [], List.all_eq_true.mp rfl, .inl (by simp)⟩], by simp, rfl, rfl⟩

end Path
end DocPipe
