import DocPipe.Proofs.Path.Canonical

/-!
# Where a path goes wrong

A character that may not stand where it does is reported with a position.  There are two places
where that happens: a closing bracket in a name, and, behind brackets, anything but a point or more
brackets.  `StopsAt` describes them by the text in front, and says nothing of what comes after the
character; a scan stops there exactly if the text is of this form (`parts_eq_unexpected_iff`).

From this follow the two properties that make the place of the character the first one at which
something is wrong.  The text in front of it can be finished, for instance by the name `x`.  With
the character behind it, it cannot, other than by blanks that are trimmed off together with it.

## What the position counts from

The position is that of the character in what is scanned, which is the text without its blanks and
without one leading point.  The blanks and the point in front, its `margin`, are passed over, so in
the text itself the character stands that much further behind (`place_of_unexpectedCharacter`).  At
the position itself there is something else, as a rule, as soon as there is a margin
(`position_in_margin`).
-/

namespace DocPipe
namespace Path

open Text (isBlank)

variable {total position : Nat} {before cs rest : List Char} {c : Char}

/-! ## Parts behind one another -/

/-- Parts as they are written, with a point behind each. -/
def finishedParts (ps : List Part) : List Char := ps.flatMap fun p => p.text ++ ['.']

theorem finishedParts_cons_append (p : Part) (ps : List Part) (rest : List Char) :
    finishedParts (p :: ps) ++ rest = p.text ++ '.' :: (finishedParts ps ++ rest) := by
  simp [finishedParts]

/-- One more part behind finished ones completes a spelling. -/
theorem finishedParts_append_text (ps : List Part) (p : Part) :
    finishedParts ps ++ p.text = spelling (ps ++ [p]) := by
  induction ps with
  | nil => exact (spelling_singleton p).symm
  | cons q ps ih =>
    have hspelling : spelling ([q] ++ (ps ++ [p])) = spelling [q] ++ '.' :: spelling (ps ++ [p]) :=
      spelling_append (by simp) (by simp)
    rw [finishedParts_cons_append, ih, List.cons_append]
    rw [List.singleton_append, spelling_singleton] at hspelling
    exact hspelling.symm

/-- A scan passes over finished parts, if something follows. -/
theorem parts_finishedParts_append (ps : List Part) (hcs : cs ≠ []) :
    parts total (finishedParts ps ++ cs) = (parts total cs).map (pathOf ps ++ ·) := by
  induction ps with
  | nil =>
    show parts total cs = (parts total cs).map id
    cases parts total cs <;> rfl
  | cons p ps ih =>
    obtain ⟨d, more, hmore⟩ := List.exists_cons_of_ne_nil
      (List.append_ne_nil_of_right_ne_nil (finishedParts ps) hcs)
    rw [finishedParts_cons_append, parts_append total p (endsPart_point _), hmore, goOn,
      if_neg p.path_ne_nil, ← hmore, ih]
    cases parts total cs with
    | error e => rfl
    | ok path =>
      show Except.ok (p.path ++ (pathOf ps ++ path)) = Except.ok (pathOf (p :: ps) ++ path)
      rw [pathOf_cons, List.append_assoc]

/-! ## The places at which a scan stops -/

/-- The characters at which a scan stops that has found nothing wrong in the text in front. -/
inductive StopsAt : List Char → Char → Prop where
  /-- A closing bracket, where a name is read. -/
  | name (ps : List Part) {name : List Char} (h : ∀ c ∈ name, isNameChar c = true) :
      StopsAt (finishedParts ps ++ name) ']'
  /-- What neither ends a part nor goes on with it, behind brackets. -/
  | brackets (ps : List Part) {p : Part} (h : p.brackets ≠ []) {c : Char} (hpoint : c ≠ '.')
      (hopen : c ≠ '[') : StopsAt (finishedParts ps ++ p.text) c

/-- One more finished part in front makes no difference. -/
theorem StopsAt.behind (h : StopsAt before c) (p : Part) : StopsAt (p.text ++ '.' :: before) c := by
  cases h with
  | name ps h =>
    rw [← finishedParts_cons_append]
    exact .name (p :: ps) h
  | brackets ps h hpoint hopen =>
    rw [← finishedParts_cons_append]
    exact .brackets (p :: ps) h hpoint hopen

/-- A closing bracket in a name is refused. -/
theorem parts_closing {name : List Char} (hname : ∀ c ∈ name, isNameChar c = true) :
    parts total (name ++ ']' :: rest) = .error (unexpected total ']' rest) := by
  have hdrop : (name ++ ']' :: rest).dropWhile isNameChar = ']' :: rest :=
    List.dropWhile_append_of_pos hname
  rw [parts.eq_def]
  split
  · next heq =>
    rw [hdrop] at heq
    rw [(List.cons.inj heq).2]
  · next hother => exact absurd hdrop (hother rest)

/-- A part with brackets is scanned as one, unless more brackets follow. -/
theorem parts_append_of_brackets {p : Part} (hp : p.brackets ≠ [])
    (hrest : rest.head? ≠ some '[') : parts total (p.text ++ rest) = goOn total p.path rest := by
  obtain ⟨b, bs, hbs⟩ := List.exists_cons_of_ne_nil hp
  have htext : p.text ++ rest = p.name ++ (bracketsText p.brackets ++ rest) :=
    List.append_assoc _ _ _
  have hopening : bracketsText p.brackets ++ rest =
      '[' :: (b.body ++ ']' :: (bracketsText bs ++ rest)) := by
    rw [hbs, bracketsText_cons_append]
  have hstop : ∀ d ∈ (bracketsText p.brackets ++ rest).head?, isNameChar d = false := by
    rw [hopening]
    exact fun d hd => Option.some.inj hd ▸ rfl
  have hname : (p.text ++ rest).takeWhile isNameChar = p.name := by
    rw [htext, Text.takeWhile_append_of_forall p.isName hstop]
  have hbehind : (p.text ++ rest).dropWhile isNameChar = bracketsText p.brackets ++ rest := by
    rw [htext, Text.dropWhile_append_of_forall p.isName hstop]
  have hclose : ((p.text ++ rest).dropWhile isNameChar).head? ≠ some ']' := by
    rw [hbehind, hopening]
    simp
  rw [parts_eq_goOn hclose (by rw [hbehind]; exact brackets_eq_ok_iff.mpr ⟨_, rfl, rfl, hrest⟩),
    hname]
  rfl

/-- **Where it may stop, a scan does stop**, whatever comes behind the character. -/
theorem StopsAt.parts_eq (h : StopsAt before c) (total : Nat) (after : List Char) :
    parts total (before ++ c :: after) = .error (unexpected total c after) := by
  cases h with
  | @name ps name h =>
    rw [List.append_assoc, parts_finishedParts_append ps (by simp), parts_closing h]
    rfl
  | @brackets ps p h _ hpoint hopen =>
    have hgo : goOn total p.path (c :: after) = .error (unexpected total c after) := by
      rw [goOn, if_neg p.path_ne_nil]
      · exact fun hc _ => hpoint hc
      · exact fun _ _ hc _ => hpoint hc
    rw [List.append_assoc, parts_finishedParts_append ps (by simp),
      parts_append_of_brackets h (by simpa using hopen), hgo]
    rfl

/-! ## Nothing else is refused for a character -/

/-- Brackets are never refused for a character. -/
theorem brackets_ne_unexpected : brackets cs ≠ .error (.unexpectedCharacter c position) := by
  fun_induction brackets cs with
  | case1 => simp
  | case2 _ body _ _ e he =>
    rintro ⟨⟩
    unfold bracketSegment at he
    dsimp only at he
    split at he
    · exact absurd he (by simp)
    · split at he <;> exact absurd he (by simp)
  | case3 _ _ tail _ _ _ ih =>
    intro h
    cases hb : brackets tail with
    | error e =>
      rw [hb] at h ih
      exact ih (congrArg Except.error (Except.error.inj h))
    | ok p => exact absurd h (by simp [hb, Except.map])
  | case4 => simp

/-- A scan is refused for what its brackets are. -/
theorem parts_of_brackets_error {e : PathError}
    (hclose : (cs.dropWhile isNameChar).head? ≠ some ']')
    (hbrackets : brackets (cs.dropWhile isNameChar) = .error e) : parts total cs = .error e := by
  rw [parts.eq_def]
  split
  · next heq => exact absurd (by rw [heq]; rfl) hclose
  · split
    · next heq => rw [Except.error.inj (heq.symm.trans hbrackets)]
    · next heq => exact absurd (heq.symm.trans hbrackets) (by simp)

/-- A name ends at a point, at brackets, or where it is refused. -/
theorem brackets_ne_nil_of_rest {p : Part} (hname : p.name = cs.takeWhile isNameChar)
    (hcs : cs = p.text ++ c :: rest) (hclose : (cs.dropWhile isNameChar).head? ≠ some ']')
    (hpoint : c ≠ '.') (hopen : c ≠ '[') : p.brackets ≠ [] := by
  intro hnone
  have htext : p.text = cs.takeWhile isNameChar := by
    rw [Part.text, hnone, bracketsText_nil, List.append_nil, hname]
  have hbehind : cs.dropWhile isNameChar = c :: rest := by
    have hsplit := List.takeWhile_append_dropWhile (p := isNameChar) (l := cs)
    rw [← htext] at hsplit
    exact List.append_cancel_left (hsplit.trans hcs)
  have hstop := List.head?_dropWhile_not isNameChar cs
  rw [hbehind] at hstop hclose
  refine Bool.false_ne_true (hstop.symm.trans (isNameChar_iff.mpr ⟨hpoint, hopen, ?_⟩))
  rintro rfl
  exact hclose rfl

/-- A scan that goes on is refused for a character behind a point, or for the next one. -/
theorem cases_of_goOn_unexpected {path : Path}
    (h : goOn total path rest = .error (.unexpectedCharacter c position)) :
    path ≠ [] ∧
      ((∃ d more, rest = '.' :: d :: more ∧
          parts total (d :: more) = .error (.unexpectedCharacter c position)) ∨
        ∃ more, rest = c :: more ∧ c ≠ '.' ∧ position = total - (more.length + 1)) := by
  rw [goOn.eq_def] at h
  split at h
  · exact absurd h (by simp)
  · next hne =>
    refine ⟨hne, ?_⟩
    split at h
    · exact absurd h (by simp)
    · exact absurd h (by simp)
    · next d more =>
      refine .inl ⟨d, more, rfl, ?_⟩
      cases hmore : parts total (d :: more) with
      | error e =>
        rw [hmore] at h
        exact congrArg Except.error (Except.error.inj h)
      | ok behind => exact absurd h (by simp [hmore, Except.map])
    · next d more hlast hpoint =>
      obtain ⟨rfl, rfl⟩ := PathError.unexpectedCharacter.inj (Except.error.inj h)
      refine .inr ⟨more, rfl, ?_, rfl⟩
      rintro rfl
      cases more with
      | nil => exact hlast rfl rfl
      | cons e more => exact hpoint e more rfl rfl

/-- **A scan is refused for a character exactly where it may stop.** -/
theorem parts_eq_unexpected_iff :
    parts total cs = .error (.unexpectedCharacter c position) ↔
      ∃ before after, cs = before ++ c :: after ∧ StopsAt before c ∧
        position = total - (after.length + 1) := by
  constructor
  · intro h
    -- behind a point the scan begins anew with a shorter text
    generalize hn : cs.length = n
    induction n using Nat.strongRecOn generalizing cs with
    | ind n ih =>
      by_cases hclose : (cs.dropWhile isNameChar).head? = some ']'
      · obtain ⟨after, hafter⟩ := List.head?_eq_some_iff.mp hclose
        have hname : ∀ d ∈ cs.takeWhile isNameChar, isNameChar d = true :=
          fun d hd => List.mem_takeWhile_imp hd
        have hcs : cs = cs.takeWhile isNameChar ++ ']' :: after := by
          rw [← hafter, List.takeWhile_append_dropWhile]
        rw [hcs, parts_closing hname] at h
        obtain ⟨rfl, rfl⟩ := PathError.unexpectedCharacter.inj (Except.error.inj h)
        exact ⟨_, after, hcs, .name [] hname, rfl⟩
      · cases hbrackets : brackets (cs.dropWhile isNameChar) with
        | error e =>
          rw [parts_of_brackets_error hclose hbrackets] at h
          rw [Except.error.inj h] at hbrackets
          exact absurd hbrackets brackets_ne_unexpected
        | ok result =>
          obtain ⟨steps, rest⟩ := result
          rw [parts_eq_goOn hclose hbrackets] at h
          obtain ⟨hsteps, hrest⟩ := cases_of_goOn_unexpected h
          obtain ⟨p, hname, hcs, -, hopen⟩ := exists_part_of_brackets hbrackets hsteps
          rcases hrest with ⟨d, more, rfl, hmore⟩ | ⟨after, rfl, hpoint, rfl⟩
          · have hlt : (d :: more).length < n := by
              simp only [← hn, hcs, List.length_append, List.length_cons]
              omega
            obtain ⟨before, after, hbefore, hstop, rfl⟩ := ih _ hlt hmore rfl
            refine ⟨p.text ++ '.' :: before, after, ?_, hstop.behind p, rfl⟩
            rw [hcs, hbefore, List.append_assoc, List.cons_append]
          · have hopen : c ≠ '[' := by simpa using hopen
            have hp := brackets_ne_nil_of_rest hname hcs hclose hpoint hopen
            exact ⟨p.text, after, hcs, .brackets [] hp hpoint hopen, rfl⟩
  · rintro ⟨before, after, rfl, hstop, rfl⟩
    exact hstop.parts_eq total after

/-! ## The text in front can be finished -/

/-- The part that is the name `x`, behind the characters of a name. -/
def Part.finishing (name : List Char) (h : ∀ c ∈ name, isNameChar c = true) : Part where
  name := name ++ ['x']
  brackets := []
  isName := List.forall_mem_append.mpr ⟨h, List.forall_mem_singleton.mpr rfl⟩
  nonempty := .inl (List.append_ne_nil_of_right_ne_nil name (List.cons_ne_nil _ _))

theorem Part.text_finishing (name : List Char) (h : ∀ c ∈ name, isNameChar c = true) :
    (Part.finishing name h).text = name ++ ['x'] := List.append_nil _

/-- **What stands in front of the place where a scan stops begins a spelling.**  Behind brackets a
point has to come before the name. -/
theorem StopsAt.exists_spelling (h : StopsAt before c) :
    ∃ more ps, ps ≠ [] ∧ before ++ (more ++ ['x']) = spelling ps ∧ (before = [] → more = []) := by
  cases h with
  | @name ps name h =>
    refine ⟨[], ps ++ [.finishing name h], by simp, ?_, fun _ => rfl⟩
    rw [← finishedParts_append_text, Part.text_finishing, List.append_assoc, List.nil_append]
  | @brackets ps p _ _ _ _ =>
    refine ⟨['.'], (ps ++ [p]) ++ [.finishing [] (List.forall_mem_nil _)], by simp, ?_, ?_⟩
    · rw [spelling_append (by simp) (by simp), spelling_singleton, Part.text_finishing,
        ← finishedParts_append_text]
      rfl
    · exact fun hnil => absurd (List.append_eq_nil_iff.mp hnil).2 p.text_ne_nil

/-! ## What is passed over in front -/

/-- The point that is dropped in front of a path, if there is one. -/
def leadingPoint : List Char → List Char
  | '.' :: _ => ['.']
  | _ => []

/-- The blanks in front of a path, and the point behind them. -/
def margin (cs : List Char) : List Char := cs.takeWhile isBlank ++ leadingPoint (Text.trim cs)

theorem leadingPoint_of_ne (h : cs.head? ≠ some '.') : leadingPoint cs = [] := by
  rw [leadingPoint]
  rintro cs rfl
  exact h rfl

theorem dropPoint_of_head?_ne (h : cs.head? ≠ some '.') : dropPoint cs = cs := by
  cases cs with
  | nil => rfl
  | cons c cs => exact dropPoint_of_ne (fun hc => h (congrArg some hc)) cs

theorem leadingPoint_append_dropPoint (cs : List Char) : leadingPoint cs ++ dropPoint cs = cs := by
  by_cases h : cs.head? = some '.'
  · obtain ⟨rest, rfl⟩ := List.head?_eq_some_iff.mp h
    rfl
  · rw [leadingPoint_of_ne h, dropPoint_of_head?_ne h, List.nil_append]

/-- A text is what is scanned of it, behind its margin and in front of blanks. -/
theorem exists_eq_margin_append (cs : List Char) :
    ∃ r, (∀ c ∈ r, isBlank c = true) ∧ cs = margin cs ++ (dropPoint (Text.trim cs) ++ r) := by
  obtain ⟨r, hr, hcs⟩ := Text.exists_eq_takeWhile_append_trim cs
  refine ⟨r, hr, ?_⟩
  rw [margin, List.append_assoc, ← List.append_assoc (leadingPoint _),
    leadingPoint_append_dropPoint]
  exact hcs

/-- **Behind the margin of a text, another can be scanned in its place.**  It must not end with a
blank, and if it begins otherwise than what it stands for, then with what no margin takes up. -/
theorem dropPoint_trim_margin_append {w r : List Char} (hne : w ≠ [])
    (hfirst : ∀ d ∈ w.head?, (dropPoint (Text.trim cs)).head? = some d ∨
      (isBlank d = false ∧ d ≠ '.'))
    (hlast : ∀ d ∈ w.getLast?, isBlank d = false) (hr : ∀ d ∈ r, isBlank d = true) :
    dropPoint (Text.trim (margin cs ++ (w ++ r))) = w := by
  have hblanks : ∀ d ∈ cs.takeWhile isBlank, isBlank d = true :=
    fun d hd => List.mem_takeWhile_imp hd
  by_cases hpoint : (Text.trim cs).head? = some '.'
  · -- the point stands between the blanks and the new text, which may then begin with a blank
    obtain ⟨rest, hrest⟩ := List.head?_eq_some_iff.mp hpoint
    have htrimmed : Text.IsTrimmed ('.' :: w) := by
      constructor
      · intro d hd
        rw [← Option.some.inj hd]
        decide
      · intro d hd
        refine hlast d ?_
        rwa [← List.singleton_append, List.getLast?_append_of_ne_nil _ hne] at hd
    rw [margin, hrest, List.append_assoc]
    show dropPoint (Text.trim (cs.takeWhile isBlank ++ ('.' :: w ++ r))) = w
    rw [Text.trim_append hblanks hr htrimmed]
    rfl
  · have hstart : ∀ d ∈ w.head?, isBlank d = false ∧ d ≠ '.' := by
      intro d hd
      rcases hfirst d hd with hsame | hother
      · rw [dropPoint_of_head?_ne hpoint] at hsame
        refine ⟨(Text.isTrimmed_trim cs).first d hsame, ?_⟩
        rintro rfl
        exact hpoint hsame
      · exact hother
    have htrimmed : Text.IsTrimmed w := ⟨fun d hd => (hstart d hd).1, hlast⟩
    rw [margin, leadingPoint_of_ne hpoint, List.append_nil, Text.trim_append hblanks hr htrimmed]
    exact dropPoint_of_head?_ne fun hhead => (hstart '.' hhead).2 rfl

/-- Only a text that begins with a blank or a point has a margin. -/
theorem margin_eq_nil_iff : margin cs = [] ↔ ∀ d ∈ cs.head?, isBlank d = false ∧ d ≠ '.' := by
  rw [margin, List.append_eq_nil_iff]
  constructor
  · rintro ⟨hblanks, hpoint⟩ d hd
    have hfirst : ∀ d ∈ cs.head?, isBlank d = false := by
      intro d hd
      obtain ⟨rest, rfl⟩ := List.head?_eq_some_iff.mp hd
      by_contra hblank
      rw [List.takeWhile_cons_of_pos (eq_true_of_ne_false hblank)] at hblanks
      exact List.cons_ne_nil _ _ hblanks
    refine ⟨hfirst d hd, ?_⟩
    rintro rfl
    obtain ⟨rest, hrest⟩ := List.head?_eq_some_iff.mp ((Text.head?_trim_of_first hfirst).trans hd)
    rw [hrest] at hpoint
    exact List.cons_ne_nil _ _ hpoint
  · intro h
    have hfirst : ∀ d ∈ cs.head?, isBlank d = false := fun d hd => (h d hd).1
    constructor
    · cases cs with
      | nil => rfl
      | cons d rest => exact List.takeWhile_cons_of_neg (by simp [hfirst d rfl])
    · refine leadingPoint_of_ne ?_
      rw [Text.head?_trim_of_first hfirst]
      exact fun hhead => (h '.' hhead).2 rfl

/-! ## Texts -/

/-- **A text is refused for a character exactly where the scan of it may stop.** -/
theorem parse_eq_unexpected_iff {text : String} :
    parse text = .error (.unexpectedCharacter c position) ↔
      ∃ before after, dropPoint (Text.trim text.toList) = before ++ c :: after ∧
        StopsAt before c ∧ position = before.length := by
  have hlength : ∀ before after : List Char,
      (before ++ c :: after).length - (after.length + 1) = before.length := by
    intro before after
    simp
  by_cases hroot : Text.trim text.toList = [] ∨ Text.trim text.toList = ['.']
  · have hempty : parse text = .ok [] := if_pos hroot
    have hnil : dropPoint (Text.trim text.toList) = [] := by
      rcases hroot with hroot | hroot <;> rw [hroot] <;> rfl
    rw [hempty, hnil]
    simp
  · rw [parse_eq_parts hroot, parts_eq_unexpected_iff]
    constructor
    · rintro ⟨before, after, hscanned, hstop, rfl⟩
      exact ⟨before, after, hscanned, hstop, by rw [hscanned, hlength]⟩
    · rintro ⟨before, after, hscanned, hstop, rfl⟩
      exact ⟨before, after, hscanned, hstop, by rw [hscanned, hlength]⟩

section Stop

variable {after : List Char} (hscanned : dropPoint (Text.trim cs) = before ++ c :: after)
  (hstop : StopsAt before c)

include hscanned hstop

/-- The text in front of the place where a scan stops can be finished. -/
theorem exists_parse_append_of_stopsAt :
    ∃ more path, parse (String.ofList (margin cs ++ before ++ more)) = .ok path := by
  obtain ⟨more, ps, hps, hspelling, hmore⟩ := hstop.exists_spelling
  have hne : before ++ (more ++ ['x']) ≠ [] := by simp
  have hfirst : ∀ d ∈ (before ++ (more ++ ['x'])).head?,
      (dropPoint (Text.trim cs)).head? = some d ∨ (isBlank d = false ∧ d ≠ '.') := by
    intro d hd
    cases before with
    | nil =>
      rw [hmore rfl] at hd
      obtain rfl := Option.some.inj hd
      exact .inr (by decide)
    | cons b bs =>
      rw [hscanned]
      exact .inl hd
  have hlast : ∀ d ∈ (before ++ (more ++ ['x'])).getLast?, isBlank d = false := by
    intro d hd
    rw [← List.append_assoc, List.getLast?_concat] at hd
    rw [← Option.some.inj hd]
    decide
  have hscan := dropPoint_trim_margin_append hne hfirst hlast (List.forall_mem_nil _)
  rw [List.append_nil] at hscan
  refine ⟨more ++ ['x'], pathOf ps, parse_of_spelling hps ?_⟩
  rw [String.toList_ofList, List.append_assoc, hscan, hspelling]

/-- With the character it cannot, other than by blanks. -/
theorem isBlank_of_parse_append {more : List Char} {path : Path}
    (hparse : parse (String.ofList (margin cs ++ before ++ c :: more)) = .ok path) :
    ∀ d ∈ c :: more, isBlank d = true := by
  by_contra hsome
  -- what is left of the end without its blanks still begins with the character
  have hsplit : (c :: more).rdropWhile isBlank ++ (c :: more).rtakeWhile isBlank = c :: more :=
    List.rdropWhile_append_rtakeWhile
  have hkept : (c :: more).rdropWhile isBlank ≠ [] := fun hnil =>
    hsome (List.rdropWhile_eq_nil_iff.mp hnil)
  obtain ⟨kept, heq⟩ : ∃ kept, (c :: more).rdropWhile isBlank = c :: kept := by
    obtain ⟨d, kept, heq⟩ := List.exists_cons_of_ne_nil hkept
    rw [heq] at hsplit
    obtain ⟨rfl, -⟩ := List.cons.inj hsplit
    exact ⟨kept, heq⟩
  have hfirst : ∀ d ∈ (before ++ c :: kept).head?,
      (dropPoint (Text.trim cs)).head? = some d ∨ (isBlank d = false ∧ d ≠ '.') := by
    intro d hd
    rw [hscanned]
    cases before <;> exact .inl hd
  have hlast : ∀ d ∈ (before ++ c :: kept).getLast?, isBlank d = false := by
    intro d hd
    rw [List.getLast?_append_of_ne_nil _ (List.cons_ne_nil c kept), ← heq,
      List.getLast?_eq_some_getLast hkept] at hd
    rw [← Option.some.inj hd]
    exact Bool.eq_false_iff.mpr (List.rdropWhile_last_not _ _ hkept)
  have hscan := dropPoint_trim_margin_append (by simp) hfirst hlast
    fun d (hd : d ∈ (c :: more).rtakeWhile isBlank) => List.mem_rtakeWhile_imp hd
  rw [heq] at hsplit
  rw [List.append_assoc, hsplit] at hscan
  have herror : parse (String.ofList (margin cs ++ before ++ c :: more)) =
      .error (.unexpectedCharacter c before.length) := by
    refine parse_eq_unexpected_iff.mpr ⟨before, kept, ?_, hstop, rfl⟩
    rw [String.toList_ofList, List.append_assoc, hscan]
  exact absurd (herror.symm.trans hparse) (by simp)

end Stop

/-- **The character that a text is refused for stands at the reported position, behind the margin.**
This is the first place at which something is wrong: the text in front of it can be finished, and
with the character only by blanks, which do not count.  The reported position itself is this place
exactly if the text begins with neither a blank nor a point. -/
theorem place_of_unexpectedCharacter {text : String}
    (h : parse text = .error (.unexpectedCharacter c position)) :
    let place := (margin text.toList).length + position
    text.toList[place]? = some c ∧
    (∃ more path, parse (String.ofList (text.toList.take place ++ more)) = .ok path) ∧
    (∀ more path, parse (String.ofList (text.toList.take place ++ c :: more)) = .ok path →
      ∀ d ∈ c :: more, isBlank d = true) ∧
    (place = position ↔ ∀ d ∈ text.toList.head?, isBlank d = false ∧ d ≠ '.') := by
  intro place
  obtain ⟨before, after, hscanned, hstop, rfl⟩ := parse_eq_unexpected_iff.mp h
  obtain ⟨r, -, htext⟩ := exists_eq_margin_append text.toList
  have hlength : place = (margin text.toList ++ before).length := List.length_append.symm
  have hsplit : text.toList = (margin text.toList ++ before) ++ c :: (after ++ r) := by
    rw [hscanned] at htext
    rw [List.append_assoc]
    exact htext.trans (by rw [List.append_assoc, List.cons_append])
  have htake : text.toList.take place = margin text.toList ++ before := by
    rw [hlength]
    exact (congrArg (List.take _) hsplit).trans List.take_left
  refine ⟨?_, ?_, ?_, ?_⟩
  · have hat : (margin text.toList ++ before ++ c :: (after ++ r))[
        (margin text.toList ++ before).length]? = some c := by
      rw [List.getElem?_append_right (Nat.le_refl _), Nat.sub_self]
      rfl
    rw [hlength]
    exact (congrArg (fun cs : List Char => cs[_]?) hsplit).trans hat
  · rw [htake]
    exact exists_parse_append_of_stopsAt hscanned hstop
  · rw [htake]
    exact fun more path => isBlank_of_parse_append hscanned hstop
  · rw [← margin_eq_nil_iff, ← List.length_eq_zero_iff]
    omega

/-- A blank behind brackets is a character that may not stand there, unless nothing follows. -/
theorem place_of_unexpectedCharacter_blank :
    let text := " .rows[0] name"
    parse text = .error (.unexpectedCharacter ' ' 7) ∧ (margin text.toList).length = 2 ∧
      text.toList[9]? = some ' ' ∧
      (∃ more path, parse (String.ofList (text.toList.take 9 ++ more)) = .ok path) ∧
      parse (String.ofList (text.toList.take 9 ++ ' ' :: ['\t'])) = .ok [.field "rows", .index 0] ∧
      (∀ more path, parse (String.ofList (text.toList.take 9 ++ ' ' :: more)) = .ok path →
        ∀ d ∈ ' ' :: more, isBlank d = true) := by
  intro text
  have hparse : parse text = .error (.unexpectedCharacter ' ' 7) := by decide +kernel
  have hmargin : (margin text.toList).length = 2 := by decide
  obtain ⟨hat, hbegins, hends, -⟩ := place_of_unexpectedCharacter hparse
  rw [hmargin] at hat hbegins hends
  exact ⟨hparse, hmargin, hat, hbegins, by decide +kernel, hends⟩

/-- The reported position counts from behind the margin, so in the text it may be a place where
nothing is wrong. -/
theorem position_in_margin :
    parse " .a]" = .error (.unexpectedCharacter ']' 1) ∧ " .a]".toList[1]? = some '.' ∧
      " .a]".toList[3]? = some ']' := by
  have hparse : parse " .a]" = .error (.unexpectedCharacter ']' 1) := by decide +kernel
  exact ⟨hparse, rfl, rfl⟩

end Path
end DocPipe
