import DocPipe.Proofs.Path.Concatenation

/-!
# The canonical spelling of a path

A path can be written in many ways: with a leading point or without, with blanks around it and
inside brackets, with zeros and a plus sign in front of a position.  One of these ways needs no
thought.  Every name is written behind a point, the first one included, and every position and every
star between brackets, without a blank that was not there before.  `print` writes a path like this.

Reading takes back what `print` writes, and printing what has been read gives a text that reads
alike (`parse_print_of_isWritable`, `isWritable_of_parse`).  So `print` picks one text from among
those of a path, and no document tells a text of the path from the one that is picked.

## What can be written

Not every list of steps is the path of some text.  A position has to fit into a word, and a name
needs a character but must not have one that ends names.  Blanks are the subtle part: they belong to
a name wherever they stand, and yet the blanks around the whole text are dropped.  At the front they
are safe, since a point stands before the first name and only one point is dropped; at the end
nothing protects them.  So a name may begin with blanks, and end with them too unless it is the last
step of all.

## Steps and parts

The steps of a path are not the parts of its text, because brackets belong to the part of the name
in front of them.  The induction below therefore takes steps off the *end* of a path.  A name there
is a part of its own, and brackets melt into the last part of what is in front, as they do when two
texts are joined (`spelling_append`, `exists_spelling_melted`).
-/

namespace DocPipe

namespace Text

/-- Nothing is trimmed from a text without blanks at its ends. -/
theorem trim_of_isTrimmed {cs : List Char} (h : IsTrimmed cs) : trim cs = cs :=
  trim_eq_iff.mpr ⟨h, [], [], List.forall_mem_nil _, List.forall_mem_nil _, by simp⟩

end Text

namespace Path

/-! ## Printing -/

/-- A step as it is written canonically. -/
def stepText : Segment → List Char
  | .field name => '.' :: name.toList
  | .index i => '[' :: ((toString i).toList ++ [']'])
  | .wildcard => ['[', '*', ']']

/-- The steps of a path as they are written canonically. -/
def stepsText (path : Path) : List Char := path.flatMap stepText

/-- The canonical text of a path. -/
def print (path : Path) : String := String.ofList (stepsText path)

/-- Whether a step can be written. -/
def CanStand : Segment → Prop
  | .field name => name ≠ "" ∧ ∀ c ∈ name.toList, c ≠ '.' ∧ c ≠ '[' ∧ c ≠ ']'
  | .index i => i < wordBound
  | .wildcard => True

/-- Whether a path can be written: each of its steps can, and there is no blank at the end. -/
structure IsWritable (path : Path) : Prop where
  canStand : ∀ step ∈ path, CanStand step
  last : ∀ name, path.getLast? = some (.field name) →
    ∀ c ∈ name.toList.getLast?, Text.isBlank c = false

@[simp] theorem stepsText_nil : stepsText [] = [] := rfl

theorem stepsText_concat (path : Path) (step : Segment) :
    stepsText (path ++ [step]) = stepsText path ++ stepText step := by
  simp [stepsText]

theorem toList_print (path : Path) : (print path).toList = stepsText path := String.toList_ofList

/-- The characters of names are those that end no name. -/
theorem isNameChar_iff {c : Char} : isNameChar c = true ↔ c ≠ '.' ∧ c ≠ '[' ∧ c ≠ ']' := by
  simp [isNameChar, and_assoc]

/-! ## A step is a part -/

/-- The digits of a number. -/
theorem isDigit_of_mem_toString {i : Nat} {c : Char} (h : c ∈ (toString i).toList) :
    c.isDigit = true := by
  have htext : (toString i).toList = Nat.toDigits 10 i := Nat.toList_repr
  rw [htext] at h
  exact Nat.isDigit_of_mem_toDigits (by omega) (by omega) h

/-- A position that fits into a word, between brackets. -/
def Bracket.ofIndex (i : Nat) (h : i < wordBound) : Bracket where
  body := (toString i).toList
  segment := .index i
  closes_first hmem := absurd (isDigit_of_mem_toString hmem) (by decide)
  denotes := by
    have htrimmed : Text.IsTrimmed (toString i).toList :=
      ⟨fun c hc => Text.isBlank_of_isDigit (isDigit_of_mem_toString (List.mem_of_mem_head? hc)),
        fun c hc => Text.isBlank_of_isDigit (isDigit_of_mem_toString (List.mem_of_mem_getLast? hc))⟩
    rw [Text.trim_of_isTrimmed htrimmed]
    exact .position (wordOfText?_eq_some_iff.mp (wordOfText?_toString h))

/-- A star between brackets. -/
def Bracket.star : Bracket where
  body := ['*']
  segment := .wildcard
  closes_first := by decide
  denotes := bracketSegment_eq_ok_iff.mp (by decide)

/-- A part that is a single pair of brackets. -/
def Part.ofBracket (b : Bracket) : Part where
  name := []
  brackets := [b]
  isName := List.forall_mem_nil _
  nonempty := .inr (List.cons_ne_nil b [])

/-- A part that is a name. -/
def Part.ofName (name : String) (h : CanStand (.field name)) : Part where
  name := name.toList
  brackets := []
  isName c hc := isNameChar_iff.mpr (h.2 c hc)
  nonempty := .inl fun hnil => h.1 (String.toList_eq_nil_iff.mp hnil)

theorem Part.path_ofName (name : String) (h : CanStand (.field name)) :
    (Part.ofName name h).path = [.field name] := by
  have hne : name.toList ≠ [] := fun hnil => h.1 (String.toList_eq_nil_iff.mp hnil)
  simp [Part.path, Part.ofName, nameSegments, hne]

/-- **A step that can be written is the step of a part**, behind a point if the part is a name. -/
theorem exists_part_of_canStand {step : Segment} (h : CanStand step) :
    ∃ p : Part, p.path = [step] ∧
      (stepText step = '.' :: p.text ∨ (stepText step = p.text ∧ p.text.head? = some '[')) := by
  cases step with
  | field name =>
    refine ⟨.ofName name h, Part.path_ofName name h, .inl ?_⟩
    simp [stepText, Part.text, Part.ofName]
  | index i =>
    refine ⟨.ofBracket (.ofIndex i h), rfl, .inr ⟨?_, rfl⟩⟩
    simp [stepText, Part.text, Part.ofBracket, bracketsText, Bracket.text, Bracket.ofIndex]
  | wildcard => exact ⟨.ofBracket .star, rfl, .inr ⟨rfl, rfl⟩⟩

/-! ## Reading what has been printed -/

/-- Every step is written with characters, the first of which is not blank. -/
theorem exists_cons_stepText (step : Segment) :
    ∃ c cs, stepText step = c :: cs ∧ Text.isBlank c = false := by
  cases step with
  | field name => exact ⟨'.', _, rfl, by decide⟩
  | index i => exact ⟨'[', _, rfl, by decide⟩
  | wildcard => exact ⟨'[', _, rfl, by decide⟩

/-- **Without the leading point, a printed path is spelled with parts that have its steps.** -/
theorem exists_spelling_of_canStand {path : Path} (hpath : path ≠ [])
    (h : ∀ step ∈ path, CanStand step) :
    ∃ ps, ps ≠ [] ∧ dropPoint (stepsText path) = spelling ps ∧ pathOf ps = path := by
  induction path using List.reverseRecOn with
  | nil => exact absurd rfl hpath
  | append_singleton path step ih =>
    obtain ⟨hfront, hstep⟩ := List.forall_mem_append.mp h
    obtain ⟨p, hp, htext⟩ := exists_part_of_canStand (hstep step List.mem_cons_self)
    have hpathOf : pathOf [p] = [step] := by simp [pathOf, hp]
    rw [stepsText_concat]
    by_cases hne : path = []
    · refine ⟨[p], List.cons_ne_nil p [], ?_, by rw [hpathOf, hne, List.nil_append]⟩
      rw [hne, stepsText_nil, List.nil_append, spelling_singleton]
      rcases htext with htext | ⟨htext, hbracket⟩
      · rw [htext]
        rfl
      · obtain ⟨cs, hcs⟩ := List.head?_eq_some_iff.mp hbracket
        rw [htext, hcs]
        exact dropPoint_of_ne (by decide) cs
    · obtain ⟨ps, hps, hspelling, hsteps⟩ := ih hne hfront
      have hfrontText : stepsText path ≠ [] := by
        obtain ⟨first, rest, rfl⟩ := List.exists_cons_of_ne_nil hne
        obtain ⟨c, cs, hc, -⟩ := exists_cons_stepText first
        simp [stepsText, hc]
      rw [dropPoint_append hfrontText, hspelling]
      rcases htext with htext | ⟨htext, hbracket⟩
      · refine ⟨ps ++ [p], by simp, ?_, by rw [pathOf_append, hsteps, hpathOf]⟩
        rw [htext, spelling_append hps (List.cons_ne_nil p []), spelling_singleton]
      · rw [← spelling_singleton] at hbracket
        obtain ⟨rs, hrs, hmelted, hmeltedPath⟩ := exists_spelling_melted hps hbracket
        refine ⟨rs, hrs, ?_, by rw [hmeltedPath, hsteps, hpathOf]⟩
        rw [hmelted, spelling_singleton, htext]

/-- Nothing is trimmed from a printed path. -/
theorem IsWritable.isTrimmed_stepsText {path : Path} (h : IsWritable path) :
    Text.IsTrimmed (stepsText path) := by
  constructor
  · intro c hc
    cases path with
    | nil => exact absurd hc (by simp)
    | cons step path =>
      obtain ⟨d, cs, hd, hblank⟩ := exists_cons_stepText step
      rw [stepsText, List.flatMap_cons, hd] at hc
      obtain rfl := Option.some.inj hc
      exact hblank
  · intro c hc
    rcases List.eq_nil_or_concat' path with rfl | ⟨path, step, rfl⟩
    · exact absurd hc (by simp)
    · obtain ⟨d, cs, hd, -⟩ := exists_cons_stepText step
      rw [stepsText_concat, List.getLast?_append_of_ne_nil _ (by simp [hd])] at hc
      cases step with
      | field name =>
        have hname : CanStand (.field name) := h.canStand _ (by simp)
        have hne : name.toList ≠ [] := fun hnil => hname.1 (String.toList_eq_nil_iff.mp hnil)
        refine h.last name (by simp) c ?_
        rwa [stepText, ← List.singleton_append, List.getLast?_append_of_ne_nil _ hne] at hc
      | index i =>
        rw [stepText, ← List.cons_append, List.getLast?_concat] at hc
        obtain rfl := Option.some.inj hc
        decide
      | wildcard =>
        obtain rfl := Option.some.inj hc
        decide

/-- A text of blanks is the empty path. -/
theorem parse_of_trim_eq_nil {text : String} (h : Text.trim text.toList = []) :
    parse text = .ok [] :=
  if_pos (.inl h)

/-- **A path that can be written is read back from its canonical text.** -/
theorem parse_print_of_isWritable {path : Path} (h : IsWritable path) :
    parse (print path) = .ok path := by
  have htrim : Text.trim (print path).toList = stepsText path := by
    rw [toList_print, Text.trim_of_isTrimmed h.isTrimmed_stepsText]
  by_cases hpath : path = []
  · subst hpath
    exact parse_of_trim_eq_nil htrim
  · obtain ⟨ps, hps, hspelling, hsteps⟩ := exists_spelling_of_canStand hpath h.canStand
    rw [parse_of_spelling hps (by rw [htrim, hspelling]), hsteps]

/-! ## What has been read can be written -/

/-- What stands between brackets denotes steps that can be written, and no names. -/
theorem Denotes.canStand {text : List Char} {step : Segment} (h : Denotes text step) :
    CanStand step ∧ ∀ name, step ≠ .field name := by
  cases h with
  | star => exact ⟨trivial, fun name => by simp⟩
  | position hword =>
    obtain ⟨-, -, -, -, -, hlt⟩ := hword
    exact ⟨hlt, fun name => by simp⟩

/-- The steps of a part can be written. -/
theorem Part.canStand (p : Part) : ∀ step ∈ p.path, CanStand step := by
  intro step hstep
  rcases List.mem_append.mp hstep with hname | hbracket
  · by_cases hnil : p.name = []
    · rw [nameSegments, if_pos hnil] at hname
      exact absurd hname (by simp)
    · rw [nameSegments, if_neg hnil, List.mem_singleton] at hname
      subst hname
      refine ⟨fun hempty => hnil ?_, fun c hc => ?_⟩
      · rw [← String.toList_ofList (l := p.name), hempty]
        rfl
      · rw [String.toList_ofList] at hc
        exact isNameChar_iff.mp (p.isName c hc)
  · obtain ⟨b, -, rfl⟩ := List.mem_map.mp hbracket
    exact b.denotes.canStand.1

/-- A part that ends with a name is written as that name. -/
theorem Part.text_eq_of_getLast? {p : Part} {name : String}
    (h : p.path.getLast? = some (.field name)) : p.text = name.toList := by
  rcases List.eq_nil_or_concat' p.brackets with hnone | ⟨bs, b, hbs⟩
  · have hname : nameSegments p.name = p.path := by
      rw [Part.path, hnone, List.map_nil, List.append_nil]
    rw [← hname, nameSegments] at h
    split at h
    · exact absurd h (by simp)
    · have heq : Segment.field (String.ofList p.name) = .field name := Option.some.inj h
      rw [← Segment.field.inj heq, String.toList_ofList, Part.text, hnone, bracketsText_nil,
        List.append_nil]
  · rw [Part.path, hbs, List.map_append, List.map_singleton, ← List.append_assoc,
      List.getLast?_concat] at h
    exact absurd (Option.some.inj h) (b.denotes.canStand.2 name)

/-- The last of several parts is written at the end. -/
theorem getLast?_spelling_concat (ps : List Part) (p : Part) :
    (spelling (ps ++ [p])).getLast? = p.text.getLast? := by
  cases ps with
  | nil => rw [List.nil_append, spelling_singleton]
  | cons q ps =>
    rw [spelling_append (List.cons_ne_nil q ps) (List.cons_ne_nil p []), spelling_singleton,
      List.append_cons, List.getLast?_append_of_ne_nil _ p.text_ne_nil]

/-- A text ends as it does without its leading point, if anything is left of it. -/
theorem getLast?_dropPoint {cs : List Char} (h : dropPoint cs ≠ []) :
    (dropPoint cs).getLast? = cs.getLast? := by
  cases cs with
  | nil => rfl
  | cons c cs =>
    by_cases hc : c = '.'
    · subst hc
      have hcs : cs ≠ [] := h
      show cs.getLast? = ('.' :: cs).getLast?
      rw [← List.singleton_append, List.getLast?_append_of_ne_nil _ hcs]
    · rw [dropPoint_of_ne hc]

/-- **What has been read can be written.** -/
theorem isWritable_of_parse {text : String} {path : Path} (h : parse text = .ok path) :
    IsWritable path := by
  by_cases hpath : path = []
  · subst hpath
    exact ⟨List.forall_mem_nil _, fun name hlast => absurd hlast (by simp)⟩
  · obtain ⟨ps, hps, hspelling, rfl⟩ := exists_spelling_of_parse h hpath
    refine ⟨fun step hstep => ?_, fun name hlast c hc => ?_⟩
    · obtain ⟨p, -, hp⟩ := List.mem_flatMap.mp hstep
      exact p.canStand step hp
    · rcases List.eq_nil_or_concat' ps with rfl | ⟨ps, p, rfl⟩
      · exact absurd rfl hps
      · have hpathOf : pathOf [p] = p.path := by simp [pathOf]
        rw [pathOf_append, hpathOf, List.getLast?_append_of_ne_nil _ p.path_ne_nil] at hlast
        -- the last step is the last name, and its end is the end of the text
        have hend : (Text.trim text.toList).getLast? = name.toList.getLast? := by
          rw [← getLast?_dropPoint (by rw [hspelling]; exact spelling_ne_nil hps), hspelling,
            getLast?_spelling_concat, Part.text_eq_of_getLast? hlast]
        exact (Text.isTrimmed_trim text.toList).last c (hend ▸ hc)

/-- **Paths have a canonical spelling.**  A path whose positions fit into words, whose names have
characters but none that ends a name, and which does not end with a blank, is read back from its
canonical text; and only such paths are read from any text.  So the canonical text of what a text is
read as is read alike, and leads to the same places in every document. -/
theorem parse_print_and_isWritable :
    (∀ path, IsWritable path → parse (print path) = .ok path) ∧
    (∀ text path, parse text = .ok path →
      IsWritable path ∧ parse (print path) = .ok path ∧
        ∀ root, resolveText (print path) root = resolveText text root ∧
          selectText (print path) root = selectText text root) := by
  refine ⟨fun path => parse_print_of_isWritable, fun text path hparse => ?_⟩
  have hwritable := isWritable_of_parse hparse
  have hprint := parse_print_of_isWritable hwritable
  refine ⟨hwritable, hprint, fun root => ⟨?_, ?_⟩⟩
  · rw [resolveText, resolveText, hprint, hparse]
  · rw [selectText, selectText, hprint, hparse]

/-- Blanks stay inside a name and at its front; those in brackets and around the whole do not. -/
theorem parse_print_blanks :
    let path : Path := [.field " a ", .index 7, .wildcard, .field " *"]
    IsWritable path ∧ print path = ". a [7][*]. *" ∧ parse (print path) = .ok path ∧
      parse " . a [ +07 ][ * ]. * " = .ok path ∧
      ∀ root, resolveText (print path) root = resolveText " . a [ +07 ][ * ]. * " root ∧
        selectText (print path) root = selectText " . a [ +07 ][ * ]. * " root := by
  intro path
  have hparse : parse " . a [ +07 ][ * ]. * " = .ok path := by decide +kernel
  have hwritable : IsWritable path := isWritable_of_parse hparse
  have hprint : print path = ". a [7][*]. *" := by cbv
  obtain ⟨hread, hspell⟩ := parse_print_and_isWritable
  exact ⟨hwritable, hprint, hread path hwritable, hparse, (hspell _ _ hparse).2.2⟩

end Path
end DocPipe
