import DocPipe.Proofs.Template.Seam
import DocPipe.Proofs.Text.Trim

/-!
# Normal templates

The parts of a template say nothing about the blanks around its keys.  So the same parts have many
templates, and one of them can be singled out: the one with a single space on either side of every
key (`printed`).  It is checked to the parts it was printed from, and filled in like every other
template with these parts.

## Why the spaces matter

A key may begin with an opening brace and end with a closing one, and without a space between them
the braces of the placeholder would be taken one place too early or too late.  In front of a key
this does no harm, since the first two of three opening braces are the pair in any case.  Behind it
the first two of three closing braces would be the pair, and the key would lose its last character.
So blanks can be put in and taken out as one likes, as long as something is left between a key and a
closing brace that it ends with (`Spells`).

## What the parts of a template are

A text in front of a placeholder has no opening pair and does not end with an opening brace, since
the placeholder would have begun there.  A key has no closing pair, since it would have ended there.
The text at the end has no opening pair because the check refuses that.  `IsNormal` lists this.
-/

namespace DocPipe
namespace Template

/-! ## Spellings -/

/-- A part as it is written in a normal template. -/
def Part.written : Part → String
  | .literal text => text
  | .placeholder key => "\x7b\x7b " ++ key ++ " \x7d\x7d"

/-- The normal template with the given parts. -/
def printed (parts : List Part) : String := String.join (parts.map Part.written)

/-- `Spells parts cs` says that `cs` are the parts written one after the other, each key with any
blanks around it. -/
inductive Spells : List Part → List Char → Prop where
  | nil : Spells [] []
  | literal {text : String} {parts : List Part} {cs : List Char} (h : Spells parts cs) :
      Spells (.literal text :: parts) (text.toList ++ cs)
  | placeholder {key : String} {left right cs : List Char} {parts : List Part}
      (hleft : ∀ c ∈ left, Text.isBlank c = true) (hright : ∀ c ∈ right, Text.isBlank c = true)
      (hstop : right = [] → key.toList.getLast? ≠ some '\x7d') (h : Spells parts cs) :
      Spells (.placeholder key :: parts) (written [] (left ++ (key.toList ++ right)) cs)

/-- What is printed around a key is blank. -/
theorem isBlank_of_mem_space : ∀ c ∈ [' '], Text.isBlank c = true := by
  simp [Text.isBlank]

theorem toList_printed_cons (p : Part) (parts : List Part) :
    (printed (p :: parts)).toList = p.written.toList ++ (printed parts).toList := by
  rw [printed, List.map_cons, String.join_cons, String.toList_append]
  rfl

/-- The normal template is one of the spellings of its parts. -/
theorem spells_printed (parts : List Part) : Spells parts (printed parts).toList := by
  induction parts with
  | nil => exact .nil
  | cons p parts ih =>
    rw [toList_printed_cons]
    cases p with
    | literal text => exact .literal ih
    | placeholder key =>
      have hwritten : (Part.placeholder key).written.toList ++ (printed parts).toList =
          written [] ([' '] ++ (key.toList ++ [' '])) (printed parts).toList := by
        simp [Part.written, written]
      rw [hwritten]
      exact .placeholder isBlank_of_mem_space isBlank_of_mem_space
        (fun hnil => absurd hnil (by simp)) ih

/-- Empty texts are not seen in what is written. -/
theorem spells_filter_iff {pieces : List Part} {cs : List Char} :
    Spells (pieces.filter (· ≠ .literal "")) cs ↔ Spells pieces cs := by
  constructor
  · intro h
    induction pieces generalizing cs with
    | nil => exact h
    | cons p pieces ih =>
      by_cases hp : p = .literal ""
      · rw [List.filter_cons_of_neg (by simp [hp])] at h
        rw [hp]
        exact .literal (ih h)
      · rw [List.filter_cons_of_pos (by simp [hp])] at h
        cases h with
        | literal h => exact .literal (ih h)
        | placeholder hleft hright hstop h => exact .placeholder hleft hright hstop (ih h)
  · intro h
    induction h with
    | nil => exact .nil
    | @literal text parts cs h ih =>
      by_cases htext : text = ""
      · rw [List.filter_cons_of_neg (by simp [htext]), htext]
        exact ih
      · rw [List.filter_cons_of_pos (by simp [htext])]
        exact .literal ih
    | placeholder hleft hright hstop h ih =>
      rw [List.filter_cons_of_pos (by simp)]
      exact .placeholder hleft hright hstop ih

/-! ## Keys in their places -/

/-- Blanks and closing braces are different things. -/
theorem getLast?_ne_of_blanks {cs : List Char} (h : ∀ c ∈ cs, Text.isBlank c = true) :
    cs.getLast? ≠ some '\x7d' := by
  intro hlast
  exact absurd (h _ (List.mem_of_getLast? hlast)) (by decide)

theorem head?_ne_of_blanks {cs : List Char} (h : ∀ c ∈ cs, Text.isBlank c = true) :
    cs.head? ≠ some '\x7d' := by
  intro hhead
  exact absurd (h _ (List.mem_of_head? hhead)) (by decide)

theorem noPair_of_blanks {cs : List Char} (h : ∀ c ∈ cs, Text.isBlank c = true) :
    Text.NoPair '\x7d' cs := by
  refine Text.noPair_iff.mpr ?_
  rintro b a rfl
  exact absurd (h '\x7d' (by simp)) (by decide)

/-- **What is written between the braces for a key ends at the braces.** -/
theorem noPair_inner {key left right : List Char} (hkey : Text.NoPair '\x7d' key)
    (hleft : ∀ c ∈ left, Text.isBlank c = true) (hright : ∀ c ∈ right, Text.isBlank c = true)
    (hstop : right = [] → key.getLast? ≠ some '\x7d') :
    Text.NoPair '\x7d' (left ++ (key ++ right) ++ ['\x7d']) := by
  have hbody : Text.NoPair '\x7d' (key ++ right) :=
    Text.noPair_append_iff.mpr
      ⟨hkey, noPair_of_blanks hright, fun h => head?_ne_of_blanks hright h.2⟩
  have hinner : Text.NoPair '\x7d' (left ++ (key ++ right)) :=
    Text.noPair_append_iff.mpr
      ⟨noPair_of_blanks hleft, hbody, fun h => getLast?_ne_of_blanks hleft h.1⟩
  refine Text.noPair_append_iff.mpr ⟨hinner, by decide, fun h => ?_⟩
  have hlast := h.1
  rw [List.getLast?_append, List.getLast?_append] at hlast
  -- the last character is that of the blanks behind, of the key, or of the blanks in front
  cases hr : right.getLast? with
  | some c =>
    rw [hr] at hlast
    exact getLast?_ne_of_blanks hright (hr.trans hlast)
  | none =>
    rw [hr, Option.none_or] at hlast
    cases hk : key.getLast? with
    | some c =>
      rw [hk] at hlast
      exact hstop (List.getLast?_eq_none_iff.mp hr) (hk.trans hlast)
    | none =>
      rw [hk, Option.none_or] at hlast
      exact getLast?_ne_of_blanks hleft hlast

/-- A key has no closing pair. -/
theorem FirstPlaceholder.noPair_key {cs before inner rest : List Char}
    (h : FirstPlaceholder cs before inner rest) : Text.NoPair '\x7d' (Text.trim inner) := by
  obtain ⟨-, -, hcloses⟩ := firstPlaceholder_iff.mp h
  obtain ⟨left, right, -, -, hinner⟩ := Text.exists_eq_append_trim inner
  rw [hinner] at hcloses
  exact hcloses.infix ⟨left, right ++ ['\x7d'], by simp⟩

/-! ## Scans and spellings -/

/-- **A template is a spelling of its pieces.** -/
theorem Scan.spells {cs : List Char} {pieces : List Part} (h : Scan cs pieces) :
    Spells pieces cs := by
  induction h with
  | @last cs hnone =>
    have hspells : Spells [.literal (String.ofList cs)] ((String.ofList cs).toList ++ []) :=
      .literal .nil
    rwa [List.append_nil, String.toList_ofList] at hspells
  | @placeholder cs before inner rest pieces hfirst hrest ih =>
    obtain ⟨left, right, hleft, hright, hinner⟩ := Text.exists_eq_append_trim inner
    have hstop : right = [] → (String.ofList (Text.trim inner)).toList.getLast? ≠ some '\x7d' := by
      rintro rfl hlast
      obtain ⟨-, -, hcloses⟩ := firstPlaceholder_iff.mp hfirst
      rw [String.toList_ofList] at hlast
      refine (Text.noPair_append_iff.mp hcloses).2.2 ⟨?_, rfl⟩
      rw [hinner, List.append_nil, List.getLast?_append, hlast]
      rfl
    have hkey := Spells.placeholder hleft hright hstop ih
    rw [String.toList_ofList, ← hinner] at hkey
    have hcs : cs = (String.ofList before).toList ++ written [] inner rest := by
      rw [String.toList_ofList]
      exact hfirst.eq_written
    rw [hcs]
    exact .literal hkey

/-- **Blanks around a key never matter**: every spelling of the pieces of a template is cut into the
same pieces. -/
theorem Scan.of_spells {cs cs' : List Char} {pieces : List Part} (h : Scan cs pieces)
    (hspells : Spells pieces cs') : Scan cs' pieces := by
  induction h generalizing cs' with
  | @last cs hnone =>
    cases hspells with
    | literal hspells =>
      cases hspells
      rw [String.toList_ofList, List.append_nil]
      exact .last hnone
  | @placeholder cs before inner rest pieces hfirst hrest ih =>
    obtain ⟨-, hopens, -⟩ := firstPlaceholder_iff.mp hfirst
    cases hspells with
    | literal hspells =>
      cases hspells with
      | @placeholder key left right cs'' parts hleft hright hstop hspells =>
        rw [String.toList_ofList] at hstop ⊢
        rw [String.toList_ofList]
        have hfirst' : FirstPlaceholder
            (before ++ written [] (left ++ (Text.trim inner ++ right)) cs'') before
            (left ++ (Text.trim inner ++ right)) cs'' :=
          firstPlaceholder_iff.mpr
            ⟨by simp [written], hopens, noPair_inner hfirst.noPair_key hleft hright hstop⟩
        have hscan := Scan.placeholder hfirst' (ih hspells)
        rwa [Text.trim_append hleft hright (Text.isTrimmed_trim inner)] at hscan

/-! ## What the parts of a template are -/

/-- Whether a part can be one of a template without mistakes. -/
def Part.IsNormal : Part → Prop
  | .literal text => text ≠ "" ∧ Text.NoPair '\x7b' text.toList
  | .placeholder key =>
    IsKey key ∧ Text.IsTrimmed key.toList ∧ Text.NoPair '\x7d' key.toList

/-- Whether a part can stand right in front of another.  Two texts would be one, and an opening
brace would begin the placeholder behind it. -/
def Part.CanPrecede : Part → Part → Prop
  | .literal _, .literal _ => False
  | .literal text, .placeholder _ => text.toList.getLast? ≠ some '\x7b'
  | .placeholder _, _ => True

/-- What the parts of a template without mistakes are. -/
structure IsNormal (parts : List Part) : Prop where
  isNormal : ∀ p ∈ parts, p.IsNormal
  neighbours : parts.IsChain Part.CanPrecede

theorem isNormal_cons_iff {p : Part} {parts : List Part} :
    IsNormal (p :: parts) ↔
      p.IsNormal ∧ (∀ q ∈ parts.head?, p.CanPrecede q) ∧ IsNormal parts := by
  constructor
  · rintro ⟨hall, hchain⟩
    obtain ⟨hp, hparts⟩ := List.forall_mem_cons.mp hall
    obtain ⟨hhead, htail⟩ := List.isChain_cons.mp hchain
    exact ⟨hp, hhead, hparts, htail⟩
  · rintro ⟨hp, hhead, hparts, htail⟩
    exact ⟨List.forall_mem_cons.mpr ⟨hp, hparts⟩, List.isChain_cons.mpr ⟨hhead, htail⟩⟩

/-- A text can be put in front of normal parts, unless it is empty. -/
theorem IsNormal.filter_literal {text : String} {parts : List Part} (h : IsNormal parts)
    (hopens : Text.NoPair '\x7b' text.toList)
    (hhead : ∀ q ∈ parts.head?, (Part.literal text).CanPrecede q) :
    IsNormal ([Part.literal text].filter (· ≠ .literal "") ++ parts) := by
  by_cases htext : text = ""
  · rw [List.filter_cons_of_neg (by simp [htext])]
    exact h
  · rw [List.filter_cons_of_pos (by simp [htext])]
    exact isNormal_cons_iff.mpr ⟨⟨htext, hopens⟩, hhead, h⟩

/-- **The parts of a template without mistakes are normal.** -/
theorem Scan.isNormal {cs : List Char} {pieces : List Part} (h : Scan cs pieces)
    (hnone : firstError? pieces = none) : IsNormal (pieces.filter (· ≠ .literal "")) := by
  induction h with
  | @last cs _ =>
    have hopens : Text.NoPair '\x7b' cs := by
      refine Text.noPair_iff.mpr (Text.cutPair?_eq_none_iff.mp ?_)
      rw [firstError?, String.toList_ofList] at hnone
      cases hcut : Text.cutPair? '\x7b' cs with
      | none => rfl
      | some p => simp [hcut] at hnone
    have hnil : IsNormal [] := ⟨List.forall_mem_nil _, List.isChain_nil⟩
    rw [← String.toList_ofList (l := cs)] at hopens
    have hlast := hnil.filter_literal hopens (fun q hq => absurd hq (by simp))
    rwa [List.append_nil] at hlast
  | @placeholder cs before inner rest pieces hfirst _ ih =>
    obtain ⟨hkey, hrest⟩ : keyError? (String.ofList (Text.trim inner)) = none ∧
        firstError? pieces = none := Option.or_eq_none_iff.mp hnone
    have hplaceholder : (Part.placeholder (String.ofList (Text.trim inner))).IsNormal := by
      refine ⟨keyError?_eq_none_iff.mp hkey, ?_, ?_⟩
      · rw [String.toList_ofList]
        exact Text.isTrimmed_trim inner
      · rw [String.toList_ofList]
        exact hfirst.noPair_key
    have hparts : IsNormal (.placeholder (String.ofList (Text.trim inner)) ::
        pieces.filter (· ≠ .literal "")) :=
      isNormal_cons_iff.mpr ⟨hplaceholder, fun _ _ => trivial, ih hrest⟩
    have hmeets := hfirst.meets
    rw [← String.toList_ofList (l := before)] at hmeets
    have hpieces : (Part.literal (String.ofList before) ::
          .placeholder (String.ofList (Text.trim inner)) :: pieces).filter (· ≠ .literal "") =
        [Part.literal (String.ofList before)].filter (· ≠ .literal "") ++
          .placeholder (String.ofList (Text.trim inner)) :: pieces.filter (· ≠ .literal "") := by
      rw [← List.singleton_append, List.filter_append]
      rfl
    rw [hpieces]
    refine hparts.filter_literal hmeets.opens fun q hq => ?_
    obtain rfl := Option.some.inj hq
    exact fun hlast => hmeets.seam ⟨hlast, rfl⟩

/-! ## Normal templates -/

/-- A template without mistakes is filled in as its parts are. -/
theorem expand_eq_fillPieces_of_parse {template : String} {parts : List Part}
    (h : parse template = .ok parts) (item : Value) (index : Nat) :
    expand template item index = fillPieces item index parts := by
  obtain ⟨pieces, hscan⟩ := exists_scan template.toList
  obtain ⟨-, rfl⟩ := (parse_eq_ok_iff hscan).mp h
  rw [expand_eq_fillPieces item index hscan, fillPieces_filter]

/-- **The templates with the same parts are the spellings of these parts.** -/
theorem spells_iff_parse_eq {template template' : String} {parts : List Part}
    (h : parse template = .ok parts) :
    Spells parts template'.toList ↔ parse template' = .ok parts := by
  obtain ⟨pieces, hscan⟩ := exists_scan template.toList
  obtain ⟨hnone, rfl⟩ := (parse_eq_ok_iff hscan).mp h
  constructor
  · intro hspells
    have hscan' := hscan.of_spells (spells_filter_iff.mp hspells)
    exact (parse_eq_ok_iff hscan').mpr ⟨hnone, rfl⟩
  · intro h'
    obtain ⟨pieces', hscan'⟩ := exists_scan template'.toList
    obtain ⟨-, heq⟩ := (parse_eq_ok_iff hscan').mp h'
    rw [heq, spells_filter_iff]
    exact hscan'.spells

/-- **The parts of a template have a normal template that is checked to them again**, and is filled
in like the one that they come from.  They are normal: no text is empty or next to another or has an
opening pair in it, and no key has a blank at its ends or a closing pair in it.  The templates with
the same parts are those that differ in the blanks around keys only; and whether a template has
mistakes or not, such blanks change neither what is found in it nor what is filled in. -/
theorem parse_printed_and_respelled :
    (∀ (template : String) (parts : List Part), parse template = .ok parts →
      parse (printed parts) = .ok parts ∧
      (∀ item index,
        (expand (printed parts) item index).text = (expand template item index).text ∧
        (expand (printed parts) item index).unresolved =
          (expand template item index).unresolved) ∧
      IsNormal parts ∧
      ∀ template' : String, Spells parts template'.toList ↔ parse template' = .ok parts) ∧
    ∀ (template template' : String) (pieces : List Part), Scan template.toList pieces →
      Spells pieces template'.toList →
      parse template' = parse template ∧
        ∀ item index, expand template' item index = expand template item index := by
  refine ⟨?_, ?_⟩
  · intro template parts h
    have hprinted : parse (printed parts) = .ok parts :=
      (spells_iff_parse_eq h).mp (spells_printed parts)
    refine ⟨hprinted, fun item index => ?_, ?_, fun template' => spells_iff_parse_eq h⟩
    · rw [expand_eq_fillPieces_of_parse hprinted, expand_eq_fillPieces_of_parse h]
      exact ⟨rfl, rfl⟩
    · obtain ⟨pieces, hscan⟩ := exists_scan template.toList
      obtain ⟨hnone, rfl⟩ := (parse_eq_ok_iff hscan).mp h
      exact hscan.isNormal hnone
  · intro template template' pieces hscan hspells
    have hscan' := hscan.of_spells hspells
    refine ⟨?_, fun item index => ?_⟩
    · rw [parse_eq_of_scan hscan', parse_eq_of_scan hscan]
    · rw [expand_eq_fillPieces item index hscan', expand_eq_fillPieces item index hscan]

/-- A key with a brace at either end has a normal template, and a space in front of it can go but
the one behind it cannot.  In a template that is refused blanks make no difference either. -/
theorem parse_printed_and_respelled_braces :
    let parts : List Part := [.literal "$", .placeholder "\x7ba\x7d", .literal "\x7d"]
    parse "$\x7b\x7b\x7ba\x7d\n\x7d\x7d\x7d" = .ok parts ∧
    printed parts = "$\x7b\x7b \x7ba\x7d \x7d\x7d\x7d" ∧
    parse (printed parts) = .ok parts ∧
    ¬Spells parts "$\x7b\x7b \x7ba\x7d\x7d\x7d\x7d".toList ∧
    Spells [.literal "", .placeholder "", .literal ""] "\x7b\x7b \x7d\x7d".toList ∧
    parse "\x7b\x7b \x7d\x7d" = parse "\x7b\x7b\x7d\x7d" := by
  intro parts
  have hparse : parse "$\x7b\x7b\x7ba\x7d\n\x7d\x7d\x7d" = .ok parts := by decide +kernel
  have hlost : parse "$\x7b\x7b \x7ba\x7d\x7d\x7d\x7d" ≠ .ok parts := by decide +kernel
  have hempty : Scan "\x7b\x7b\x7d\x7d".toList [.literal "", .placeholder "", .literal ""] := by
    have hfirst : FirstPlaceholder "\x7b\x7b\x7d\x7d".toList [] [] [] :=
      firstPlaceholder_iff.mpr ⟨rfl, by decide, by decide⟩
    exact .placeholder hfirst .nil
  have hspells : Spells [.literal "", .placeholder "", .literal ""] "\x7b\x7b \x7d\x7d".toList := by
    exact .literal (.placeholder isBlank_of_mem_space (List.forall_mem_nil _) (fun _ => by decide)
      (.literal .nil))
  obtain ⟨hnormal, hrespelled⟩ := parse_printed_and_respelled
  obtain ⟨hprinted, -, -, hiff⟩ := hnormal _ _ hparse
  exact ⟨hparse, by decide, hprinted, fun h => hlost ((hiff _).mp h), hspells,
    (hrespelled _ _ _ hempty hspells).1⟩

end Template
end DocPipe
