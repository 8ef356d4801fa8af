import DocPipe.Proofs.Template.Resolvable

/-!
# Templates that are joined

A template is filled in from the left, and what has been filled in is never looked at again.  So a
template can be taken apart, and its parts filled in on their own, wherever a cut does not go
through braces that belong together; and a value may contain braces without being mistaken for a
template.

## Where a template can be cut

A placeholder stays the first one whatever is written behind it: its opening pair is the first one
that is closed, and its closing pair is the first one behind that (`FirstPlaceholder.append`).  In
front of it, any text can be written that does not open a placeholder of its own, by a pair in the
text or by one across the seam (`FirstPlaceholder.prepend`).  Both are read off
`firstPlaceholder_iff`, which says of each pair of braces that no other pair begins in front of it.

So it is the text behind the last placeholder that decides.  If it has no opening pair, and none
comes about at the seam, then the scan of the whole is the scan of the first part followed by that
of the second (`Scan.append`).  Conversely every placeholder cuts its template in two
(`Scan.exists_split`).
-/

namespace DocPipe
namespace Template

/-! ## The first placeholder -/

/-- **The first placeholder of a text is the one with no opening pair that begins in front of it and
no closing pair that begins inside.** -/
theorem firstPlaceholder_iff {cs before inner rest : List Char} :
    FirstPlaceholder cs before inner rest ↔
      cs = written before inner rest ∧ Text.NoPair '\x7b' (before ++ ['\x7b']) ∧
        Text.NoPair '\x7d' (inner ++ ['\x7d']) := by
  constructor
  · intro h
    refine ⟨h.eq_written, Text.noPair_iff.mpr fun b a hpair => ?_,
      Text.noPair_iff.mpr fun i a hpair => ?_⟩
    · -- the pair would open an earlier placeholder
      have hcs : cs = written b (a ++ '\x7b' :: inner) rest := by
        have hjoin := congrArg (· ++ '\x7b' :: (inner ++ '\x7d' :: '\x7d' :: rest)) hpair
        simpa [written, h.eq_written] using hjoin
      have hle := h.opens_first _ _ _ hcs
      have hlength := congrArg List.length hpair
      simp only [List.length_append, List.length_cons, List.length_nil] at hlength
      omega
    · have hcs : cs = written before i (a ++ '\x7d' :: rest) := by
        have hjoin := congrArg (· ++ '\x7d' :: rest) hpair
        simpa [written, h.eq_written] using hjoin
      have hle := h.closes_first _ _ hcs
      have hlength := congrArg List.length hpair
      simp only [List.length_append, List.length_cons, List.length_nil] at hlength
      omega
  · rintro ⟨rfl, hopens, hcloses⟩
    refine ⟨rfl, fun b i r hb => hopens.length_le hb, fun i r hi => ?_⟩
    have htail := List.append_cancel_left hi
    exact hcloses.length_le (List.cons.inj (List.cons.inj htail).2).2

/-- A first placeholder stays the first one whatever is written behind it. -/
theorem FirstPlaceholder.append {cs before inner rest : List Char}
    (h : FirstPlaceholder cs before inner rest) (ds : List Char) :
    FirstPlaceholder (cs ++ ds) before inner (rest ++ ds) := by
  obtain ⟨rfl, hopens, hcloses⟩ := firstPlaceholder_iff.mp h
  exact firstPlaceholder_iff.mpr ⟨by simp [written], hopens, hcloses⟩

/-- A text can be put in front of another if it has no opening pair, and none comes about where they
meet. -/
structure Meets (tail cs : List Char) : Prop where
  opens : Text.NoPair '\x7b' tail
  seam : ¬(tail.getLast? = some '\x7b' ∧ cs.head? = some '\x7b')

/-- In front of a first placeholder stands text that meets whatever begins with an opening brace. -/
theorem FirstPlaceholder.meets {cs before inner rest : List Char}
    (h : FirstPlaceholder cs before inner rest) : Meets before ['\x7b'] := by
  obtain ⟨-, hopens, -⟩ := firstPlaceholder_iff.mp h
  obtain ⟨hbefore, -, hseam⟩ := Text.noPair_append_iff.mp hopens
  exact ⟨hbefore, hseam⟩

/-- A first placeholder stays the first one behind a text that meets it. -/
theorem FirstPlaceholder.prepend {tail cs before inner rest : List Char} (hmeets : Meets tail cs)
    (h : FirstPlaceholder cs before inner rest) :
    FirstPlaceholder (tail ++ cs) (tail ++ before) inner rest := by
  obtain ⟨rfl, hopens, hcloses⟩ := firstPlaceholder_iff.mp h
  refine firstPlaceholder_iff.mpr ⟨by simp [written], ?_, hcloses⟩
  have hhead : (before ++ ['\x7b']).head? = (written before inner rest).head? := by
    cases before <;> rfl
  rw [List.append_assoc]
  exact Text.noPair_append_iff.mpr ⟨hmeets.opens, hopens, hhead ▸ hmeets.seam⟩

/-- Behind a text that meets it, a text without a placeholder has none either. -/
theorem Meets.forall_ne {tail cs : List Char} (hmeets : Meets tail cs)
    (h : ∀ b i r, cs ≠ written b i r) (b i r : List Char) : tail ++ cs ≠ written b i r := by
  intro hwritten
  rcases List.append_eq_append_iff.mp hwritten with ⟨x, -, hcs⟩ | ⟨x, htail, hx⟩
  · exact h x i r hcs
  · -- the opening pair begins in the first text, and there is nowhere for its second brace
    match x with
    | [] => exact h [] i r hx.symm
    | [c] =>
      obtain ⟨rfl, hcs⟩ := List.cons.inj hx
      have hhead : cs.head? = some '\x7b' := congrArg List.head? hcs.symm
      exact hmeets.seam ⟨by rw [htail, List.getLast?_concat], hhead⟩
    | c :: d :: x =>
      obtain ⟨hc, hx⟩ := List.cons.inj hx
      obtain ⟨hd, -⟩ := List.cons.inj hx
      rw [← hc, ← hd] at htail
      exact Text.noPair_iff.mp hmeets.opens b x htail

/-! ## Scans -/

/-- The empty text is a piece of its own. -/
theorem Scan.nil : Scan [] [.literal ""] :=
  .last (firstPlaceholder?_eq_none_iff.mp (rfl : firstPlaceholder? 0 [] = none))

/-- A scan begins with a text. -/
theorem Scan.exists_head {cs : List Char} {pieces : List Part} (h : Scan cs pieces) :
    ∃ head rest, pieces = .literal head :: rest := by
  cases h <;> exact ⟨_, _, rfl⟩

/-- **The scan of two texts is the scan of the first followed by that of the second**, if the text
behind the last placeholder of the first meets the second. -/
theorem Scan.append {cs ds tail : List Char} {ps qs : List Part} {head : String}
    (h : Scan cs (ps ++ [.literal (String.ofList tail)])) (h' : Scan ds (.literal head :: qs))
    (hmeets : Meets tail ds) :
    Scan (cs ++ ds) (ps ++ .literal (String.ofList tail ++ head) :: qs) := by
  generalize hpieces : ps ++ [.literal (String.ofList tail)] = pieces at h
  induction h generalizing ps with
  | @last cs hnone =>
    obtain ⟨rfl, rfl⟩ : ps = [] ∧ cs = tail := by
      cases ps with
      | nil => simpa [String.ext_iff, eq_comm] using hpieces
      | cons p ps => simp at hpieces
    rw [List.nil_append]
    cases h' with
    | last hnone' =>
      rw [← String.ofList_append]
      exact .last (hmeets.forall_ne hnone')
    | placeholder hfirst hrest =>
      rw [← String.ofList_append]
      exact .placeholder (hfirst.prepend hmeets) hrest
  | @placeholder cs before inner rest pieces hfirst hrest ih =>
    match ps, hpieces with
    | [], hpieces => simp at hpieces
    | [p], hpieces => simp at hpieces
    | p :: q :: ps, hpieces =>
      simp only [List.cons_append, List.cons.injEq] at hpieces
      obtain ⟨rfl, rfl, hps⟩ := hpieces
      exact .placeholder (hfirst.append ds) (ih hps)

/-- **Every placeholder cuts its template in two**: the pieces in front of it are the scan of the
text in front of it, and the pieces behind it that of the text behind. -/
theorem Scan.exists_split {cs : List Char} {ps qs : List Part} {key : String}
    (h : Scan cs (ps ++ .placeholder key :: qs)) :
    ∃ before inner rest, cs = written before inner rest ∧
      key = String.ofList (Text.trim inner) ∧ Scan before ps ∧ Scan rest qs := by
  generalize hpieces : ps ++ .placeholder key :: qs = pieces at h
  induction h generalizing ps with
  | last hnone =>
    cases ps with
    | nil => simp at hpieces
    | cons p ps => simp at hpieces
  | @placeholder cs before inner rest pieces hfirst hrest ih =>
    match ps, hpieces with
    | [], hpieces => simp at hpieces
    | [p], hpieces =>
      simp only [List.cons_append, List.nil_append, List.cons.injEq, Part.placeholder.injEq]
        at hpieces
      obtain ⟨rfl, rfl, rfl⟩ := hpieces
      have hbefore : Scan before [.literal (String.ofList before)] :=
        .last fun b i r hb =>
          Text.noPair_iff.mp hfirst.meets.opens b (i ++ '\x7d' :: '\x7d' :: r) hb
      exact ⟨before, inner, rest, hfirst.eq_written, rfl, hbefore, hrest⟩
    | p :: q :: ps, hpieces =>
      simp only [List.cons_append, List.cons.injEq] at hpieces
      obtain ⟨rfl, rfl, hps⟩ := hpieces
      obtain ⟨before', inner', rest', rfl, hkey, hbefore, hrest'⟩ := ih hps
      obtain ⟨hcs, hopens, hcloses⟩ := firstPlaceholder_iff.mp hfirst
      refine ⟨written before inner before', inner', rest', by simp [hcs, written], hkey,
        .placeholder (firstPlaceholder_iff.mpr ⟨rfl, hopens, hcloses⟩) hbefore, hrest'⟩

/-! ## Filling in -/

section Filling

variable (item : Value) (index : Nat)

/-- Rows of pieces are filled in one after the other. -/
theorem fillPieces_append (ps qs : List Part) :
    fillPieces item index (ps ++ qs) =
      ⟨(fillPieces item index ps).text ++ (fillPieces item index qs).text,
        (fillPieces item index ps).unresolved ++ (fillPieces item index qs).unresolved⟩ := by
  simp [fillPieces]

/-- A lone placeholder shows the value of its key. -/
theorem fillPieces_placeholder {key : String} {v : Value} (hindex : key ≠ "index")
    (hv : keyValue? item key = some v) :
    fillPieces item index [.placeholder key] = ⟨v.text, if v.isNull then [key] else []⟩ := by
  have htext : keyText item index key = v.text := by rw [keyText, if_neg hindex, hv]
  have hdefaulted : isDefaulted item key = v.isNull := by simp [isDefaulted, hindex, hv]
  rw [fillPieces_cons, Part.filled, Part.defaulted?, htext, hdefaulted]
  cases v.isNull <;> simp [fillPieces]

/-- A template whose end meets another one is filled in on its own. -/
theorem expand_append_of_meets {t u : String} {ps : List Part} {tail : List Char}
    (h : Scan t.toList (ps ++ [.literal (String.ofList tail)])) (hmeets : Meets tail u.toList) :
    expand (t ++ u) item index =
      ⟨(expand t item index).text ++ (expand u item index).text,
        (expand t item index).unresolved ++ (expand u item index).unresolved⟩ := by
  obtain ⟨pieces, hu⟩ := exists_scan u.toList
  obtain ⟨head, qs, rfl⟩ := hu.exists_head
  have hwhole := h.append hu hmeets
  rw [← String.toList_append] at hwhole
  rw [expand_eq_fillPieces item index hwhole, expand_eq_fillPieces item index h,
    expand_eq_fillPieces item index hu]
  simp only [fillPieces_append, fillPieces_cons]
  simp [fillPieces, String.append_assoc]

/-- What takes the place of a key stands between the parts of the template, which are filled in on
their own. -/
theorem expand_of_scans {t u v key value : String} {ps qs : List Part}
    (ht : Scan t.toList (ps ++ .placeholder key :: qs)) (hu : Scan u.toList ps)
    (hv : Scan v.toList qs) (hvalue : textOf? item index key = some value) :
    expand t item index =
      ⟨(expand u item index).text ++ value ++ (expand v item index).text,
        (expand u item index).unresolved ++ (expand v item index).unresolved⟩ := by
  have hfilled : Part.filled item index (.placeholder key) = value := by
    rw [Part.filled, ← getD_textOf?, hvalue, Option.getD_some]
  have hresolved : Part.defaulted? item (.placeholder key) = none := by
    rw [Part.defaulted?, ← isNone_textOf? item index, hvalue]
    rfl
  rw [expand_eq_fillPieces item index ht, expand_eq_fillPieces item index hu,
    expand_eq_fillPieces item index hv, fillPieces_append, fillPieces_cons, hfilled, hresolved]
  simp [String.append_assoc]

/-- The pieces of a template with a value in the place of one key, and all others filled in from an
item. -/
def fillAround (key value : String) (pieces : List Part) : Expansion where
  text := String.join (pieces.map fun p =>
    if p = .placeholder key then value else p.filled item index)
  unresolved := pieces.filterMap fun p =>
    if p = .placeholder key then none else p.defaulted? item

/-- **A value changes nothing but its own places.**  If an item differs from another one only in
what a key leads to, the pieces around the places of that key are filled in as for the other. -/
theorem fillPieces_eq_fillAround {item item' : Value} {index : Nat} {key value : String}
    {pieces : List Part} (hvalue : textOf? item index key = some value)
    (hothers : ∀ k ∈ keys pieces, k ≠ key → textOf? item index k = textOf? item' index k) :
    fillPieces item index pieces = fillAround item' index key value pieces := by
  have hfilled : ∀ p ∈ pieces, p.filled item index =
      if p = .placeholder key then value else p.filled item' index := by
    intro p hp
    cases p with
    | literal text => rfl
    | placeholder k =>
      by_cases hk : k = key
      · rw [hk, if_pos rfl, Part.filled, ← getD_textOf?, hvalue, Option.getD_some]
      · rw [if_neg (by simpa using hk), Part.filled, Part.filled, ← getD_textOf?, ← getD_textOf?,
          hothers k (mem_keys_iff.mpr hp) hk]
  have hdefaulted : ∀ p ∈ pieces, p.defaulted? item =
      if p = .placeholder key then none else p.defaulted? item' := by
    intro p hp
    cases p with
    | literal text => rfl
    | placeholder k =>
      by_cases hk : k = key
      · rw [hk, if_pos rfl, Part.defaulted?, ← isNone_textOf? item index, hvalue]
        rfl
      · rw [if_neg (by simpa using hk), Part.defaulted?, Part.defaulted?,
          ← isNone_textOf? item index, ← isNone_textOf? item' index,
          hothers k (mem_keys_iff.mpr hp) hk]
  rw [fillPieces, fillAround, List.map_congr_left hfilled, List.filterMap_congr hdefaulted]

end Filling

/-- **Templates compose by concatenation, and what has been filled in is never looked at again.**

Two templates that are joined are filled in one after the other, if behind the last placeholder of
the first there is no opening pair and none comes about at the seam.  Every placeholder that
resolves shows its value as it is, between what is made of the template in front of it and of the
template behind.  And whatever the value is, the rest is filled in as if there were another one. -/
theorem expand_append_and_splits :
    (∀ (t u tail : String) (pieces : List Part), Scan t.toList pieces →
      pieces.getLast? = some (.literal tail) →
      (∀ b a, tail.toList ≠ b ++ '\x7b' :: '\x7b' :: a) →
      ¬(tail.toList.getLast? = some '\x7b' ∧ u.toList.head? = some '\x7b') →
      ∀ item index,
        (expand (t ++ u) item index).text =
          (expand t item index).text ++ (expand u item index).text ∧
        (expand (t ++ u) item index).unresolved =
          (expand t item index).unresolved ++ (expand u item index).unresolved) ∧
    (∀ (t key : String) (ps qs : List Part), Scan t.toList (ps ++ .placeholder key :: qs) →
      ∃ u inner v, t = u ++ "\x7b\x7b" ++ inner ++ "\x7d\x7d" ++ v ∧
        key = String.ofList (Text.trim inner.toList) ∧ Scan u.toList ps ∧ Scan v.toList qs ∧
        ∀ item index value, textOf? item index key = some value →
          (expand t item index).text =
            (expand u item index).text ++ value ++ (expand v item index).text ∧
          (expand t item index).unresolved =
            (expand u item index).unresolved ++ (expand v item index).unresolved) ∧
    ∀ (t : String) (pieces : List Part), Scan t.toList pieces →
      ∀ item item' index key value, textOf? item index key = some value →
        (∀ k ∈ keys pieces, k ≠ key → textOf? item index k = textOf? item' index k) →
        expand t item index = fillAround item' index key value pieces := by
  refine ⟨?_, ?_, ?_⟩
  · intro t u tail pieces hscan hlast hopens hseam item index
    obtain ⟨ps, rfl⟩ := List.getLast?_eq_some_iff.mp hlast
    have hmeets : Meets tail.toList u.toList := ⟨Text.noPair_iff.mpr hopens, hseam⟩
    rw [← String.ofList_toList (s := tail)] at hscan
    rw [expand_append_of_meets item index hscan hmeets]
    exact ⟨rfl, rfl⟩
  · intro t key ps qs hscan
    obtain ⟨before, inner, rest, hcs, hkey, hu, hv⟩ := hscan.exists_split
    refine ⟨String.ofList before, String.ofList inner, String.ofList rest, ?_, ?_, ?_, ?_, ?_⟩
    · rw [String.ext_iff, hcs]
      simp [written]
    · rwa [String.toList_ofList]
    · rwa [String.toList_ofList]
    · rwa [String.toList_ofList]
    · intro item index value hvalue
      rw [← String.toList_ofList (l := before)] at hu
      rw [← String.toList_ofList (l := rest)] at hv
      rw [expand_of_scans item index hscan hu hv hvalue]
      exact ⟨rfl, rfl⟩
  · intro t pieces hscan item item' index key value hvalue hothers
    rw [expand_eq_fillPieces item index hscan]
    exact fillPieces_eq_fillAround hvalue hothers

/-- A value that is a placeholder itself is shown as it is, whether the placeholder behind it stands
in the same template or is joined to it, and single braces on either side of a seam make no pair. -/
theorem expand_append_and_splits_braces :
    let item : Value := .object [("a", .string "\x7b\x7bb\x7d\x7d"), ("b", .string "!")]
    let other : Value := .object [("b", .string "!")]
    (expand ("\x7b\x7ba\x7d\x7d\x7b" ++ "\x7d\x7b\x7bb\x7d\x7d") item 0).text =
      "\x7b\x7bb\x7d\x7d\x7b" ++ "\x7d!" ∧
    (∃ u v, (expand "\x7b\x7ba\x7d\x7d\x7b\x7bb\x7d\x7d" item 0).text =
      (expand u item 0).text ++ "\x7b\x7bb\x7d\x7d" ++ (expand v item 0).text) ∧
    expand "\x7b\x7ba\x7d\x7d\x7b\x7bb\x7d\x7d" item 0 =
      fillAround other 0 "a" "\x7b\x7bb\x7d\x7d"
        [.literal "", .placeholder "a", .literal "", .placeholder "b", .literal ""] := by
  intro item other
  have hfirst : ∀ rest, FirstPlaceholder (written [] ['a'] rest) [] ['a'] rest :=
    fun rest => firstPlaceholder_iff.mpr ⟨rfl, by decide, by decide⟩
  have hsecond : FirstPlaceholder "\x7b\x7bb\x7d\x7d".toList [] ['b'] [] :=
    firstPlaceholder_iff.mpr ⟨rfl, by decide, by decide⟩
  have hbrace : firstPlaceholder? 0 ['\x7b'] = none := rfl
  have hleft : Scan "\x7b\x7ba\x7d\x7d\x7b".toList
      [.literal "", .placeholder "a", .literal "\x7b"] :=
    .placeholder (hfirst _) (.last (firstPlaceholder?_eq_none_iff.mp hbrace))
  have hboth : Scan "\x7b\x7ba\x7d\x7d\x7b\x7bb\x7d\x7d".toList
      ([.literal ""] ++ .placeholder "a" :: [.literal "", .placeholder "b", .literal ""]) :=
    .placeholder (hfirst _) (.placeholder hsecond .nil)
  have hopens : ∀ b a, "\x7b".toList ≠ b ++ '\x7b' :: '\x7b' :: a := Text.noPair_iff.mp (by decide)
  have hseam : ¬("\x7b".toList.getLast? = some '\x7b' ∧
      "\x7d\x7b\x7bb\x7d\x7d".toList.head? = some '\x7b') := by
    decide
  have hvalue : textOf? item 0 "a" = some "\x7b\x7bb\x7d\x7d" := by decide +kernel
  have hothers : ∀ k ∈ keys
        [.literal "", .placeholder "a", .literal "", .placeholder "b", .literal ""],
      k ≠ "a" → textOf? item 0 k = textOf? other 0 k := by
    decide +kernel
  obtain ⟨hjoin, hsplit, haround⟩ := expand_append_and_splits
  obtain ⟨u, -, v, -, -, -, -, hshown⟩ := hsplit _ _ _ _ hboth
  refine ⟨?_, ⟨u, v, (hshown item 0 _ hvalue).1⟩, haround _ _ hboth item other 0 _ _ hvalue hothers⟩
  rw [(hjoin _ _ _ _ hleft rfl hopens hseam item 0).1]
  decide +kernel

end Template
end DocPipe
