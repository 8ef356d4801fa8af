import Mathlib
import DocPipe.Template.Expansion
import DocPipe.Proofs.Template.Scan

/-!
# Filling and checking piece by piece

With the placeholders of a template settled by `Proofs.Template.Scan`, what filling it in and what
checking it come to can be said piece by piece: a text stays as it is, and a key is replaced by what
it stands for in the item.

`keyText` says what that is, and `isDefaulted` which keys stand for nothing.  The two are stated
through the value that a key names, so that the rule for null is there only once: a value of null
has the empty text, and counts as no value.

## The loops

Filling in and checking are two loops over the placeholders, each with a state of its own.  For both
there is one lemma about a step and one about the rest of a run, by induction on the scan of the
text that is left (`Scan.finish_foldl`, `Scan.bind_foldlM`): from any state in which the text up to
the end of a placeholder is done, the run adds to the state what is said of the pieces of the rest.
-/

namespace DocPipe
namespace Template

variable (item : Value) (index : Nat)

/-! ## Keys -/

/-- The value that a key names in an item, apart from the key for the number of the item. -/
def keyValue? (key : String) : Option Value :=
  if key = "." then some item
  else if key = "value" ∧ item.isPrimitive then some item
  else if key = "" then none
  else Path.resolveText key item

/-- The text that takes the place of a key. -/
def keyText (key : String) : String :=
  if key = "index" then toString index
  else match keyValue? item key with
    | some v => v.text
    | none => ""

/-- Whether a key names nothing, or null, and is left empty for that reason. -/
def isDefaulted (key : String) : Bool :=
  key ≠ "index" && match keyValue? item key with
    | some v => v.isNull
    | none => true

/-- Whether a key could name something in some item. -/
def IsKey (key : String) : Prop :=
  key ≠ "" ∧ (key = "index" ∨ key = "." ∨ key = "value" ∨ ∃ path, Path.parse key = .ok path)

theorem getD_shownText? (v : Value) : (shownText? v).getD "" = v.text := by
  cases v <;> rfl

theorem isNone_shownText? (v : Value) : (shownText? v).isNone = v.isNull := by
  cases v <;> rfl

/-- The text for a key is that of the value that the key names. -/
theorem textOf?_eq {key : String} (h : key ≠ "index") :
    textOf? item index key = (keyValue? item key).bind shownText? := by
  rw [textOf?, if_neg h, keyValue?]
  by_cases hpoint : key = "."
  · rw [if_pos (.inl hpoint), if_pos hpoint, Option.bind_some]
  · by_cases hvalue : key = "value" ∧ item.isPrimitive
    · rw [if_pos (.inr hvalue), if_neg hpoint, if_pos hvalue, Option.bind_some]
    · rw [if_neg (not_or.mpr ⟨hpoint, hvalue⟩), if_neg hpoint, if_neg hvalue]
      by_cases hempty : key = ""
      · rw [if_pos hempty, if_pos hempty, Option.bind_none]
      · rw [if_neg hempty, if_neg hempty]

/-- A placeholder is filled with the text of its key. -/
theorem getD_textOf? (key : String) :
    (textOf? item index key).getD "" = keyText item index key := by
  by_cases h : key = "index"
  · rw [textOf?, keyText, if_pos h, if_pos h, Option.getD_some]
  · rw [textOf?_eq item index h, keyText, if_neg h]
    cases keyValue? item key with
    | none => rfl
    | some v => exact getD_shownText? v

/-- A placeholder stays empty for want of a value exactly if its key is defaulted. -/
theorem isNone_textOf? (key : String) : (textOf? item index key).isNone = isDefaulted item key := by
  by_cases h : key = "index"
  · simp [textOf?, isDefaulted, h]
  · rw [textOf?_eq item index h, isDefaulted]
    simp only [ne_eq, h, not_false_eq_true, decide_true, Bool.true_and]
    cases keyValue? item key with
    | none => rfl
    | some v => exact isNone_shownText? v

/-- A key passes the check exactly if it could name something. -/
theorem keyError?_eq_none_iff {key : String} : keyError? key = none ↔ IsKey key := by
  rw [keyError?, IsKey]
  by_cases hempty : key = ""
  · simp [hempty]
  · by_cases hreserved : isReserved key = true
    · rw [if_neg hempty, if_pos hreserved]
      simp only [isReserved, Bool.or_eq_true, beq_iff_eq] at hreserved
      refine iff_of_true rfl ⟨hempty, ?_⟩
      rcases hreserved with (h | h) | h
      · exact .inl h
      · exact .inr (.inl h)
      · exact .inr (.inr (.inl h))
    · rw [if_neg hempty, if_neg hreserved]
      simp only [isReserved, Bool.or_eq_true, beq_iff_eq, not_or] at hreserved
      cases hpath : Path.parse key with
      | ok path => exact iff_of_true rfl ⟨hempty, .inr (.inr (.inr ⟨path, rfl⟩))⟩
      | error cause => simp [hreserved]

/-- A key is refused because it is empty, or because it is no path and no word of its own. -/
theorem eq_of_keyError? {key : String} {e : TemplateError} (h : keyError? key = some e) :
    (e = .emptyPlaceholder ∧ key = "") ∨
      ∃ cause, e = .invalidKey key cause ∧ isReserved key = false ∧
        Path.parse key = .error cause := by
  rw [keyError?] at h
  split at h
  · next hempty => exact .inl ⟨(Option.some.inj h).symm, hempty⟩
  · split at h
    · exact absurd h (by simp)
    · next hreserved =>
      split at h
      · exact absurd h (by simp)
      · next cause hcause =>
        exact .inr ⟨cause, (Option.some.inj h).symm, by simpa using hreserved, hcause⟩

/-- A key that is refused is defaulted in every item. -/
theorem isDefaulted_of_keyError? {key : String} {e : TemplateError} (h : keyError? key = some e)
    (item : Value) : isDefaulted item key = true := by
  rcases eq_of_keyError? h with ⟨-, rfl⟩ | ⟨cause, -, hreserved, hcause⟩
  · rfl
  · simp only [isReserved, Bool.or_eq_false_iff, beq_eq_false_iff_ne] at hreserved
    obtain ⟨⟨hindex, hpoint⟩, hvalue⟩ := hreserved
    have hnone : Path.resolveText key item = none := by rw [Path.resolveText, hcause]
    have hnamed : keyValue? item key = none := by
      rw [keyValue?, if_neg hpoint, if_neg fun h => hvalue h.1, hnone, ite_self]
    rw [isDefaulted, hnamed]
    simp [hindex]

/-! ## Pieces -/

/-- What a piece of a template becomes. -/
def Part.filled : Part → String
  | .literal text => text
  | .placeholder key => keyText item index key

/-- The key of a piece, if it is one and is defaulted. -/
def Part.defaulted? : Part → Option String
  | .literal _ => none
  | .placeholder key => if isDefaulted item key then some key else none

@[simp] theorem Part.filled_literal (text : String) :
    Part.filled item index (.literal text) = text := rfl

@[simp] theorem Part.defaulted?_literal (text : String) :
    Part.defaulted? item (.literal text) = none := rfl

/-- The pieces of a template, filled in one after the other. -/
def fillPieces (pieces : List Part) : Expansion where
  text := String.join (pieces.map (Part.filled item index))
  unresolved := pieces.filterMap (Part.defaulted? item)

theorem fillPieces_cons (p : Part) (ps : List Part) :
    fillPieces item index (p :: ps) =
      ⟨p.filled item index ++ (fillPieces item index ps).text,
        (p.defaulted? item).toList ++ (fillPieces item index ps).unresolved⟩ := by
  rw [fillPieces, List.map_cons, String.join_cons]
  cases h : p.defaulted? item with
  | none => rw [List.filterMap_cons_none h]; rfl
  | some key => rw [List.filterMap_cons_some h]; rfl

/-- The key of a piece, if it is one. -/
def Part.key? : Part → Option String
  | .literal _ => none
  | .placeholder key => some key

/-- The keys of a row of pieces, in their order. -/
def keys (pieces : List Part) : List String := pieces.filterMap Part.key?

theorem mem_keys_iff {key : String} {pieces : List Part} :
    key ∈ keys pieces ↔ .placeholder key ∈ pieces := by
  rw [keys, List.mem_filterMap]
  constructor
  · rintro ⟨p, hp, hkey⟩
    cases p with
    | literal text => exact absurd hkey (by simp [Part.key?])
    | placeholder key' => rwa [← Option.some.inj hkey]
  · intro hmem
    exact ⟨_, hmem, rfl⟩

/-- An empty text fills nothing in. -/
theorem fillPieces_filter (pieces : List Part) :
    fillPieces item index (pieces.filter (· ≠ .literal "")) = fillPieces item index pieces := by
  induction pieces with
  | nil => rfl
  | cons p ps ih =>
    by_cases hp : p = .literal ""
    · rw [List.filter_cons_of_neg (by simp [hp]), ih, fillPieces_cons, hp]
      simp
    · rw [List.filter_cons_of_pos (by simp [hp]), fillPieces_cons, fillPieces_cons, ih]

/-! ## The loop that fills in -/

/-- One step fills in a text and a key. -/
theorem Filling.next_eq (template : List Char) (f : Filling) (p : Placeholder) :
    f.next template item index p =
      { last := p.stop
        text := f.text ++ between template f.last p.start ++
          Part.filled item index (.placeholder p.key)
        unresolved := f.unresolved ++ (Part.defaulted? item (.placeholder p.key)).toList } := by
  rw [Filling.next, Part.filled, Part.defaulted?, ← getD_textOf?, ← isNone_textOf? item index]
  cases textOf? item index p.key with
  | none => simp
  | some value => simp

/-- From any place on, filling in adds the pieces of the rest. -/
theorem Scan.finish_foldl {cs : List Char} {pieces : List Part} (h : Scan cs pieces)
    (done : List Char) (text : String) (unresolved : List String) :
    ((placeholdersFrom done.length cs).foldl (Filling.next (done ++ cs) item index)
        ⟨done.length, text, unresolved⟩).finish (done ++ cs) =
      ⟨text ++ (fillPieces item index pieces).text,
        unresolved ++ (fillPieces item index pieces).unresolved⟩ := by
  induction h generalizing done text unresolved with
  | @last cs hnone =>
    rw [placeholdersFrom_of_forall_ne hnone, List.foldl_nil, Filling.finish, List.drop_left]
    simp [fillPieces]
  | @placeholder cs before inner rest pieces hfirst _ ih =>
    rw [hfirst.placeholdersFrom_eq done, List.foldl_cons, Filling.next_eq, hfirst.eq_written,
      between_written, append_written, ih, fillPieces_cons, fillPieces_cons]
    simp [Placeholder.key, String.append_assoc]

/-- **Filling a template in is filling in its pieces.** -/
theorem expand_eq_fillPieces {template : String} {pieces : List Part}
    (h : Scan template.toList pieces) :
    expand template item index = fillPieces item index pieces := by
  have hrun := h.finish_foldl item index [] "" []
  rw [String.empty_append] at hrun
  exact hrun

/-! ## The loop that checks -/

/-- The first mistake in the pieces of a template.  Its keys come first, and then the text behind
the last of them. -/
def firstError? : List Part → Option TemplateError
  | [] => none
  | [.literal text] =>
    if (Text.cutPair? '\x7b' text.toList).isSome then some .unclosedPlaceholder else none
  | .literal _ :: rest => firstError? rest
  | .placeholder key :: rest => (keyError? key).or (firstError? rest)

/-- One step refuses a key, or adds a text that is not empty and a key. -/
theorem Splitting.next_eq (done before inner rest : List Char) (parts : List Part) (stop : Nat) :
    Splitting.next (done ++ written before inner rest) ⟨done.length, parts⟩
        ⟨done.length + before.length, stop, inner⟩ =
      match keyError? (String.ofList (Text.trim inner)) with
      | some e => .error e
      | none => .ok ⟨stop, parts ++ [.literal (String.ofList before)].filter (· ≠ .literal "") ++
          [.placeholder (String.ofList (Text.trim inner))]⟩ := by
  have hbefore : (if done.length < done.length + before.length
        then parts ++ [.literal (String.ofList before)] else parts) =
      parts ++ [Part.literal (String.ofList before)].filter (· ≠ .literal "") := by
    cases before with
    | nil => simp
    | cons c before => simp
  cases hkey : keyError? (String.ofList (Text.trim inner)) with
  | some e => simp only [Splitting.next, Placeholder.key, hkey]
  | none => simp only [Splitting.next, Placeholder.key, hkey, between_written, hbefore]

/-- From any place on, checking finds the first mistake of the rest, or adds its pieces without the
empty texts. -/
theorem Scan.bind_foldlM {cs : List Char} {pieces : List Part} (h : Scan cs pieces)
    (done : List Char) (parts : List Part) :
    ((placeholdersFrom done.length cs).foldlM (Splitting.next (done ++ cs))
        ⟨done.length, parts⟩).bind (Splitting.finish (done ++ cs)) =
      match firstError? pieces with
      | some e => .error e
      | none => .ok (parts ++ pieces.filter (· ≠ .literal "")) := by
  induction h generalizing done parts with
  | @last cs hnone =>
    rw [placeholdersFrom_of_forall_ne hnone, List.foldlM_nil]
    show Splitting.finish _ _ = _
    rw [Splitting.finish, List.drop_left, firstError?, String.toList_ofList]
    by_cases hopen : (Text.cutPair? '\x7b' cs).isSome = true
    · simp only [if_pos hopen]
    · simp only [if_neg hopen]
      by_cases hcs : cs = []
      · simp [hcs]
      · simp [hcs]
  | @placeholder cs before inner rest pieces hfirst _ ih =>
    rw [hfirst.placeholdersFrom_eq done, List.foldlM_cons, hfirst.eq_written, Splitting.next_eq]
    show (Except.bind _ _).bind _ = match (keyError? (String.ofList (Text.trim inner))).or _ with
      | some e => _
      | none => _
    cases keyError? (String.ofList (Text.trim inner)) with
    | some e => rfl
    | none =>
      have hpieces : parts ++ (Part.literal (String.ofList before) ::
            .placeholder (String.ofList (Text.trim inner)) :: pieces).filter (· ≠ .literal "") =
          parts ++ [Part.literal (String.ofList before)].filter (· ≠ .literal "") ++
            [.placeholder (String.ofList (Text.trim inner))] ++
              pieces.filter (· ≠ .literal "") := by
        rw [List.append_assoc, List.append_assoc, ← List.singleton_append, List.filter_append]
        rfl
      simp only [Option.none_or]
      rw [hpieces, append_written]
      exact ih (passed done before inner) _

/-- The mistake of the text behind the last key. -/
def endError? (text : String) : Option TemplateError :=
  if (Text.cutPair? '\x7b' text.toList).isSome then some .unclosedPlaceholder else none

theorem endError?_eq_some_iff {text : String} {e : TemplateError} :
    endError? text = some e ↔
      e = .unclosedPlaceholder ∧ ∃ b a, text.toList = b ++ '\x7b' :: '\x7b' :: a := by
  have hopens : (Text.cutPair? '\x7b' text.toList).isSome = true ↔
      ∃ b a, text.toList = b ++ '\x7b' :: '\x7b' :: a := by
    rw [← Option.ne_none_iff_isSome, ne_eq, Text.cutPair?_eq_none_iff]
    simp
  rw [← hopens, endError?]
  split
  · next hsome => simp [hsome, eq_comm]
  · next hnone => simp [hnone]

/-- **The first mistake of a template is its first key that is refused, or else that of the text at
the end.** -/
theorem Scan.exists_firstError?_eq {cs : List Char} {pieces : List Part} (h : Scan cs pieces) :
    ∃ text, pieces.getLast? = some (.literal text) ∧
      firstError? pieces = ((keys pieces).findSome? keyError?).or (endError? text) := by
  induction h with
  | @last cs hnone => exact ⟨String.ofList cs, rfl, rfl⟩
  | @placeholder cs before inner rest pieces hfirst hrest ih =>
    obtain ⟨text, hlast, hmistake⟩ := ih
    refine ⟨text, ?_, ?_⟩
    · obtain ⟨p, ps, rfl⟩ := List.exists_cons_of_ne_nil hrest.ne_nil
      rw [List.getLast?_cons_cons, List.getLast?_cons_cons, hlast]
    · show (keyError? _).or (firstError? pieces) =
        (List.findSome? keyError? (_ :: keys pieces)).or (endError? text)
      rw [List.findSome?_cons, hmistake]
      cases keyError? (String.ofList (Text.trim inner)) with
      | none => rfl
      | some e => rfl

/-- **A scan is free of mistakes exactly if all its keys could name something and no opening pair
stands behind the last of them.** -/
theorem Scan.firstError?_eq_none_iff {cs : List Char} {pieces : List Part} (h : Scan cs pieces) :
    firstError? pieces = none ↔ (∀ key, .placeholder key ∈ pieces → IsKey key) ∧
      ∀ b a, pieces.getLast? ≠ some (.literal (String.ofList (b ++ '\x7b' :: '\x7b' :: a))) := by
  obtain ⟨text, hlast, hfirst⟩ := h.exists_firstError?_eq
  have hkeys : (keys pieces).findSome? keyError? = none ↔
      ∀ key, .placeholder key ∈ pieces → IsKey key := by
    simp only [List.findSome?_eq_none_iff, keyError?_eq_none_iff, mem_keys_iff]
  have hend : endError? text = none ↔
      ∀ b a, pieces.getLast? ≠ some (.literal (String.ofList (b ++ '\x7b' :: '\x7b' :: a))) := by
    rw [hlast, Option.eq_none_iff_forall_ne_some]
    simp [endError?_eq_some_iff, String.ext_iff]
  rw [hfirst, Option.or_eq_none_iff, hkeys, hend]

/-- **Checking a template finds the first mistake of its pieces, or gives the pieces without the
empty texts.** -/
theorem parse_eq_of_scan {template : String} {pieces : List Part}
    (h : Scan template.toList pieces) :
    parse template =
      match firstError? pieces with
      | some e => .error e
      | none => .ok (pieces.filter (· ≠ .literal "")) :=
  h.bind_foldlM [] []

/-- A template is refused for the first mistake of its pieces. -/
theorem parse_eq_error_iff {template : String} {pieces : List Part}
    (h : Scan template.toList pieces) {e : TemplateError} :
    parse template = .error e ↔ firstError? pieces = some e := by
  rw [parse_eq_of_scan h]
  cases firstError? pieces with
  | some e' => simp
  | none => simp

/-- What a template without mistakes is checked to. -/
theorem parse_eq_ok_iff {template : String} {pieces parts : List Part}
    (h : Scan template.toList pieces) :
    parse template = .ok parts ↔
      firstError? pieces = none ∧ parts = pieces.filter (· ≠ .literal "") := by
  rw [parse_eq_of_scan h]
  cases firstError? pieces with
  | some e => simp
  | none => simp [eq_comm]

/-- **Filling in and checking cut a template in the same places.**  A template has exactly one scan.
Filling it in is filling in the pieces of the scan one after the other; and where the check accepts
it, the parts are these pieces without the empty texts, so that filling in the parts gives the same
text and the same unresolved keys.  The check accepts a template exactly if every key of the scan
could name something and the last text has no opening pair. -/
theorem expand_and_parse_follow_scan (template : String) (item : Value) (index : Nat) :
    ∃ pieces, Scan template.toList pieces ∧
      (∀ pieces', Scan template.toList pieces' → pieces' = pieces) ∧
      expand template item index = fillPieces item index pieces ∧
      (∀ parts, parse template = .ok parts →
        parts = pieces.filter (· ≠ .literal "") ∧
          fillPieces item index parts = expand template item index) ∧
      ((∃ parts, parse template = .ok parts) ↔
        (∀ key, .placeholder key ∈ pieces → IsKey key) ∧
          ∀ b a, pieces.getLast? ≠
            some (.literal (String.ofList (b ++ '\x7b' :: '\x7b' :: a)))) := by
  obtain ⟨pieces, h⟩ := exists_scan template.toList
  refine ⟨pieces, h, fun pieces' h' => h'.unique h, expand_eq_fillPieces item index h,
    fun parts hparts => ?_, ?_⟩
  · obtain ⟨-, rfl⟩ := (parse_eq_ok_iff h).mp hparts
    rw [expand_eq_fillPieces item index h, fillPieces_filter]
    exact ⟨rfl, rfl⟩
  · rw [← h.firstError?_eq_none_iff]
    exact ⟨fun ⟨parts, hparts⟩ => ((parse_eq_ok_iff h).mp hparts).1,
      fun hnone => ⟨_, (parse_eq_ok_iff h).mpr ⟨hnone, rfl⟩⟩⟩

/-- A template with a spare closing brace is checked to its pieces. -/
theorem expand_spare_brace :
    parse "x \x7b\x7b . \x7d\x7d\x7d" =
        .ok [.literal "x ", .placeholder ".", .literal "\x7d"] ∧
      fillPieces (.bool true) 0 [.literal "x ", .placeholder ".", .literal "\x7d"] =
        expand "x \x7b\x7b . \x7d\x7d\x7d" (.bool true) 0 := by
  have hparse : parse "x \x7b\x7b . \x7d\x7d\x7d" =
      .ok [.literal "x ", .placeholder ".", .literal "\x7d"] := by cbv
  obtain ⟨pieces, -, -, -, hparts, -⟩ :=
    expand_and_parse_follow_scan "x \x7b\x7b . \x7d\x7d\x7d" (.bool true) 0
  exact ⟨hparse, (hparts _ hparse).2⟩

end Template
end DocPipe
