import DocPipe.Proofs.Filter.Lexemes
import DocPipe.Proofs.Template.Normal

/-!
# One word in a filter and in a template

A word can name a field in a filter, and it can be the key of a placeholder.  The two are looked up
by different rules.  A filter reads every word as a path, with an exception for `value`.  A template
has more exceptions, and counts null as nothing.  Still a user who filters by a field and then shows
it expects to see what was compared.

This is so.  `Filter.fieldValue?` and `Template.keyValue?` are what a word names on either side, and
they are the same value with a single exception: a point names the item itself in a template, even
if the item is null, and in a filter it is a path, and no path leads anywhere in null
(`Template.keyValue?_eq_fieldValue?`).  A comparison with a string does not see the exception, since
null equals no string.

## Two texts

The comparison is with the text of a scalar, and the line shows the text that stands for a value.
They agree on scalars, and only a scalar equals a string; so a list is never equal to a string that
happens to be its JSON, although the placeholder shows the same.
-/

namespace DocPipe

namespace Filter

/-! ## A comparison with a string -/

/-- A string in single quotes, with a backslash in front of every quote and every backslash. -/
def singleQuoted (s : String) : String :=
  String.ofList ('\'' :: (s.toList.flatMap Quote.single.escape ++ ['\'']))

/-- The value that a word names in a filter. -/
def fieldValue? (item : Value) (word : String) : Option Value :=
  match Path.parse word with
  | .ok path => (Field.mk word path).resolve item
  | .error _ => none

/-- The tokens of a comparison with a string. -/
theorem Token.scan_equality {word : String} (hword : (Token.word word).IsPlain) (s : String) :
    scan (word ++ " == " ++ singleQuoted s).toList =
      .ok [.word word, .symbol .equal, .string s] := by
  have hstring : scan (singleQuoted s).toList = .ok [.string s] := by
    have hplain : (Token.string s).IsPlain := trivial
    have hwritten : scan ((Token.string s).written .single ++ []) =
        (scan []).map (.string s :: ·) :=
      scan_written .single hplain (fun c hc => absurd hc (by simp))
    rw [List.append_nil, scan_nil] at hwritten
    rw [singleQuoted, String.toList_ofList]
    exact hwritten
  have hsymbol : scan "==".toList = .ok [.symbol .equal] := by cbv
  have hlist : (word ++ " == " ++ singleQuoted s).toList =
      word.toList ++ ' ' :: ("==".toList ++ ' ' :: (singleQuoted s).toList) := by
    simp only [String.toList_append, List.append_assoc]
    rfl
  rw [hlist]
  exact scan_append_blank (scan_word hword) (scan_append_blank hsymbol hstring)

/-- The scalars with a text are what a string equals. -/
theorem equals_string (v : Value) (s : String) :
    equals v (.string s) = (v.scalarText? == some s) := by
  cases v <;> rfl

/-- **A word equals a string in an item exactly if it names a scalar there whose text is the
string.** -/
theorem evaluateText_equality_iff {word : String} (hword : (Token.word word).IsPlain)
    (hand : word ≠ "and") (hor : word ≠ "or") (hnot : word ≠ "not") (s : String) (item : Value) :
    evaluateText (word ++ " == " ++ singleQuoted s) item = true ↔
      (fieldValue? item word).bind Value.scalarText? = some s := by
  have hkeyword : State.isKeyword word = false := by simp [State.isKeyword, hand, hor, hnot]
  have hparse : parse (word ++ " == " ++ singleQuoted s) =
      match Path.parse word with
      | .ok path => .ok (some (.compare ⟨word, path⟩ (.symbol .equal) (.string s)))
      | .error cause => .error (.invalidPath cause) := by
    rw [parse, Token.scan_equality hword s]
    show ofTokens _ = _
    rw [ofTokens, if_neg (by simp), State.run_cons, State.step]
    show (Except.bind (State.stepTerm State.start _) _).bind _ = _
    rw [State.stepTerm, if_neg hnot, if_neg (by simp [hkeyword])]
    cases Path.parse word with
    | ok path => rfl
    | error cause => rfl
  rw [evaluateText, tryEvaluate, hparse, fieldValue?]
  cases Path.parse word with
  | error cause => simp [Except.map]
  | ok path =>
    show ((Field.mk word path).resolve item).any (fun actual => equals actual (.string s)) = true ↔
      ((Field.mk word path).resolve item).bind Value.scalarText? = some s
    cases (Field.mk word path).resolve item with
    | none => simp
    | some v => simp [equals_string]

/-- A plain word has no blanks, so nothing of it is trimmed. -/
theorem isTrimmed_of_isPlain {word : String} (h : (Token.word word).IsPlain) :
    Text.IsTrimmed word.toList := by
  have hblank : ∀ c ∈ word.toList, Text.isBlank c = false := fun c hc =>
    Bool.eq_false_iff.mpr (Token.not_of_isWordChar (h.2 c hc)).1
  exact ⟨fun c hc => hblank c (List.mem_of_head? hc),
    fun c hc => hblank c (List.mem_of_getLast? hc)⟩

end Filter

namespace Template

/-! ## The same value -/

/-- **A word names the same value in a filter and in a template**, except that a point names null
only in a template. -/
theorem keyValue?_eq_fieldValue? {item : Value} {word : String} (hne : word ≠ "")
    (hnull : ¬(word = "." ∧ item = .null)) :
    keyValue? item word = Filter.fieldValue? item word := by
  have hpoint : Path.parse "." = .ok [] := by cbv
  have hvalue : Path.parse "value" = .ok [.field "value"] := by decide +kernel
  rw [keyValue?, Filter.fieldValue?]
  by_cases hp : word = "."
  · have hitem : item.isNull = false := by
      cases item with
      | null => exact absurd ⟨hp, rfl⟩ hnull
      | _ => rfl
    rw [if_pos hp, hp, hpoint]
    show some item =
      if "." = "value" ∧ item.isPrimitive = true then some item else Path.resolve [] item
    rw [if_neg (by simp), Path.resolve_eq_follow hitem, Path.follow_nil]
  · rw [if_neg hp, if_neg hne, Path.resolveText]
    cases hparse : Path.parse word with
    | ok path => rfl
    | error cause =>
      have hword : ¬(word = "value" ∧ item.isPrimitive = true) := by
        rintro ⟨rfl, -⟩
        exact absurd (hvalue.symm.trans hparse) (by simp)
      rw [if_neg hword]

/-- The scalars that a word names are the same in any case, since null is none. -/
theorem bind_scalarText?_keyValue? (item : Value) {word : String} (hne : word ≠ "") :
    (keyValue? item word).bind Value.scalarText? =
      (Filter.fieldValue? item word).bind Value.scalarText? := by
  by_cases hnull : word = "." ∧ item = .null
  · obtain ⟨rfl, rfl⟩ := hnull
    cbv
  · rw [keyValue?_eq_fieldValue? hne hnull]

/-- A template with nothing but a key is filled in as the key is. -/
theorem expand_placeholder {key : String} (htrimmed : Text.IsTrimmed key.toList)
    (hcloses : Text.NoPair '\x7d' key.toList) (item : Value) (index : Nat) :
    expand ("\x7b\x7b " ++ key ++ " \x7d\x7d") item index =
      fillPieces item index [.placeholder key] := by
  have hfirst : FirstPlaceholder ("\x7b\x7b " ++ key ++ " \x7d\x7d").toList []
      ([' '] ++ (key.toList ++ [' '])) [] :=
    firstPlaceholder_iff.mpr ⟨by simp [written], by decide,
      noPair_inner hcloses isBlank_of_mem_space isBlank_of_mem_space
        (fun hnil => absurd hnil (by simp))⟩
  have hscan := Scan.placeholder hfirst .nil
  rw [Text.trim_append isBlank_of_mem_space isBlank_of_mem_space htrimmed, String.ofList_toList]
    at hscan
  rw [expand_eq_fillPieces item index hscan, ← fillPieces_filter]
  rfl

/-- **A filter and a template read the same value for the same word.**  A word equals a string in an
item exactly if the placeholder of the word leads to a scalar with this text; and then the line is
the string and nothing is left unresolved. -/
theorem equality_iff_placeholder (item : Value) (index : Nat) (s : String) {word : String}
    (hword : (Filter.Token.word word).IsPlain) (hand : word ≠ "and") (hor : word ≠ "or")
    (hnot : word ≠ "not") (hindex : word ≠ "index")
    (hcloses : ∀ b a, word.toList ≠ b ++ '\x7d' :: '\x7d' :: a) :
    (Filter.evaluateText (word ++ " == " ++ Filter.singleQuoted s) item = true →
      expand ("\x7b\x7b " ++ word ++ " \x7d\x7d") item index = ⟨s, []⟩) ∧
    (∀ v, keyValue? item word = some v → v.scalarText? = some s →
      Filter.evaluateText (word ++ " == " ++ Filter.singleQuoted s) item = true) ∧
    ∀ v, keyValue? item word = some v →
      expand ("\x7b\x7b " ++ word ++ " \x7d\x7d") item index =
        ⟨v.text, if v.isNull then [word] else []⟩ := by
  have hne : word ≠ "" := by
    rintro rfl
    exact hword.1 rfl
  have hexpand : ∀ v, keyValue? item word = some v →
      expand ("\x7b\x7b " ++ word ++ " \x7d\x7d") item index =
        ⟨v.text, if v.isNull then [word] else []⟩ := by
    intro v hv
    rw [expand_placeholder (Filter.isTrimmed_of_isPlain hword) (Text.noPair_iff.mpr hcloses),
      fillPieces_placeholder item index hindex hv]
  refine ⟨fun hequal => ?_, fun v hv hscalar => ?_, hexpand⟩
  · rw [Filter.evaluateText_equality_iff hword hand hor hnot,
      ← bind_scalarText?_keyValue? item hne] at hequal
    obtain ⟨v, hv, hscalar⟩ := Option.bind_eq_some_iff.mp hequal
    have hnull : v.isNull = false := by
      cases v with
      | null => exact absurd hscalar (by simp)
      | _ => rfl
    rw [hexpand v hv, Value.text_of_scalarText? hscalar, hnull]
    rfl
  · rw [Filter.evaluateText_equality_iff hword hand hor hnot, ← bind_scalarText?_keyValue? item hne,
      hv]
    exact hscalar

/-- A quote and a backslash at the end of a string, and a brace at the beginning of a word, make no
difference. -/
theorem equality_iff_placeholder_quote :
    let item : Value := .object [("\x7bit", .string "it's \\")]
    Filter.singleQuoted "it's \\" = "'it\\'s \\\\'" ∧
    keyValue? item "\x7bit" = some (.string "it's \\") ∧
    Filter.evaluateText ("\x7bit" ++ " == " ++ Filter.singleQuoted "it's \\") item = true ∧
    expand ("\x7b\x7b " ++ "\x7bit" ++ " \x7d\x7d") item 0 = ⟨"it's \\", []⟩ := by
  intro item
  have hpath : Path.parse "\x7bit" = .ok [.field "\x7bit"] := by decide +kernel
  have hnamed : keyValue? item "\x7bit" = some (.string "it's \\") := by
    rw [keyValue?, if_neg (by decide), if_neg (by decide), if_neg (by decide), Path.resolveText,
      hpath]
    rfl
  have hword : (Filter.Token.word "\x7bit").IsPlain := by decide
  obtain ⟨hshown, hequal, -⟩ :=
    equality_iff_placeholder item 0 "it's \\" hword (by decide) (by decide) (by decide)
      (by decide) (Text.noPair_iff.mp (by decide))
  have hkept := hequal _ hnamed rfl
  exact ⟨by decide, hnamed, hkept, hshown hkept⟩

end Template
end DocPipe
