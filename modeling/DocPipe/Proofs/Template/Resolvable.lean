import DocPipe.Proofs.Template.Pieces

/-!
# Keys that resolve nowhere

The check of a template knows no items.  It refuses a key for how it is spelled, and filling in
leaves a placeholder empty for what an item has in the place that the key leads to.  This file shows
that the two agree as far as they can: a key is refused exactly if no item whatever would resolve it
(`neverResolves_iff`).

So the check is not too strict, and it is not too lenient either.  A key that it lets pass may well
be a slip, but there is a document in which it is none.

## A document for every path

The document is built along the path, from its end (`Path.exemplar`): around the value for the rest
of the path an object with one field, or a list that is just long enough.  A wildcard ends the path,
since resolving goes no further, and an empty list is enough for it.

## The order of mistakes

The check stops at the first mistake, and the text behind the last placeholder comes last.  So the
error names the first key that never resolves, and braces that nothing closes are only reported
where every key could resolve.
-/

namespace DocPipe

namespace Path

/-- A document in which a path leads to something. -/
def exemplar : Path → Value
  | [] => .bool true
  | .field name :: rest => .object [(name, exemplar rest)]
  | .index i :: rest => .array (List.replicate i .null ++ [exemplar rest])
  | .wildcard :: _ => .array []

theorem isNull_exemplar (path : Path) : (exemplar path).isNull = false := by
  cases path with
  | nil => rfl
  | cons segment rest => cases segment <;> rfl

/-- **Every path leads to a value that is not null in some document.** -/
theorem exists_resolve_exemplar (path : Path) :
    ∃ v, resolve path (exemplar path) = some v ∧ v.isNull = false := by
  rw [resolve_eq_follow (isNull_exemplar path)]
  induction path with
  | nil => exact ⟨.bool true, rfl, rfl⟩
  | cons segment rest ih =>
    obtain ⟨v, hv, hnull⟩ := ih
    cases segment with
    | field name =>
      have hfield : (exemplar (.field name :: rest)).field? name = some (exemplar rest) := by
        simp [exemplar, Value.field?]
      exact ⟨v, by rw [follow, hfield]; exact hv, hnull⟩
    | index i =>
      have hitem : (exemplar (.index i :: rest)).item? i = some (exemplar rest) := by
        simp [exemplar, Value.item?, Value.items?]
      exact ⟨v, by rw [follow, hitem]; exact hv, hnull⟩
    | wildcard => exact ⟨.array [], rfl, rfl⟩

end Path

namespace Template

/-! ## Keys -/

/-- Whether a key stays unresolved in every item, whatever the number of the item. -/
def NeverResolves (key : String) : Prop :=
  ∀ item index, textOf? item index key = none

/-- Whether a key resolves in an item: to the number of the item, or to a value that is not null. -/
def ResolvesIn (item : Value) (key : String) : Prop :=
  key = "index" ∨ ∃ v, keyValue? item key = some v ∧ v.isNull = false

/-- A key resolves in an item exactly if there is a text for it. -/
theorem isSome_textOf?_iff (item : Value) (index : Nat) (key : String) :
    (textOf? item index key).isSome = true ↔ ResolvesIn item key := by
  rw [← Option.not_isNone, isNone_textOf?, isDefaulted, ResolvesIn]
  by_cases hindex : key = "index"
  · simp [hindex]
  · cases keyValue? item key with
    | none => simp [hindex]
    | some v => simp [hindex]

/-- A key that could name something resolves in some item. -/
theorem exists_resolvesIn {key : String} (h : IsKey key) : ∃ item, ResolvesIn item key := by
  obtain ⟨hempty, hkey⟩ := h
  by_cases hpoint : key = "."
  · exact ⟨.bool true, .inr ⟨.bool true, if_pos hpoint, rfl⟩⟩
  · by_cases hvalue : key = "value"
    · refine ⟨.bool true, .inr ⟨.bool true, ?_, rfl⟩⟩
      rw [keyValue?, if_neg hpoint, if_pos ⟨hvalue, rfl⟩]
    · rcases hkey with hindex | hkey | hkey | ⟨path, hpath⟩
      · exact ⟨.null, .inl hindex⟩
      · exact absurd hkey hpoint
      · exact absurd hkey hvalue
      · obtain ⟨v, hv, hnull⟩ := Path.exists_resolve_exemplar path
        refine ⟨Path.exemplar path, .inr ⟨v, ?_, hnull⟩⟩
        rw [keyValue?, if_neg hpoint, if_neg (fun h => hvalue h.1), if_neg hempty,
          Path.resolveText, hpath]
        exact hv

/-- **A key is refused exactly if it resolves in no item.** -/
theorem neverResolves_iff {key : String} : NeverResolves key ↔ (keyError? key).isSome = true := by
  constructor
  · intro hnever
    cases hkey : keyError? key with
    | some e => rfl
    | none =>
      obtain ⟨item, hresolves⟩ := exists_resolvesIn (keyError?_eq_none_iff.mp hkey)
      have hsome := (isSome_textOf?_iff item 0 key).mpr hresolves
      rw [hnever item 0] at hsome
      exact absurd hsome (by simp)
  · intro hrefused item index
    obtain ⟨e, he⟩ := Option.isSome_iff_exists.mp hrefused
    have hnone := isDefaulted_of_keyError? he item
    rw [← isNone_textOf? item index] at hnone
    exact Option.isNone_iff_eq_none.mp hnone

/-- A key that resolves at all resolves in one item whatever its number. -/
theorem exists_item_of_not_neverResolves {key : String} (h : ¬NeverResolves key) :
    ∃ item, ResolvesIn item key ∧ ∀ index, (textOf? item index key).isSome = true := by
  have hnone : keyError? key = none := by
    simpa [neverResolves_iff] using h
  obtain ⟨item, hresolves⟩ := exists_resolvesIn (keyError?_eq_none_iff.mp hnone)
  exact ⟨item, hresolves, fun index => (isSome_textOf?_iff item index key).mpr hresolves⟩

/-- Whether a key never resolves can be told from its spelling. -/
instance : DecidablePred NeverResolves :=
  fun _ => decidable_of_iff _ neverResolves_iff.symm

/-! ## The keys of a template -/

/-- What is left unresolved are the keys that there is no text for. -/
theorem unresolved_fillPieces (item : Value) (index : Nat) (pieces : List Part) :
    (fillPieces item index pieces).unresolved =
      (keys pieces).filter fun key => (textOf? item index key).isNone := by
  have hpiece : ∀ p : Part, Part.defaulted? item p =
      p.key?.filter fun key => (textOf? item index key).isNone := by
    intro p
    cases p with
    | literal text => rfl
    | placeholder key => simp [Part.key?, Part.defaulted?, Option.filter, isNone_textOf?]
  rw [keys, List.filter_filterMap, fillPieces]
  exact List.filterMap_congr fun p _ => hpiece p

/-! ## Mistakes -/

/-- The key that an error is about. -/
def TemplateError.key? : TemplateError → Option String
  | .emptyPlaceholder => some ""
  | .invalidKey key _ => some key
  | .unclosedPlaceholder => none

/-- What is wrong with a key is about that key. -/
theorem key?_of_keyError? {key : String} {e : TemplateError} (h : keyError? key = some e) :
    e.key? = some key := by
  rcases eq_of_keyError? h with ⟨rfl, rfl⟩ | ⟨cause, rfl, -, -⟩
  · rfl
  · rfl

/-- The first key that is refused is the first one that never resolves. -/
theorem findSome?_keyError? (ks : List String) :
    ks.findSome? keyError? = (ks.find? (NeverResolves ·)).bind keyError? := by
  induction ks with
  | nil => rfl
  | cons key ks ih =>
    have hnever : decide (NeverResolves key) = (keyError? key).isSome :=
      Bool.eq_iff_iff.mpr (decide_eq_true_iff.trans neverResolves_iff)
    rw [List.findSome?_cons, List.find?_cons, hnever]
    cases hkey : keyError? key with
    | none => exact ih
    | some e => exact hkey.symm

/-- An error about a key is that the key is empty, or that it is no path. -/
theorem key?_isSome_iff {e : TemplateError} :
    e.key?.isSome = true ↔ e = .emptyPlaceholder ∨ ∃ key cause, e = .invalidKey key cause := by
  cases e <;> simp [TemplateError.key?]

section Refused

variable {template text : String} {pieces : List Part}

/-- A template with a key that never resolves is refused for the first such key. -/
theorem exists_parse_eq_error (h : Scan template.toList pieces) {key : String}
    (hfind : (keys pieces).find? (NeverResolves ·) = some key) :
    ∃ e, parse template = .error e ∧ e.key? = some key := by
  have hnever := List.find?_some hfind
  obtain ⟨e, he⟩ :=
    Option.isSome_iff_exists.mp (neverResolves_iff.mp (of_decide_eq_true hnever))
  obtain ⟨text, -, hfirst⟩ := h.exists_firstError?_eq
  refine ⟨e, (parse_eq_error_iff h).mpr ?_, key?_of_keyError? he⟩
  rw [hfirst, findSome?_keyError?, hfind, Option.bind_some, he, Option.some_or]

/-- A template without such a key can only be refused for the text behind the last one. -/
theorem parse_eq_error_iff_of_find?_eq_none (h : Scan template.toList pieces)
    (hlast : pieces.getLast? = some (.literal text))
    (hfind : (keys pieces).find? (NeverResolves ·) = none) {e : TemplateError} :
    parse template = .error e ↔
      e = .unclosedPlaceholder ∧ ∃ b a, text.toList = b ++ '\x7b' :: '\x7b' :: a := by
  obtain ⟨text', hlast', hfirst⟩ := h.exists_firstError?_eq
  obtain rfl : text = text' := Part.literal.inj (Option.some.inj (hlast.symm.trans hlast'))
  rw [parse_eq_error_iff h, hfirst, findSome?_keyError?, hfind, Option.bind_none, Option.none_or,
    endError?_eq_some_iff]

/-- The key that an error is about is the first one that never resolves. -/
theorem key?_eq_find? (h : Scan template.toList pieces) {e : TemplateError}
    (he : parse template = .error e) : e.key? = (keys pieces).find? (NeverResolves ·) := by
  cases hfind : (keys pieces).find? (NeverResolves ·) with
  | some key =>
    obtain ⟨e', he', hkey⟩ := exists_parse_eq_error h hfind
    rw [Except.error.inj (he.symm.trans he')]
    exact hkey
  | none =>
    obtain ⟨text, hlast, -⟩ := h.exists_firstError?_eq
    rw [((parse_eq_error_iff_of_find?_eq_none h hlast hfind).mp he).1]
    rfl

/-- A template is refused for a key exactly if one of its keys never resolves. -/
theorem exists_parse_eq_error_iff (h : Scan template.toList pieces) :
    (∃ e, parse template = .error e ∧ e.key?.isSome = true) ↔
      ∃ key ∈ keys pieces, NeverResolves key := by
  have hfind : ((keys pieces).find? (NeverResolves ·)).isSome = true ↔
      ∃ key ∈ keys pieces, NeverResolves key := by simp
  rw [← hfind]
  constructor
  · rintro ⟨e, he, hkey⟩
    rwa [key?_eq_find? h he] at hkey
  · intro hsome
    obtain ⟨key, hkey⟩ := Option.isSome_iff_exists.mp hsome
    obtain ⟨e, he, hkey'⟩ := exists_parse_eq_error h hkey
    exact ⟨e, he, by rw [hkey']; rfl⟩

end Refused

/-- **The check of a template refuses exactly the keys that resolve nowhere.**  Of the placeholders
that filling in finds, it is about one that stays empty in every item, if there is one, and about
the first of these.  It is about an opening pair behind the last placeholder if there is none.  And
in a template that passes every key resolves in some item. -/
theorem parse_refuses_neverResolves (template : String) :
    ∃ pieces text, Scan template.toList pieces ∧ pieces.getLast? = some (.literal text) ∧
      (∀ item index, (expand template item index).unresolved =
        (keys pieces).filter fun key => (textOf? item index key).isNone) ∧
      ((parse template = .error .emptyPlaceholder ∨
          ∃ key cause, parse template = .error (.invalidKey key cause)) ↔
        ∃ key ∈ keys pieces, NeverResolves key) ∧
      (∀ e, parse template = .error e → e.key? = (keys pieces).find? (NeverResolves ·)) ∧
      (parse template = .error .unclosedPlaceholder ↔
        (∀ key ∈ keys pieces, ¬NeverResolves key) ∧
          ∃ b a, text.toList = b ++ '\x7b' :: '\x7b' :: a) ∧
      (∀ parts, parse template = .ok parts → ∀ key ∈ keys pieces,
        ∃ item, ResolvesIn item key ∧ ∀ index, (textOf? item index key).isSome = true) := by
  obtain ⟨pieces, hscan⟩ := exists_scan template.toList
  obtain ⟨text, hlast, -⟩ := hscan.exists_firstError?_eq
  have hnone : (keys pieces).find? (NeverResolves ·) = none ↔
      ∀ key ∈ keys pieces, ¬NeverResolves key := by simp
  refine ⟨pieces, text, hscan, hlast, fun item index => ?_, ?_,
    fun e he => key?_eq_find? hscan he, ?_, fun parts hparts key hkey => ?_⟩
  · rw [expand_eq_fillPieces item index hscan, unresolved_fillPieces]
  · rw [← exists_parse_eq_error_iff hscan]
    constructor
    · rintro (he | ⟨key, cause, he⟩)
      · exact ⟨_, he, rfl⟩
      · exact ⟨_, he, rfl⟩
    · rintro ⟨e, he, hkey⟩
      rcases key?_isSome_iff.mp hkey with rfl | ⟨key, cause, rfl⟩
      · exact .inl he
      · exact .inr ⟨key, cause, he⟩
  · constructor
    · intro he
      have hfind := (key?_eq_find? hscan he).symm
      exact ⟨hnone.mp hfind,
        ((parse_eq_error_iff_of_find?_eq_none hscan hlast hfind).mp he).2⟩
    · rintro ⟨hall, hopens⟩
      exact (parse_eq_error_iff_of_find?_eq_none hscan hlast (hnone.mpr hall)).mpr ⟨rfl, hopens⟩
  · have hresolves : ¬NeverResolves key := by
      intro hnever
      obtain ⟨e, he, -⟩ := (exists_parse_eq_error_iff hscan).mpr ⟨key, hkey, hnever⟩
      exact absurd (hparts.symm.trans he) (by simp)
    exact exists_item_of_not_neverResolves hresolves

/-- A placeholder without a key is what a template is refused for, although its first key is in
order and the braces at its end are not. -/
theorem parse_refuses_neverResolves_empty :
    ∃ pieces, Scan "\x7b\x7b . \x7d\x7d\x7b\x7b \x7d\x7d\x7b\x7b".toList pieces ∧
      parse "\x7b\x7b . \x7d\x7d\x7b\x7b \x7d\x7d\x7b\x7b" = .error .emptyPlaceholder ∧
      (keys pieces).find? (NeverResolves ·) = some "" := by
  have hparse : parse "\x7b\x7b . \x7d\x7d\x7b\x7b \x7d\x7d\x7b\x7b" =
      .error .emptyPlaceholder := by cbv
  obtain ⟨pieces, text, hscan, -, -, -, hfind, -⟩ :=
    parse_refuses_neverResolves "\x7b\x7b . \x7d\x7d\x7b\x7b \x7d\x7d\x7b\x7b"
  exact ⟨pieces, hscan, hparse, (hfind _ hparse).symm⟩

end Template
end DocPipe
