import DocPipe.Proofs.Json.Reread
import DocPipe.Proofs.Value.Parts

/-!
# Printing a value and reading it again

A value that has been printed is read as itself, provided that its numbers come back alone, that no
object has a key twice, and that its brackets nest within the room that the reader has.

Each part of a text is read in front of whatever stands behind it, so every lemma here has a `tail`.
For most parts the tail can be anything.  Only a number has to know that it has ended, and what is
printed behind a value is a comma, a bracket or nothing.

## The loops

The loops over items and fields count down from the length of the whole text.  That is enough since
what is printed for an item takes up at least one character.
-/

namespace DocPipe
namespace Json

/-! ## Strings -/

/-- The four digits of an escaped control form its number. -/
theorem numberIn?_controlDigits {n : Nat} (hn : n < 0x20) :
    Text.numberIn? 16 ['0', '0', Nat.digitChar (n / 16), Nat.digitChar (n % 16)] = some n := by
  have hall : ∀ m < 0x20,
      Text.numberIn? 16 ['0', '0', Nat.digitChar (m / 16), Nat.digitChar (m % 16)] = some m := by
    decide
  exact hall n hn

/-- The escape of a control is read as that control. -/
theorem readEscape_control {c : Char} (hc : c.toNat < 0x20) (tail : List Char) :
    readEscape ('u' :: '0' :: '0' :: Nat.digitChar (c.toNat / 16) ::
      Nat.digitChar (c.toNat % 16) :: tail) = .ok (c, 5) := by
  have hhex : hexEscape ('0' :: '0' :: Nat.digitChar (c.toNat / 16) ::
      Nat.digitChar (c.toNat % 16) :: tail) = .ok c.toNat := by
    have hdigits : Text.numberIn? 16 (('0' :: '0' :: Nat.digitChar (c.toNat / 16) ::
        Nat.digitChar (c.toNat % 16) :: tail).take 4) = some c.toNat := numberIn?_controlDigits hc
    rw [hexEscape, hdigits]
    rfl
  rw [readEscape, hhex]
  simp only
  rw [if_neg (by omega), if_neg (by omega), Char.ofNat_toNat]

theorem readString_backslash {cs tail : List Char} {c : Char} {length : Nat}
    (hescape : readEscape cs = .ok (c, length)) (htail : cs.drop length = tail) :
    readString ('\\' :: cs) = (readString tail).map fun p => (c :: p.1, p.2) := by
  rw [readString, if_neg (by decide), if_pos rfl, hescape]
  simp only
  rw [htail]

/-- A character is escaped by a mark that stands for it, or by its number if it is a control, or it
stands for itself. -/
theorem cases_of_escape (c : Char) :
    (∃ mark, escape c = ['\\', mark] ∧ ∀ tail, readEscape (mark :: tail) = .ok (c, 1)) ∨
    (c.toNat < 0x20 ∧ escape c = controlEscape c) ∨
    (c ≠ '"' ∧ c ≠ '\\' ∧ ¬c.toNat < 0x20 ∧ escape c = [c]) := by
  by_cases hmark : c ∈ ['"', '\\', '\x08', '\x0c', '\n', '\r', '\t']
  · simp only [List.mem_cons, List.not_mem_nil, or_false] at hmark
    rcases hmark with rfl | rfl | rfl | rfl | rfl | rfl | rfl <;>
      exact Or.inl ⟨_, rfl, fun _ => rfl⟩
  · simp only [List.mem_cons, List.not_mem_nil, or_false, not_or] at hmark
    obtain ⟨hquote, hbackslash, hbackspace, hfeed, hbreak, hreturn, htab⟩ := hmark
    have hescape : escape c = if c.toNat < 0x20 then controlEscape c else [c] := by
      rw [escape, if_neg hquote, if_neg hbackslash, if_neg hbackspace, if_neg hfeed,
        if_neg hbreak, if_neg hreturn, if_neg htab]
    by_cases hcontrol : c.toNat < 0x20
    · exact Or.inr (Or.inl ⟨hcontrol, hescape.trans (if_pos hcontrol)⟩)
    · exact Or.inr (Or.inr ⟨hquote, hbackslash, hcontrol, hescape.trans (if_neg hcontrol)⟩)

/-- What is written for a character of a string is read as that character. -/
theorem readString_escape (c : Char) (tail : List Char) :
    readString (escape c ++ tail) = (readString tail).map fun p => (c :: p.1, p.2) := by
  rcases cases_of_escape c with ⟨mark, hmark, hread⟩ | ⟨hcontrol, hescape⟩ |
    ⟨hquote, hbackslash, hcontrol, hescape⟩
  · rw [hmark]
    exact readString_backslash (hread tail) rfl
  · rw [hescape]
    exact readString_backslash (readEscape_control hcontrol tail) rfl
  · rw [hescape, List.singleton_append, readString, if_neg hquote, if_neg hbackslash,
      if_neg hcontrol]

/-- What is written for a string, behind its opening quote, is read as that string. -/
theorem readString_flatMap_escape (cs tail : List Char) :
    readString (cs.flatMap escape ++ '"' :: tail) = .ok (cs, tail) := by
  induction cs with
  | nil =>
    rw [List.flatMap_nil, List.nil_append, readString, if_pos rfl]
  | cons c cs ih =>
    rw [List.flatMap_cons, List.append_assoc, readString_escape, ih]
    rfl

/-! ## Lists -/

/-- The first text has no comma in front, and every other one has. -/
theorem commaSeparated_cons (t : List Char) (ts : List (List Char)) :
    commaSeparated (t :: ts) = t ++ ts.flatMap (',' :: ·) := by
  induction ts generalizing t with
  | nil => rw [List.flatMap_nil, List.append_nil, commaSeparated_singleton]
  | cons u us ih =>
    rw [commaSeparated, ih, List.flatMap_cons, List.cons_append]
    exact fun h => List.cons_ne_nil u us h

/-- Texts that are not empty take up at least a character each. -/
theorem length_le_length_commaSeparated {ts : List (List Char)} (h : ∀ t ∈ ts, t ≠ []) :
    ts.length ≤ (commaSeparated ts).length := by
  cases ts with
  | nil => simp
  | cons t ts =>
    have htail : ts.length ≤ (ts.flatMap (',' :: ·)).length := by
      clear h
      induction ts with
      | nil => simp
      | cons u us ih =>
        rw [List.flatMap_cons, List.length_append, List.length_cons, List.length_cons]
        omega
    have hhead : 0 < t.length := List.length_pos_iff.mpr (h t List.mem_cons_self)
    rw [commaSeparated_cons, List.length_append, List.length_cons]
    omega

/-- Each text is a part of the whole. -/
theorem length_le_of_mem_commaSeparated {t : List Char} {ts : List (List Char)} (h : t ∈ ts) :
    t.length ≤ (commaSeparated ts).length := by
  cases ts with
  | nil => simp at h
  | cons u us =>
    rw [commaSeparated_cons, List.length_append]
    rcases List.mem_cons.mp h with rfl | hmem
    · omega
    · obtain ⟨l, r, rfl⟩ := List.append_of_mem hmem
      rw [List.flatMap_append, List.flatMap_cons, List.length_append, List.length_append,
        List.length_cons]
      omega

/-- Whether a text can begin a value, as opposed to the end of a list. -/
def BeginsValue (cs : List Char) : Prop :=
  ∃ c rest, cs = c :: rest ∧ isJsonBlank c = false ∧ c ≠ ']'

theorem readItems_end (read : List Char → Step Value) (fuel : Nat) (first : Bool)
    (tail : List Char) : readItems read (fuel + 1) first (']' :: tail) = .ok ([], tail) := rfl

theorem readItems_first {read : List Char → Step Value} {cs behind : List Char} {v : Value}
    (hbegins : BeginsValue cs) (hread : read cs = .ok (v, behind)) (fuel : Nat) :
    readItems read (fuel + 1) true cs =
      (readItems read fuel false behind).map fun p => (v :: p.1, p.2) := by
  obtain ⟨c, rest, rfl, hblank, hbracket⟩ := hbegins
  have hskip : skipBlanks (c :: rest) = c :: rest :=
    List.dropWhile_cons_of_neg (by simp [hblank])
  rw [readItems, hskip]
  simp only
  rw [if_neg hbracket, if_pos trivial, hread]

theorem readItems_comma {read : List Char → Step Value} {cs behind : List Char} {v : Value}
    (hbegins : BeginsValue cs) (hread : read cs = .ok (v, behind)) (fuel : Nat) :
    readItems read (fuel + 1) false (',' :: cs) =
      (readItems read fuel false behind).map fun p => (v :: p.1, p.2) := by
  obtain ⟨c, rest, rfl, hblank, hbracket⟩ := hbegins
  have hskip : skipBlanks (c :: rest) = c :: rest :=
    List.dropWhile_cons_of_neg (by simp [hblank])
  have hcomma : skipBlanks (',' :: c :: rest) = ',' :: c :: rest := rfl
  rw [readItems, hcomma]
  simp only
  rw [if_neg (by decide), if_neg (by decide), if_pos trivial, hskip]
  split
  · rename_i heq
    exact absurd heq (List.cons_ne_nil c rest)
  · rename_i heq
    exact absurd (List.cons.inj heq).1 hbracket
  · rw [hread]

/-- Whether a reader reads what is printed for a value as that value, in front of anything at which
numbers stop. -/
def ReadsPrinted (read : List Char → Step Value) (v : Value) : Prop :=
  ∀ tail, NumberStops tail → read (print v ++ tail) = .ok (v, tail)

theorem BeginsValue.append {cs : List Char} (h : BeginsValue cs) (tail : List Char) :
    BeginsValue (cs ++ tail) := by
  obtain ⟨c, rest, rfl, hblank, hbracket⟩ := h
  exact ⟨c, rest ++ tail, rfl, hblank, hbracket⟩

theorem numberStops_behind (vs : List Value) (tail : List Char) :
    NumberStops ((vs.map print).flatMap (',' :: ·) ++ ']' :: tail) := by
  cases vs with
  | nil => exact ⟨rfl, by decide, by decide, by decide⟩
  | cons v vs => exact ⟨rfl, by decide, by decide, by decide⟩

/-- The items behind the first one are read up to the bracket. -/
theorem readItems_behind {read : List Char → Step Value} {vs : List Value}
    (hbegins : ∀ v ∈ vs, BeginsValue (print v)) (hread : ∀ v ∈ vs, ReadsPrinted read v)
    {fuel : Nat} (hfuel : vs.length < fuel) (tail : List Char) :
    readItems read fuel false ((vs.map print).flatMap (',' :: ·) ++ ']' :: tail) =
      .ok (vs, tail) := by
  obtain ⟨fuel, rfl⟩ : ∃ n, fuel = n + 1 := ⟨fuel - 1, by omega⟩
  induction vs generalizing fuel with
  | nil => exact readItems_end read fuel false tail
  | cons v vs ih =>
    obtain ⟨hv, hvs⟩ := List.forall_mem_cons.mp hread
    obtain ⟨hb, hbs⟩ := List.forall_mem_cons.mp hbegins
    rw [List.length_cons] at hfuel
    obtain ⟨fuel, rfl⟩ : ∃ n, fuel = n + 1 := ⟨fuel - 1, by omega⟩
    rw [List.map_cons, List.flatMap_cons, List.append_assoc, List.cons_append,
      readItems_comma (hb.append _) (hv _ (numberStops_behind vs tail)),
      ih hbs hvs fuel (by omega)]
    rfl

/-- **The items of a printed list are read up to its bracket.** -/
theorem readItems_printed {read : List Char → Step Value} {vs : List Value}
    (hbegins : ∀ v ∈ vs, BeginsValue (print v)) (hread : ∀ v ∈ vs, ReadsPrinted read v)
    {fuel : Nat} (hfuel : vs.length < fuel) (tail : List Char) :
    readItems read fuel true (commaSeparated (vs.map print) ++ ']' :: tail) = .ok (vs, tail) := by
  obtain ⟨fuel, rfl⟩ : ∃ n, fuel = n + 1 := ⟨fuel - 1, by omega⟩
  cases vs with
  | nil => exact readItems_end read fuel true tail
  | cons v vs =>
    obtain ⟨hv, hvs⟩ := List.forall_mem_cons.mp hread
    obtain ⟨hb, hbs⟩ := List.forall_mem_cons.mp hbegins
    rw [List.length_cons] at hfuel
    rw [List.map_cons, commaSeparated_cons, List.append_assoc,
      readItems_first (hb.append _) (hv _ (numberStops_behind vs tail)),
      readItems_behind hbs hvs (by omega) tail]
    rfl

/-! ## Objects -/

/-- What is printed for a field. -/
def printField (p : String × Value) : List Char := printString p.1 ++ ':' :: print p.2

/-- A printed field is read behind the opening quote of its key. -/
theorem readField_printed {read : List Char → Step Value} {p : String × Value} {behind : List Char}
    (hread : read (print p.2 ++ behind) = .ok (p.2, behind)) :
    ∃ cs, printField p ++ behind = '"' :: cs ∧ readField read cs = .ok (p, behind) := by
  refine ⟨p.1.toList.flatMap escape ++ '"' :: (':' :: (print p.2 ++ behind)), ?_, ?_⟩
  · simp [printField, printString]
  · rw [readField, readString_flatMap_escape]
    simp only
    have hcolon : skipBlanks (':' :: (print p.2 ++ behind)) = ':' :: (print p.2 ++ behind) := rfl
    rw [hcolon]
    simp only
    rw [hread, String.ofList_toList]
    rfl

theorem readFields_end (read : List Char → Step Value) (fuel : Nat) (first : Bool)
    (tail : List Char) : readFields read (fuel + 1) first ('\x7d' :: tail) = .ok ([], tail) := rfl

theorem readFields_first {read : List Char → Step Value} {cs behind : List Char}
    {p : String × Value} (hread : readField read cs = .ok (p, behind)) (fuel : Nat) :
    readFields read (fuel + 1) true ('"' :: cs) =
      (readFields read fuel false behind).map fun q => (p :: q.1, q.2) := by
  have hskip : skipBlanks ('"' :: cs) = '"' :: cs := rfl
  rw [readFields, hskip]
  simp only
  rw [if_neg (by decide), if_pos trivial, if_pos trivial, hread]

theorem readFields_comma {read : List Char → Step Value} {cs behind : List Char}
    {p : String × Value} (hread : readField read cs = .ok (p, behind)) (fuel : Nat) :
    readFields read (fuel + 1) false (',' :: '"' :: cs) =
      (readFields read fuel false behind).map fun q => (p :: q.1, q.2) := by
  have hskip : skipBlanks ('"' :: cs) = '"' :: cs := rfl
  have hcomma : skipBlanks (',' :: '"' :: cs) = ',' :: '"' :: cs := rfl
  rw [readFields, hcomma]
  simp only
  rw [if_neg (by decide), if_neg (by decide), if_pos trivial, hskip]
  simp only
  rw [hread]

theorem numberStops_behind_field (fields : List (String × Value)) (tail : List Char) :
    NumberStops ((fields.map printField).flatMap (',' :: ·) ++ '\x7d' :: tail) := by
  cases fields with
  | nil => exact ⟨rfl, by decide, by decide, by decide⟩
  | cons p rest => exact ⟨rfl, by decide, by decide, by decide⟩

/-- The fields behind the first one are read up to the brace. -/
theorem readFields_behind {read : List Char → Step Value} {fields : List (String × Value)}
    (hread : ∀ p ∈ fields, ReadsPrinted read p.2) {fuel : Nat} (hfuel : fields.length < fuel)
    (tail : List Char) :
    readFields read fuel false ((fields.map printField).flatMap (',' :: ·) ++ '\x7d' :: tail) =
      .ok (fields, tail) := by
  obtain ⟨fuel, rfl⟩ : ∃ n, fuel = n + 1 := ⟨fuel - 1, by omega⟩
  induction fields generalizing fuel with
  | nil => exact readFields_end read fuel false tail
  | cons p rest ih =>
    obtain ⟨hp, hrest⟩ := List.forall_mem_cons.mp hread
    rw [List.length_cons] at hfuel
    obtain ⟨fuel, rfl⟩ : ∃ n, fuel = n + 1 := ⟨fuel - 1, by omega⟩
    obtain ⟨cs, hcs, hfield⟩ := readField_printed (hp _ (numberStops_behind_field rest tail))
    rw [List.map_cons, List.flatMap_cons, List.append_assoc, List.cons_append, hcs,
      readFields_comma hfield, ih hrest fuel (by omega)]
    rfl

/-- **The fields of a printed object are read up to its brace.** -/
theorem readFields_printed {read : List Char → Step Value} {fields : List (String × Value)}
    (hread : ∀ p ∈ fields, ReadsPrinted read p.2) {fuel : Nat} (hfuel : fields.length < fuel)
    (tail : List Char) :
    readFields read fuel true (commaSeparated (fields.map printField) ++ '\x7d' :: tail) =
      .ok (fields, tail) := by
  obtain ⟨fuel, rfl⟩ : ∃ n, fuel = n + 1 := ⟨fuel - 1, by omega⟩
  cases fields with
  | nil => exact readFields_end read fuel true tail
  | cons p rest =>
    obtain ⟨hp, hrest⟩ := List.forall_mem_cons.mp hread
    rw [List.length_cons] at hfuel
    obtain ⟨cs, hcs, hfield⟩ := readField_printed (hp _ (numberStops_behind_field rest tail))
    rw [List.map_cons, commaSeparated_cons, List.append_assoc, hcs, readFields_first hfield,
      readFields_behind hrest (by omega) tail]
    rfl

/-! ## Values -/

theorem readValue_bracket (size room : Nat) (cs : List Char) :
    readValue size (room + 1) ('[' :: cs) =
      (readItems (readValue size room) size true cs).map fun p => (.array p.1, p.2) := by
  rw [readValue.eq_def]
  rfl

theorem readValue_brace (size room : Nat) (cs : List Char) :
    readValue size (room + 1) ('\x7b' :: cs) =
      (readFields (readValue size room) size true cs).map fun p =>
        (.object (Fields.ofPairs p.1), p.2) := by
  rw [readValue.eq_def]
  rfl

/-- Whether the numbers in a value come back alone. -/
def NumbersReread (v : Value) : Prop := ∀ n, .number n ∈ v.parts → n.IsReread

theorem NumbersReread.of_mem_parts {v w : Value} (hw : NumbersReread w) (hv : v ∈ w.parts) :
    NumbersReread v :=
  fun n hn => hw n (Value.mem_parts_trans hn hv)

/-- Only the fractional numbers of a value have to be looked at. -/
theorem numbersReread_of_float {v : Value}
    (h : ∀ x, .number (.float x) ∈ v.parts → (Number.float x).IsReread) : NumbersReread v := by
  intro n hn
  cases n with
  | integer n hfits => exact Number.isReread_integer n hfits
  | float x => exact h x hn

/-- What is printed for a value begins a value. -/
theorem beginsValue_print {v : Value} (hnumbers : NumbersReread v) : BeginsValue (print v) := by
  cases v with
  | null => exact ⟨_, _, rfl, rfl, by decide⟩
  | bool b => cases b <;> exact ⟨_, _, rfl, rfl, by decide⟩
  | string s => exact ⟨_, _, rfl, rfl, by decide⟩
  | array items => exact ⟨_, _, rfl, rfl, by decide⟩
  | object fields => exact ⟨_, _, rfl, rfl, by decide⟩
  | number n =>
    rcases readNumber_of_isReread (hnumbers n (Value.mem_parts_self _)) with
      ⟨cs, htext, -⟩ | ⟨c, cs, htext, hdigit, -⟩
    · exact ⟨_, _, htext, rfl, by decide⟩
    · refine ⟨c, cs, htext, isJsonBlank_of_isDigit hdigit, ?_⟩
      rintro rfl
      exact absurd hdigit (by decide)

/-- A printed list is read as itself if its items are, and if the loop can count them. -/
theorem readsPrinted_array {size room : Nat} {items : List Value}
    (hbegins : ∀ v ∈ items, BeginsValue (print v))
    (hread : ∀ v ∈ items, ReadsPrinted (readValue size room) v)
    (hsize : (print (.array items)).length ≤ size) :
    ReadsPrinted (readValue size (room + 1)) (.array items) := by
  rw [print, List.length_cons, List.length_append, printItems_eq_map, List.length_singleton]
    at hsize
  have hcount : items.length ≤ (commaSeparated (items.map print)).length := by
    have hne : ∀ t ∈ items.map print, t ≠ [] := by
      intro t ht
      obtain ⟨v, hv, rfl⟩ := List.mem_map.mp ht
      obtain ⟨c, rest, heq, -⟩ := hbegins v hv
      rw [heq]
      exact List.cons_ne_nil c rest
    have hle := length_le_length_commaSeparated hne
    rwa [List.length_map] at hle
  intro tail _
  rw [print, List.cons_append, List.append_assoc, readValue_bracket, printItems_eq_map,
    List.singleton_append, readItems_printed hbegins hread (by omega) tail]
  rfl

/-- A printed object is read as itself if the values of its fields are, and if the loop can count
them. -/
theorem readsPrinted_object {size room : Nat} {fields : Fields}
    (hkeys : (fields.map Prod.fst).Nodup)
    (hread : ∀ p ∈ fields, ReadsPrinted (readValue size room) p.2)
    (hsize : (print (.object fields)).length ≤ size) :
    ReadsPrinted (readValue size (room + 1)) (.object fields) := by
  have hprint : printFields fields = fields.map printField := printFields_eq_map fields
  rw [print, List.length_cons, List.length_append, hprint, List.length_singleton] at hsize
  have hcount : fields.length ≤ (commaSeparated (fields.map printField)).length := by
    have hne : ∀ t ∈ fields.map printField, t ≠ [] := by
      intro t ht
      obtain ⟨p, -, rfl⟩ := List.mem_map.mp ht
      exact List.cons_ne_nil _ _
    have hle := length_le_length_commaSeparated hne
    rwa [List.length_map] at hle
  intro tail _
  rw [print, List.cons_append, List.append_assoc, readValue_brace, hprint,
    List.singleton_append, readFields_printed hread (by omega) tail]
  show Except.ok (Value.object (Fields.ofPairs fields), tail) = _
  rw [Fields.ofPairs_of_nodup hkeys]

/-- What is printed for an item is a part of what is printed for the list. -/
theorem length_print_le_of_mem {items : List Value} {v : Value} (h : v ∈ items) :
    (print v).length ≤ (print (.array items)).length := by
  have hitem := length_le_of_mem_commaSeparated (List.mem_map_of_mem (f := print) h)
  rw [print, List.length_cons, List.length_append, printItems_eq_map]
  omega

/-- What is printed for the value of a field is a part of what is printed for the object. -/
theorem length_print_le_of_mem_fields {fields : Fields} {p : String × Value} (h : p ∈ fields) :
    (print p.2).length ≤ (print (.object fields)).length := by
  have hprint : printFields fields = fields.map printField := printFields_eq_map fields
  have hfield := length_le_of_mem_commaSeparated (List.mem_map_of_mem (f := printField) h)
  rw [printField, List.length_append, List.length_cons] at hfield
  rw [print, List.length_cons, List.length_append, hprint]
  omega

/-- **A printed value is read as itself**, whatever stands behind it, as long as numbers stop
there. -/
theorem readsPrinted_readValue {v : Value} {size room : Nat} (hkeys : v.HasDistinctKeys)
    (hnumbers : NumbersReread v) (hroom : v.nesting ≤ room) (hsize : (print v).length ≤ size) :
    ReadsPrinted (readValue size room) v := by
  induction v using Value.induct generalizing room with
  | scalar v hscalar =>
    intro tail hstop
    cases v with
    | null => rw [readValue.eq_def]; rfl
    | bool b => cases b <;> (rw [readValue.eq_def]; rfl)
    | number n => exact readValue_jsonText (hnumbers n (Value.mem_parts_self _)) size room hstop
    | string s =>
      rw [print, printString, List.cons_append, List.append_assoc, readValue.eq_def]
      show (readString _).map _ = _
      rw [List.singleton_append, readString_flatMap_escape]
      show Except.ok (Value.string (String.ofList s.toList), tail) = _
      rw [String.ofList_toList]
    | array items => exact absurd hscalar (by simp [Value.isPrimitive])
    | object fields => exact absurd hscalar (by simp [Value.isPrimitive])
  | array items ih =>
    obtain ⟨room, rfl⟩ : ∃ n, room = n + 1 := ⟨room - 1, by rw [Value.nesting] at hroom; omega⟩
    rw [Value.hasDistinctKeys_array_iff] at hkeys
    rw [Value.nesting_array_le_iff] at hroom
    have hparts : ∀ v ∈ items, NumbersReread v := fun v hv => hnumbers.of_mem_parts
      (Value.mem_parts_array_iff.mpr (Or.inr ⟨v, hv, Value.mem_parts_self v⟩))
    refine readsPrinted_array (fun v hv => beginsValue_print (hparts v hv)) (fun v hv => ?_) hsize
    exact ih v hv (hkeys v hv) (hparts v hv) (hroom v hv)
      (Nat.le_trans (length_print_le_of_mem hv) hsize)
  | object fields ih =>
    obtain ⟨room, rfl⟩ : ∃ n, room = n + 1 := ⟨room - 1, by rw [Value.nesting] at hroom; omega⟩
    rw [Value.hasDistinctKeys_object_iff] at hkeys
    rw [Value.nesting_object_le_iff] at hroom
    have hparts : ∀ p ∈ fields, NumbersReread p.2 := fun p hp => hnumbers.of_mem_parts
      (Value.mem_parts_object_iff.mpr (Or.inr ⟨p, hp, Value.mem_parts_self p.2⟩))
    refine readsPrinted_object hkeys.1 (fun p hp => ?_) hsize
    exact ih p hp (hkeys.2 p hp) (hparts p hp) (hroom p hp)
      (Nat.le_trans (length_print_le_of_mem_fields hp) hsize)

/-- Blanks end a number. -/
theorem numberStops_of_blanks {cs : List Char} (h : ∀ c ∈ cs, isJsonBlank c = true) :
    NumberStops cs := by
  cases cs with
  | nil => trivial
  | cons c cs =>
    have hc := h c List.mem_cons_self
    simp only [isJsonBlank, Bool.or_eq_true, beq_iff_eq] at hc
    rcases hc with ((rfl | rfl) | rfl) | rfl <;> exact ⟨rfl, by decide, by decide, by decide⟩

/-- **The text of a value, with blanks behind it, is read as the value.** -/
theorem read_toJson_append {v : Value} (hkeys : v.HasDistinctKeys) (hnumbers : NumbersReread v)
    (hnesting : v.nesting ≤ maxDepth) {blanks : String}
    (hblanks : ∀ c ∈ blanks.toList, isJsonBlank c = true) : read (v.toJson ++ blanks) = .ok v := by
  have htext : (v.toJson ++ blanks).toList = print v ++ blanks.toList := by
    rw [String.toList_append, Value.toJson, String.toList_ofList]
  have hskip : skipBlanks blanks.toList = [] := by
    rw [skipBlanks, ← List.append_nil blanks.toList, List.dropWhile_append_of_pos hblanks]
    rfl
  have hsize : (print v).length ≤ (print v ++ blanks.toList).length + 1 := by
    rw [List.length_append]
    omega
  have hvalue := readsPrinted_readValue hkeys hnumbers hnesting hsize blanks.toList
    (numberStops_of_blanks hblanks)
  rw [read, htext, readText, hvalue]
  simp only
  rw [hskip]
  rfl

end Json
end DocPipe
