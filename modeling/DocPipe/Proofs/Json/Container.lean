import DocPipe.Input
import DocPipe.Pipeline
import DocPipe.Proofs.Json.RoundTrip

/-!
# Lists and objects come back

The text of a list or an object is its JSON, in the compact form.  When such a text is given back
without saying what it is, it is taken for JSON, because it begins with a bracket or a brace, and it
is read as the value that was written.  The YAML reading, under which a string may turn into a
number and a number into a string, is never tried: it is only asked when the first reading fails.

So a line that a pipeline has printed for a list or an object can be the document of the next one.
This is not so for the other values: the text of a string is the string itself, and what that looks
like is anybody's guess.
-/

namespace DocPipe

namespace Json

/-- Texts with commas between them are what the core library makes of them. -/
theorem commaSeparated_eq_intercalate (ts : List (List Char)) :
    commaSeparated ts = [','].intercalate ts := by
  induction ts with
  | nil => rfl
  | cons t ts ih =>
    cases ts with
    | nil => rw [commaSeparated_singleton, List.intercalate_singleton]
    | cons u us =>
      rw [List.intercalate_cons_cons, ← ih, List.append_assoc]
      rfl

theorem toList_intercalate_comma (ts : List String) :
    (",".intercalate ts).toList = commaSeparated (ts.map String.toList) := by
  rw [commaSeparated_eq_intercalate, String.toList_intercalate]
  rfl

end Json

namespace Value

@[simp] theorem toList_toJson (v : Value) : v.toJson.toList = Json.print v :=
  String.toList_ofList

/-- The text of a list: its items between commas. -/
theorem text_array (items : List Value) :
    (array items).text = "[" ++ ",".intercalate (items.map toJson) ++ "]" := by
  have hmap : (items.map toJson).map String.toList = items.map Json.print := by
    rw [List.map_map]
    exact List.map_congr_left fun v _ => toList_toJson v
  show (array items).toJson = _
  apply String.toList_injective
  rw [toList_toJson, Json.print, Json.printItems_eq_map, String.toList_append,
    String.toList_append, Json.toList_intercalate_comma, hmap]
  rfl

/-- The text of an object: its fields between commas, in their order, each with a colon between the
key and the value. -/
theorem text_object (fields : Fields) :
    (object fields).text =
      "\x7b" ++ ",".intercalate (fields.map fun p => (string p.1).toJson ++ ":" ++ p.2.toJson) ++
        "\x7d" := by
  have hmap : (fields.map fun p => (string p.1).toJson ++ ":" ++ p.2.toJson).map String.toList =
      fields.map fun p => Json.printString p.1 ++ ':' :: Json.print p.2 := by
    rw [List.map_map]
    refine List.map_congr_left fun p _ => ?_
    rw [Function.comp_apply, String.toList_append, String.toList_append, toList_toJson,
      toList_toJson, Json.print, List.append_assoc]
    rfl
  show (object fields).toJson = _
  apply String.toList_injective
  rw [toList_toJson, Json.print, Json.printFields_eq_map, String.toList_append,
    String.toList_append, Json.toList_intercalate_comma, hmap]
  rfl

/-- What is not a scalar is a list or an object. -/
theorem array_or_object_of_not_isPrimitive {v : Value} (h : v.isPrimitive = false) :
    (∃ items, v = .array items) ∨ ∃ fields, v = .object fields := by
  cases v with
  | array items => exact .inl ⟨items, rfl⟩
  | object fields => exact .inr ⟨fields, rfl⟩
  | null => exact absurd h (by simp [isPrimitive])
  | bool b => exact absurd h (by simp [isPrimitive])
  | number n => exact absurd h (by simp [isPrimitive])
  | string s => exact absurd h (by simp [isPrimitive])

/-- The text of a list or an object is its JSON. -/
theorem text_of_not_isPrimitive {v : Value} (h : v.isPrimitive = false) : v.text = v.toJson := by
  rcases array_or_object_of_not_isPrimitive h with ⟨items, rfl⟩ | ⟨fields, rfl⟩
  · rfl
  · rfl

/-- The JSON of a list or an object begins with a bracket or a brace. -/
theorem exists_toList_toJson {v : Value} (h : v.isPrimitive = false) :
    ∃ c cs, v.toJson.toList = c :: cs ∧ (c = '\x7b' ∨ c = '[') := by
  rw [toList_toJson]
  rcases array_or_object_of_not_isPrimitive h with ⟨items, rfl⟩ | ⟨fields, rfl⟩
  · exact ⟨_, _, rfl, .inr rfl⟩
  · exact ⟨_, _, rfl, .inl rfl⟩

end Value

namespace Input

/-- **A list or an object that is written as JSON is taken for JSON and read as itself**, with
blanks behind it or without. -/
theorem read_toJson_append {v : Value} (hcontainer : v.isPrimitive = false)
    (hkeys : v.HasDistinctKeys) (hnumbers : Json.NumbersReread v)
    (hnesting : v.nesting ≤ Json.maxDepth) (blanks : String)
    (hblanks : ∀ c ∈ blanks.toList, Json.isJsonBlank c = true) :
    Input.read none (v.toJson ++ blanks) = .ok ⟨v, .json⟩ := by
  have hjson := Json.read_toJson_append hkeys hnumbers hnesting hblanks
  obtain ⟨c, cs, hcs, hc⟩ := Value.exists_toList_toJson hcontainer
  have htext : (v.toJson ++ blanks).toList = c :: (cs ++ blanks.toList) := by
    rw [String.toList_append, hcs]
    rfl
  have hlooks : looksLikeJson (v.toJson ++ blanks) = true := by
    unfold looksLikeJson
    rw [htext]
    rcases hc with rfl | rfl <;> rfl
  have hblank : Text.isBlankText (v.toJson ++ blanks).toList = false := by
    rw [htext]
    rcases hc with rfl | rfl <;> rfl
  unfold Input.read
  rw [hblank]
  show readEither _ = _
  unfold readEither readJson
  rw [if_pos hlooks, hjson]
  rfl

/-- **The text of a list or an object is read as that list or object**, and taken for JSON.  The
text has no blanks between its parts and keeps the order of the fields.  If such a value is all that
a pipeline without a template yields, then the pipeline prints one line, and that line is read as
the value. -/
theorem read_text_of_container {v : Value} (hcontainer : v.isPrimitive = false)
    (hkeys : v.HasDistinctKeys)
    (hnumbers : ∀ x, .number (.float x) ∈ v.parts → (Number.float x).IsReread)
    (hnesting : v.nesting ≤ 127) :
    Input.read none v.text = .ok ⟨v, .json⟩ ∧
    (∀ items, v = .array items →
      v.text = "[" ++ ",".intercalate (items.map Value.toJson) ++ "]") ∧
    (∀ fields, v = .object fields →
      v.text = "\x7b" ++ ",".intercalate
        (fields.map fun p => (Value.string p.1).toJson ++ ":" ++ p.2.toJson) ++ "\x7d") ∧
    ∀ (pipeline : Pipeline) (document : Value), pipeline.template = none →
      pipeline.items document = [v] →
      ∃ line, pipeline.render document = [line] ∧ Input.read none line = .ok ⟨v, .json⟩ := by
  have hread : Input.read none v.text = .ok ⟨v, .json⟩ := by
    have happend := read_toJson_append hcontainer hkeys (Json.numbersReread_of_float hnumbers)
      hnesting "" (by simp)
    rwa [String.append_empty, ← Value.text_of_not_isPrimitive hcontainer] at happend
  refine ⟨hread, ?_, ?_, ?_⟩
  · rintro items rfl
    exact Value.text_array items
  · rintro fields rfl
    exact Value.text_object fields
  · intro pipeline document htemplate hitems
    refine ⟨v.text, ?_, hread⟩
    unfold Pipeline.render Pipeline.line
    rw [hitems, htemplate]
    rfl

/-- An object whose string looks like YAML, and whose keys are in no order, comes back from the line
of a pipeline. -/
theorem read_text_of_yaml_lookalike :
    ∃ v line, v = .object [("b", .array []), ("a", .string "- \"x\": 1\n")] ∧
      ({} : Pipeline).render (.array [v]) = [line] ∧
      line = "\x7b\"b\":[],\"a\":\"- \\\"x\\\": 1\\n\"\x7d" ∧
      Input.read none line = .ok ⟨v, .json⟩ := by
  refine ⟨_, _, rfl, ?_, rfl, ?_⟩
  · cbv
  · have hkeys :
        (Value.object [("b", .array []), ("a", .string "- \"x\": 1\n")]).HasDistinctKeys := by
      simp [Value.HasDistinctKeys, Value.parts, Value.partsOfFields, Value.partsOfItems]
    have htext : (Value.object [("b", .array []), ("a", .string "- \"x\": 1\n")]).text =
        "\x7b\"b\":[],\"a\":\"- \\\"x\\\": 1\\n\"\x7d" := by cbv
    rw [← htext]
    exact (read_text_of_container rfl hkeys
      (by simp [Value.parts, Value.partsOfFields, Value.partsOfItems]) (by decide)).1

end Input
end DocPipe
