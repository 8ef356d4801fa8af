import DocPipe.Path.Lookup

/-!
# The parts of a value

A property of a document is often one of everything in it: that no key is written twice, that its
numbers are of some kind, that its brackets nest only so deep.  `Value.parts` lists everything in a
value, so that such a property can be stated once, and `Value.nesting` counts the brackets.

## Distinct keys

The type of values allows an object with a key written twice, but no reader produces one: setting a
key again replaces its value.  `Value.HasDistinctKeys` says so for all the objects in a value.  It
is what makes the fields of an object come back in order when the object is written and read again.

## Going down a path stays inside

Whatever a path selects is a part of the document.  Hence what holds of every part of the document
holds of every part of every selected item.
-/

namespace DocPipe

namespace Value

/-- A property holds of a value when it holds of the scalars, and of a list or an object whenever it
holds of everything directly inside. -/
@[elab_as_elim]
theorem induct {motive : Value → Prop} (scalar : ∀ v, v.isPrimitive = true → motive v)
    (array : ∀ items, (∀ v ∈ items, motive v) → motive (.array items))
    (object : ∀ fields, (∀ p ∈ fields, motive p.2) → motive (.object fields)) :
    ∀ v, motive v
  | .null => scalar .null rfl
  | .bool b => scalar (.bool b) rfl
  | .number n => scalar (.number n) rfl
  | .string s => scalar (.string s) rfl
  | .array items => array items fun v hv =>
    have : sizeOf v < sizeOf items := List.sizeOf_lt_of_mem hv
    induct scalar array object v
  | .object fields => object fields fun p hp =>
    have : sizeOf p < sizeOf fields := List.sizeOf_lt_of_mem hp
    have : sizeOf p.2 < sizeOf p := by cases p; simp +arith
    induct scalar array object p.2
termination_by v => sizeOf v
decreasing_by all_goals simp +arith; omega

/-! ## Everything in a value -/

mutual

/-- A value and everything inside it, from left to right. -/
def parts : Value → List Value
  | .null => [.null]
  | .bool b => [.bool b]
  | .number n => [.number n]
  | .string s => [.string s]
  | .array items => .array items :: partsOfItems items
  | .object fields => .object fields :: partsOfFields fields

/-- The parts of the items of a list. -/
def partsOfItems : List Value → List Value
  | [] => []
  | v :: vs => parts v ++ partsOfItems vs

/-- The parts of the values of fields. -/
def partsOfFields : List (String × Value) → List Value
  | [] => []
  | (_, v) :: rest => parts v ++ partsOfFields rest

end

theorem partsOfItems_eq_flatMap (items : List Value) :
    partsOfItems items = items.flatMap parts := by
  induction items with
  | nil => rfl
  | cons v vs ih => rw [partsOfItems, ih, List.flatMap_cons]

theorem partsOfFields_eq_flatMap (fields : List (String × Value)) :
    partsOfFields fields = fields.flatMap fun p => parts p.2 := by
  induction fields with
  | nil => rfl
  | cons p rest ih => rw [partsOfFields, ih, List.flatMap_cons]

theorem parts_of_isPrimitive {v : Value} (h : v.isPrimitive = true) : v.parts = [v] := by
  cases v with
  | array => exact absurd h (by simp [isPrimitive])
  | object => exact absurd h (by simp [isPrimitive])
  | _ => rw [parts]

theorem mem_parts_array_iff {w : Value} {items : List Value} :
    w ∈ (array items).parts ↔ w = .array items ∨ ∃ v ∈ items, w ∈ v.parts := by
  rw [parts, List.mem_cons, partsOfItems_eq_flatMap, List.mem_flatMap]

theorem mem_parts_object_iff {w : Value} {fields : List (String × Value)} :
    w ∈ (object fields).parts ↔ w = .object fields ∨ ∃ p ∈ fields, w ∈ p.2.parts := by
  rw [parts, List.mem_cons, partsOfFields_eq_flatMap, List.mem_flatMap]

/-- A value is a part of itself. -/
theorem mem_parts_self (v : Value) : v ∈ v.parts := by
  cases v <;> simp [parts]

/-- A part of a part is a part. -/
theorem mem_parts_trans {u v w : Value} (hu : u ∈ v.parts) (hv : v ∈ w.parts) : u ∈ w.parts := by
  induction w using Value.induct with
  | scalar w hw =>
    rw [parts_of_isPrimitive hw, List.mem_singleton] at hv
    exact hv ▸ hu
  | array items ih =>
    rcases mem_parts_array_iff.mp hv with rfl | ⟨x, hx, hvx⟩
    · exact hu
    · exact mem_parts_array_iff.mpr (Or.inr ⟨x, hx, ih x hx hvx⟩)
  | object fields ih =>
    rcases mem_parts_object_iff.mp hv with rfl | ⟨p, hp, hvp⟩
    · exact hu
    · exact mem_parts_object_iff.mpr (Or.inr ⟨p, hp, ih p hp hvp⟩)

/-! ## Nesting -/

mutual

/-- How many brackets are open at the deepest place in a value. -/
def nesting : Value → Nat
  | .null | .bool _ | .number _ | .string _ => 0
  | .array items => nestingOfItems items + 1
  | .object fields => nestingOfFields fields + 1

/-- The deepest nesting of the items of a list. -/
def nestingOfItems : List Value → Nat
  | [] => 0
  | v :: vs => max (nesting v) (nestingOfItems vs)

/-- The deepest nesting of the values of fields. -/
def nestingOfFields : List (String × Value) → Nat
  | [] => 0
  | (_, v) :: rest => max (nesting v) (nestingOfFields rest)

end

theorem nestingOfItems_le_iff {items : List Value} {n : Nat} :
    nestingOfItems items ≤ n ↔ ∀ v ∈ items, v.nesting ≤ n := by
  induction items with
  | nil => simp [nestingOfItems]
  | cons v vs ih => rw [nestingOfItems, Nat.max_le, ih, List.forall_mem_cons]

theorem nestingOfFields_le_iff {fields : List (String × Value)} {n : Nat} :
    nestingOfFields fields ≤ n ↔ ∀ p ∈ fields, p.2.nesting ≤ n := by
  induction fields with
  | nil => simp [nestingOfFields]
  | cons p rest ih => rw [nestingOfFields, Nat.max_le, ih, List.forall_mem_cons]

/-- A list nests within a bound that leaves room for its own bracket. -/
theorem nesting_array_le_iff {items : List Value} {n : Nat} :
    (array items).nesting ≤ n + 1 ↔ ∀ v ∈ items, v.nesting ≤ n := by
  rw [nesting, Nat.add_le_add_iff_right, nestingOfItems_le_iff]

/-- An object nests within a bound that leaves room for its own bracket. -/
theorem nesting_object_le_iff {fields : List (String × Value)} {n : Nat} :
    (object fields).nesting ≤ n + 1 ↔ ∀ p ∈ fields, p.2.nesting ≤ n := by
  rw [nesting, Nat.add_le_add_iff_right, nestingOfFields_le_iff]

/-! ## Distinct keys -/

/-- Whether every object in a value has each of its keys once. -/
def HasDistinctKeys (v : Value) : Prop :=
  ∀ fields, .object fields ∈ v.parts → (fields.map Prod.fst).Nodup

/-- What holds of the keys in a value holds of the keys in its parts. -/
theorem HasDistinctKeys.of_mem_parts {v w : Value} (hw : w.HasDistinctKeys) (hv : v ∈ w.parts) :
    v.HasDistinctKeys :=
  fun fields hfields => hw fields (mem_parts_trans hfields hv)

theorem hasDistinctKeys_of_isPrimitive {v : Value} (h : v.isPrimitive = true) :
    v.HasDistinctKeys := by
  intro fields hfields
  rw [parts_of_isPrimitive h, List.mem_singleton] at hfields
  rw [← hfields] at h
  exact absurd h (by simp [isPrimitive])

theorem hasDistinctKeys_array_iff {items : List Value} :
    (array items).HasDistinctKeys ↔ ∀ v ∈ items, v.HasDistinctKeys := by
  refine ⟨fun h v hv => h.of_mem_parts (mem_parts_array_iff.mpr (Or.inr ⟨v, hv, mem_parts_self v⟩)),
    fun h fields hfields => ?_⟩
  rcases mem_parts_array_iff.mp hfields with heq | ⟨v, hv, hmem⟩
  · exact absurd heq (by simp)
  · exact h v hv fields hmem

theorem hasDistinctKeys_object_iff {fields : List (String × Value)} :
    (object fields).HasDistinctKeys ↔
      (fields.map Prod.fst).Nodup ∧ ∀ p ∈ fields, p.2.HasDistinctKeys := by
  constructor
  · intro h
    refine ⟨h fields (mem_parts_self _), fun p hp => h.of_mem_parts ?_⟩
    exact mem_parts_object_iff.mpr (Or.inr ⟨p, hp, mem_parts_self p.2⟩)
  · rintro ⟨hkeys, hvalues⟩ inner hinner
    rcases mem_parts_object_iff.mp hinner with heq | ⟨p, hp, hmem⟩
    · rw [Value.object.injEq] at heq
      exact heq ▸ hkeys
    · exact hvalues p hp inner hmem

end Value

/-! ## Setting fields -/

namespace Fields

/-- Setting a key that is there keeps the keys, and any other comes last. -/
theorem keys_put (fields : Fields) (key : String) (value : Value) :
    (put fields key value).map Prod.fst =
      if key ∈ fields.map Prod.fst then fields.map Prod.fst
      else fields.map Prod.fst ++ [key] := by
  induction fields with
  | nil => rfl
  | cons p rest ih =>
    obtain ⟨k, v⟩ := p
    by_cases h : k = key
    · rw [put, if_pos h, if_pos (by simp [h])]
      rfl
    · have hmem : key ∈ ((k, v) :: rest).map Prod.fst ↔ key ∈ rest.map Prod.fst := by
        simp [Ne.symm h]
      rw [put, if_neg h, List.map_cons, ih]
      by_cases hrest : key ∈ rest.map Prod.fst
      · rw [if_pos hrest, if_pos (hmem.mpr hrest), List.map_cons]
      · rw [if_neg hrest, if_neg (fun hk => hrest (hmem.mp hk)), List.map_cons, List.cons_append]

/-- A key that is not there is set at the end. -/
theorem put_of_notMem {fields : Fields} {key : String} (h : key ∉ fields.map Prod.fst)
    (value : Value) : put fields key value = fields ++ [(key, value)] := by
  induction fields with
  | nil => rfl
  | cons p rest ih =>
    obtain ⟨k, v⟩ := p
    rw [List.map_cons, List.mem_cons, not_or] at h
    rw [put, if_neg (Ne.symm h.1), ih h.2, List.cons_append]

/-- After setting a key, a field is the new one or an old one. -/
theorem mem_put {fields : Fields} {key : String} {value : Value} {p : String × Value}
    (h : p ∈ put fields key value) : p = (key, value) ∨ p ∈ fields := by
  induction fields with
  | nil => exact Or.inl (List.mem_singleton.mp h)
  | cons q rest ih =>
    obtain ⟨k, v⟩ := q
    rw [put] at h
    by_cases hk : k = key
    · rw [if_pos hk, hk, List.mem_cons] at h
      exact h.imp_right (List.mem_cons_of_mem _)
    · rw [if_neg hk, List.mem_cons] at h
      rcases h with rfl | h
      · exact Or.inr List.mem_cons_self
      · exact (ih h).imp_right (List.mem_cons_of_mem _)

/-- Setting a key keeps the keys distinct. -/
theorem nodup_keys_put {fields : Fields} (h : (fields.map Prod.fst).Nodup) (key : String)
    (value : Value) : ((put fields key value).map Prod.fst).Nodup := by
  rw [keys_put]
  by_cases hkey : key ∈ fields.map Prod.fst
  · rwa [if_pos hkey]
  · rw [if_neg hkey, List.nodup_append]
    refine ⟨h, by simp, fun k hk l hl => ?_⟩
    rw [List.mem_singleton.mp hl]
    exact fun heq => hkey (heq ▸ hk)

/-- Whatever the pairs are, the fields that result from them have distinct keys. -/
theorem nodup_keys_ofPairs (pairs : List (String × Value)) :
    ((ofPairs pairs).map Prod.fst).Nodup := by
  have hfold : ∀ fields : Fields, (fields.map Prod.fst).Nodup →
      ((pairs.foldl (fun fields p => put fields p.1 p.2) fields).map Prod.fst).Nodup := by
    induction pairs with
    | nil => exact fun _ h => h
    | cons p rest ih => exact fun fields h => ih _ (nodup_keys_put h p.1 p.2)
  exact hfold [] (by simp)

/-- The fields that result from pairs are among them. -/
theorem mem_of_mem_ofPairs {pairs : List (String × Value)} {p : String × Value}
    (h : p ∈ ofPairs pairs) : p ∈ pairs := by
  have hfold : ∀ fields : Fields,
      p ∈ pairs.foldl (fun fields p => put fields p.1 p.2) fields → p ∈ fields ∨ p ∈ pairs := by
    clear h
    induction pairs with
    | nil => exact fun _ h => Or.inl h
    | cons q rest ih =>
      intro fields h
      rcases ih _ h with hput | hrest
      · rcases mem_put hput with rfl | hfields
        · exact Or.inr List.mem_cons_self
        · exact Or.inl hfields
      · exact Or.inr (List.mem_cons_of_mem q hrest)
  exact (hfold [] h).resolve_left (by simp)

/-- Pairs with distinct keys are set one behind the other. -/
theorem ofPairs_of_nodup {pairs : List (String × Value)} (h : (pairs.map Prod.fst).Nodup) :
    ofPairs pairs = pairs := by
  have hfold : ∀ fields : Fields, ((fields ++ pairs).map Prod.fst).Nodup →
      pairs.foldl (fun fields p => put fields p.1 p.2) fields = fields ++ pairs := by
    clear h
    induction pairs with
    | nil => exact fun fields _ => (List.append_nil fields).symm
    | cons p rest ih =>
      intro fields h
      have hkey : p.1 ∉ fields.map Prod.fst := by
        rw [List.map_append, List.nodup_append] at h
        intro hmem
        exact h.2.2 p.1 hmem p.1 (by simp) rfl
      rw [List.foldl_cons, put_of_notMem hkey, ih _ (by rwa [List.append_assoc]),
        List.append_assoc]
      rfl
  exact hfold [] h

end Fields

/-! ## Selected items -/

namespace Path

/-- A value of a field is a part. -/
theorem mem_parts_of_field? {v w : Value} {key : String} (h : v.field? key = some w) :
    w ∈ v.parts := by
  cases v with
  | object fields =>
    obtain ⟨l, r, rfl, -⟩ := List.lookup_eq_some_iff.mp h
    exact Value.mem_parts_object_iff.mpr (Or.inr ⟨(key, w), by simp, Value.mem_parts_self w⟩)
  | _ => exact absurd h (by simp [Value.field?])

/-- An item of a list is a part. -/
theorem mem_parts_of_items? {v w : Value} {items : List Value} (h : v.items? = some items)
    (hw : w ∈ items) : w ∈ v.parts := by
  cases v with
  | array =>
    rw [Value.items?, Option.some.injEq] at h
    exact Value.mem_parts_array_iff.mpr (Or.inr ⟨w, h ▸ hw, Value.mem_parts_self w⟩)
  | _ => exact absurd h (by simp [Value.items?])

theorem mem_parts_of_mem_getD_items? {v w : Value} (h : w ∈ v.items?.getD []) : w ∈ v.parts := by
  cases hitems : v.items? with
  | none => simp [hitems] at h
  | some items => exact mem_parts_of_items? hitems (by simpa [hitems] using h)

theorem mem_parts_of_mem_splice {v w : Value} (h : w ∈ splice v) : w ∈ v.parts := by
  cases v with
  | array items => exact mem_parts_of_items? rfl h
  | _ => exact List.mem_singleton.mp h ▸ Value.mem_parts_self _

/-- **Whatever a path selects is a part of the document.** -/
theorem mem_parts_of_mem_select {path : Path} {v w : Value} (h : w ∈ select path v) :
    w ∈ v.parts := by
  induction path generalizing v with
  | nil => exact mem_parts_of_mem_splice h
  | cons segment rest ih =>
    cases segment with
    | field name =>
      rw [select] at h
      cases hfield : v.field? name with
      | none => simp [hfield] at h
      | some x =>
        rw [hfield, Option.map_some, Option.getD_some] at h
        exact Value.mem_parts_trans (ih h) (mem_parts_of_field? hfield)
    | index i =>
      rw [select] at h
      cases hitem : v.item? i with
      | none => simp [hitem] at h
      | some x =>
        rw [hitem, Option.map_some, Option.getD_some] at h
        rw [Value.item?, Option.bind_eq_some_iff] at hitem
        obtain ⟨items, hitems, hget⟩ := hitem
        exact Value.mem_parts_trans (ih h)
          (mem_parts_of_items? hitems (List.mem_of_getElem? hget))
    | wildcard =>
      rw [select] at h
      by_cases hrest : rest.isEmpty = true
      · rw [if_pos hrest] at h
        exact mem_parts_of_mem_getD_items? h
      · rw [if_neg hrest, List.mem_flatMap] at h
        obtain ⟨x, hx, hmem⟩ := h
        exact Value.mem_parts_trans (ih hmem) (mem_parts_of_mem_getD_items? hx)

/-- What a text selects is a part of the document. -/
theorem mem_parts_of_mem_selectText {text : String} {v w : Value} (h : w ∈ selectText text v) :
    w ∈ v.parts := by
  rw [selectText] at h
  cases hparse : parse text with
  | error e => simp [hparse] at h
  | ok path =>
    rw [hparse] at h
    exact mem_parts_of_mem_select h

end Path
end DocPipe
