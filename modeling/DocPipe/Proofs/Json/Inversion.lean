import DocPipe.Json.Reader

/-!
# Taking the JSON reader apart

What the reader has returned, it has put together from what its parts returned.  Each lemma here
goes one level down: from the value to the number, the items or the fields inside it, and from a
loop to its first turn.  Proofs about what has been read go through these and need not open the
reader.
-/

namespace DocPipe
namespace Json

/-- What a step returns when its result is wrapped. -/
theorem exists_of_map {α β : Type} (f : α → β) {step : Step α} {b : β} {rest : List Char}
    (h : (step.map fun p => (f p.1, p.2)) = .ok (b, rest)) :
    ∃ a, step = .ok (a, rest) ∧ b = f a := by
  cases step with
  | error => simp [Except.map] at h
  | ok p =>
    simp only [Except.map, Except.ok.injEq, Prod.mk.injEq] at h
    exact ⟨p.1, by rw [← h.2], h.1.symm⟩

/-- One turn of the loop over items: the list ends, or an item is read and the loop goes on. -/
theorem cases_of_readItems {read : List Char → Step Value} {fuel : Nat} {first : Bool}
    {cs rest : List Char} {vs : List Value}
    (h : readItems read (fuel + 1) first cs = .ok (vs, rest)) :
    vs = [] ∨ ∃ at' v behind vs', read at' = .ok (v, behind) ∧
      readItems read fuel false behind = .ok (vs', rest) ∧ vs = v :: vs' := by
  rw [readItems] at h
  simp only at h
  split at h
  · simp [refuse] at h
  · split at h
    · simp only [Except.ok.injEq, Prod.mk.injEq] at h
      exact Or.inl h.1.symm
    · split at h
      · split at h
        · simp at h
        · rename_i v behind hv
          obtain ⟨vs', hloop, rfl⟩ := exists_of_map (v :: ·) h
          exact Or.inr ⟨_, v, behind, vs', hv, hloop, rfl⟩
      · split at h
        · split at h
          · simp [refuse] at h
          · simp [refuse] at h
          · split at h
            · simp at h
            · rename_i v behind hv
              obtain ⟨vs', hloop, rfl⟩ := exists_of_map (v :: ·) h
              exact Or.inr ⟨_, v, behind, vs', hv, hloop, rfl⟩
        · simp [refuse] at h

/-- One turn of the loop over fields: the object ends, or a field is read and the loop goes on. -/
theorem cases_of_readFields {read : List Char → Step Value} {fuel : Nat} {first : Bool}
    {cs rest : List Char} {fields : List (String × Value)}
    (h : readFields read (fuel + 1) first cs = .ok (fields, rest)) :
    fields = [] ∨ ∃ at' field behind fields', readField read at' = .ok (field, behind) ∧
      readFields read fuel false behind = .ok (fields', rest) ∧ fields = field :: fields' := by
  rw [readFields] at h
  simp only at h
  split at h
  · simp [refuse] at h
  · split at h
    · simp only [Except.ok.injEq, Prod.mk.injEq] at h
      exact Or.inl h.1.symm
    · split at h
      · split at h
        · split at h
          · simp at h
          · rename_i field behind hfield
            obtain ⟨fields', hloop, rfl⟩ := exists_of_map (field :: ·) h
            exact Or.inr ⟨_, field, behind, fields', hfield, hloop, rfl⟩
        · simp [refuse] at h
      · split at h
        · split at h
          · simp [refuse] at h
          · split at h
            · simp at h
            · rename_i field behind hfield
              obtain ⟨fields', hloop, rfl⟩ := exists_of_map (field :: ·) h
              exact Or.inr ⟨_, field, behind, fields', hfield, hloop, rfl⟩
          · simp [refuse] at h
        · simp [refuse] at h

/-- The items of a list have been read, each by the reader of items. -/
theorem items_of_readItems {read : List Char → Step Value} {P : Value → Prop}
    (hread : ∀ cs v rest, read cs = .ok (v, rest) → P v) {fuel : Nat} {first : Bool}
    {cs rest : List Char} {vs : List Value} (h : readItems read fuel first cs = .ok (vs, rest)) :
    ∀ v ∈ vs, P v := by
  induction fuel generalizing first cs vs with
  | zero => simp [readItems, refuse] at h
  | succ fuel ih =>
    rcases cases_of_readItems h with rfl | ⟨at', v, behind, vs', hv, hloop, rfl⟩
    · simp
    · exact List.forall_mem_cons.mpr ⟨hread at' v behind hv, ih hloop⟩

/-- The value of a field has been read by the reader of values. -/
theorem value_of_readField {read : List Char → Step Value} {P : Value → Prop}
    (hread : ∀ cs v rest, read cs = .ok (v, rest) → P v) {cs rest : List Char}
    {field : String × Value} (h : readField read cs = .ok (field, rest)) : P field.2 := by
  rw [readField] at h
  split at h
  · simp at h
  · split at h
    · simp [refuse] at h
    · rename_i behind _
      cases hvalue : read behind with
      | error f => simp [hvalue, Except.map] at h
      | ok p =>
        simp only [hvalue, Except.map, Except.ok.injEq, Prod.mk.injEq] at h
        rw [← h.1]
        exact hread behind p.1 p.2 hvalue
    · simp [refuse] at h

/-- The values of the fields of an object have been read, each by the reader of values. -/
theorem fields_of_readFields {read : List Char → Step Value} {P : Value → Prop}
    (hread : ∀ cs v rest, read cs = .ok (v, rest) → P v) {fuel : Nat} {first : Bool}
    {cs rest : List Char} {fields : List (String × Value)}
    (h : readFields read fuel first cs = .ok (fields, rest)) : ∀ p ∈ fields, P p.2 := by
  induction fuel generalizing first cs fields with
  | zero => simp [readFields, refuse] at h
  | succ fuel ih =>
    rcases cases_of_readFields h with rfl | ⟨at', field, behind, fields', hfield, hloop, rfl⟩
    · simp
    · exact List.forall_mem_cons.mpr ⟨value_of_readField hread hfield, ih hloop⟩

/-- A word stands for the value that it was looked for. -/
theorem eq_of_readWord {value v : Value} {word cs rest : List Char}
    (h : readWord value word cs = .ok (v, rest)) : v = value := by
  induction word generalizing cs with
  | nil =>
    simp only [readWord, Except.ok.injEq, Prod.mk.injEq] at h
    exact h.1.symm
  | cons w ws ih =>
    cases cs with
    | nil => simp [readWord, refuse] at h
    | cons c cs =>
      rw [readWord] at h
      split at h
      · exact ih h
      · simp [refuse] at h

/-- What is read is a word or a string, or a number, or a list or an object whose inside has been
read with less room. -/
theorem cases_of_readValue {size room : Nat} {cs rest : List Char} {v : Value}
    (h : readValue size room cs = .ok (v, rest)) :
    (v.isPrimitive = true ∧ ∀ n, v ≠ .number n) ∨
    (∃ n, v = .number n ∧
      ((∃ inside, skipBlanks cs = '-' :: inside ∧ readNumber false inside = .ok (n, rest)) ∨
        ∃ c inside, skipBlanks cs = c :: inside ∧ c.isDigit = true ∧
          readNumber true (c :: inside) = .ok (n, rest))) ∨
    (∃ room' inside items, room = room' + 1 ∧
      readItems (readValue size room') size true inside = .ok (items, rest) ∧ v = .array items) ∨
    ∃ room' inside pairs, room = room' + 1 ∧
      readFields (readValue size room') size true inside = .ok (pairs, rest) ∧
        v = .object (Fields.ofPairs pairs) := by
  have hword : ∀ {value : Value} {word behind : List Char}, value.isPrimitive = true →
      (∀ n, value ≠ .number n) → readWord value word behind = .ok (v, rest) →
      v.isPrimitive = true ∧ ∀ n, v ≠ .number n := by
    intro value word behind hscalar hnumber hread
    rw [eq_of_readWord hread]
    exact ⟨hscalar, hnumber⟩
  rw [readValue.eq_def] at h
  split at h
  · simp [refuse] at h
  rename_i c inside hcs
  split at h
  · exact Or.inl (hword rfl (by simp) h)
  split at h
  · exact Or.inl (hword rfl (by simp) h)
  split at h
  · exact Or.inl (hword rfl (by simp) h)
  split at h
  · rename_i hc
    obtain ⟨n, hn, rfl⟩ := exists_of_map Value.number h
    exact Or.inr (Or.inl ⟨n, rfl, Or.inl ⟨inside, hc ▸ hcs, hn⟩⟩)
  split at h
  · rename_i hdigit
    obtain ⟨n, hn, rfl⟩ := exists_of_map Value.number h
    exact Or.inr (Or.inl ⟨n, rfl, Or.inr ⟨c, inside, hcs, hdigit, hn⟩⟩)
  split at h
  · obtain ⟨s, -, rfl⟩ := exists_of_map (fun s => Value.string (String.ofList s)) h
    exact Or.inl ⟨rfl, by simp⟩
  split at h
  · split at h
    · simp [refuse] at h
    · obtain ⟨items, hitems, rfl⟩ := exists_of_map Value.array h
      exact Or.inr (Or.inr (Or.inl ⟨_, _, items, rfl, hitems, rfl⟩))
  split at h
  · split at h
    · simp [refuse] at h
    · obtain ⟨pairs, hpairs, rfl⟩ :=
        exists_of_map (fun pairs => Value.object (Fields.ofPairs pairs)) h
      exact Or.inr (Or.inr (Or.inr ⟨_, _, pairs, rfl, hpairs, rfl⟩))
  · simp [refuse] at h

/-- A text that has been read holds a value, and behind it nothing but blanks. -/
theorem exists_of_read {text : String} {v : Value} (h : read text = .ok v) :
    ∃ rest, readValue (text.toList.length + 1) maxDepth text.toList = .ok (v, rest) ∧
      skipBlanks rest = [] := by
  have htext : readText text.toList = .ok v := by
    rw [read] at h
    cases hread : readText text.toList with
    | error f =>
      rw [hread] at h
      cases h
    | ok w =>
      rw [hread] at h
      cases h
      rfl
  rw [readText] at htext
  split at htext
  · cases htext
  · rename_i w rest hvalue
    split at htext
    · rename_i hrest
      cases htext
      exact ⟨rest, hvalue, hrest⟩
    · cases htext

end Json
end DocPipe
