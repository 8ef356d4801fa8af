import DocPipe.Input
import DocPipe.Proofs.Json.Inversion
import DocPipe.Proofs.Value.Parts

/-!
# Decoded documents have distinct keys

Both readers collect the pairs of an object as they are written and then set them in turn.  So
whatever was written, no object of a document has a key twice.

For JSON this follows the loops of the reader: what a loop returns was returned, turn by turn, by
the reader that it was handed.  The induction is on the room that is left for brackets.

The YAML reader computes in a monad that counts references.  `Unfolding.Ensures` is a property of
whatever such a computation returns, with one lemma for each way of putting computations together,
so that the count never shows.
-/

namespace DocPipe

/-! ## JSON -/

namespace Json

/-- What the JSON reader returns has distinct keys. -/
theorem hasDistinctKeys_of_readValue {size room : Nat} {cs rest : List Char} {v : Value}
    (h : readValue size room cs = .ok (v, rest)) : v.HasDistinctKeys := by
  induction room generalizing cs v rest with
  | zero =>
    rcases cases_of_readValue h with
      ⟨hscalar, -⟩ | ⟨n, rfl, -⟩ | ⟨_, _, _, hroom, -⟩ | ⟨_, _, _, hroom, -⟩
    · exact Value.hasDistinctKeys_of_isPrimitive hscalar
    · exact Value.hasDistinctKeys_of_isPrimitive rfl
    · exact absurd hroom (by simp)
    · exact absurd hroom (by simp)
  | succ room ih =>
    rcases cases_of_readValue h with ⟨hscalar, -⟩ | ⟨n, rfl, -⟩ |
      ⟨room', inside, items, hroom, hitems, rfl⟩ | ⟨room', inside, pairs, hroom, hpairs, rfl⟩
    · exact Value.hasDistinctKeys_of_isPrimitive hscalar
    · exact Value.hasDistinctKeys_of_isPrimitive rfl
    · obtain rfl : room = room' := Nat.succ.inj hroom
      exact Value.hasDistinctKeys_array_iff.mpr (items_of_readItems (fun _ _ _ => ih) hitems)
    · obtain rfl : room = room' := Nat.succ.inj hroom
      refine Value.hasDistinctKeys_object_iff.mpr
        ⟨Fields.nodup_keys_ofPairs pairs, fun p hp => ?_⟩
      exact fields_of_readFields (fun _ _ _ => ih) hpairs p (Fields.mem_of_mem_ofPairs hp)

/-- A JSON text stands for a value with distinct keys. -/
theorem hasDistinctKeys_of_read {text : String} {v : Value} (h : read text = .ok v) :
    v.HasDistinctKeys := by
  obtain ⟨rest, hvalue, -⟩ := exists_of_read h
  exact hasDistinctKeys_of_readValue hvalue

end Json

/-! ## YAML -/

namespace Yaml

namespace Unfolding

/-- Whether a property holds of whatever a computation returns. -/
def Ensures {α : Type} (x : Unfolding α) (P : α → Prop) : Prop :=
  ∀ budget a budget', x.run budget = .ok (a, budget') → P a

variable {α β : Type} {P : α → Prop} {Q : β → Prop}

theorem ensures_pure {a : α} (h : P a) : Ensures (pure a) P := by
  intro budget b budget' hrun
  rw [StateT.run_pure] at hrun
  cases hrun
  exact h

theorem ensures_throw (e : Error) : Ensures (throw e : Unfolding α) P := by
  intro budget b budget' hrun
  cases hrun

/-- What a computation ensures, the one behind it can rely on. -/
theorem Ensures.bind {x : Unfolding α} {f : α → Unfolding β} (hx : Ensures x P)
    (hf : ∀ a, P a → Ensures (f a) Q) : Ensures (x >>= f) Q := by
  intro budget b budget' hrun
  rw [StateT.run_bind] at hrun
  cases hfirst : x.run budget with
  | error e => rw [hfirst] at hrun; cases hrun
  | ok p =>
    rw [hfirst] at hrun
    exact hf p.1 (hx budget p.1 p.2 hfirst) p.2 b budget' hrun

/-- Nothing has to be known of the first of two computations. -/
theorem ensures_bind {x : Unfolding α} {f : α → Unfolding β} (hf : ∀ a, Ensures (f a) Q) :
    Ensures (x >>= f) Q :=
  Ensures.bind (P := fun _ => True) (fun _ _ _ _ => trivial) fun a _ => hf a

theorem ensures_lift {x : Except Error α} (h : ∀ a, x = .ok a → P a) :
    Ensures (liftM x : Unfolding α) P := by
  intro budget a budget' hrun
  cases x with
  | error e => cases hrun
  | ok b =>
    cases hrun
    exact h _ rfl

/-- A computation over a list ensures of each result what it ensures for each item. -/
theorem ensures_mapM {f : α → Unfolding β} {items : List α} (h : ∀ a ∈ items, Ensures (f a) Q) :
    Ensures (items.mapM f) fun results => ∀ b ∈ results, Q b := by
  induction items with
  | nil =>
    rw [List.mapM_nil]
    exact ensures_pure (by simp)
  | cons a items ih =>
    rw [List.mapM_cons]
    obtain ⟨ha, hitems⟩ := List.forall_mem_cons.mp h
    refine ha.bind fun b hb => (ih hitems).bind fun results hresults => ?_
    exact ensures_pure (List.forall_mem_cons.mpr ⟨hb, hresults⟩)

end Unfolding

theorem isPrimitive_of_integerValue? {cs : List Char} {v : Value}
    (h : integerValue? cs = some (.ok v)) : v.isPrimitive = true := by
  rw [integerValue?, Option.bind_eq_some_iff] at h
  obtain ⟨n, -, h⟩ := h
  split at h
  · simp only [Option.some.injEq, Except.ok.injEq] at h
    exact h ▸ rfl
  · split at h <;> simp at h

theorem isPrimitive_of_floatValue? {text : String} {v : Value} (h : floatValue? text = some v) :
    v.isPrimitive = true := by
  rw [floatValue?] at h
  split at h
  · exact Option.some.inj h ▸ rfl
  · rw [Option.bind_eq_some_iff] at h
    obtain ⟨x, -, h⟩ := h
    split at h
    · exact Option.some.inj h ▸ rfl
    · simp at h

theorem isPrimitive_of_plainValue {text : String} {v : Value} (h : plainValue text = .ok v) :
    v.isPrimitive = true := by
  rw [plainValue] at h
  split at h
  · cases h
    rfl
  split at h
  · cases h
    rfl
  split at h
  · rename_i hinteger
    exact isPrimitive_of_integerValue? (h ▸ hinteger)
  split at h
  · cases h
    rfl
  cases hfloat : floatValue? text with
  | none =>
    rw [hfloat, Option.getD_none] at h
    cases h
    rfl
  | some w =>
    rw [hfloat, Option.getD_some] at h
    cases h
    exact isPrimitive_of_floatValue? hfloat

theorem isPrimitive_of_typedValue {type : ScalarType} {text : String} {v : Value}
    (h : typedValue type text = .ok v) : v.isPrimitive = true := by
  cases type with
  | null =>
    rw [typedValue] at h
    split at h <;> cases h
    rfl
  | bool =>
    rw [typedValue] at h
    cases hbool : boolOfWord? text with
    | none => simp [hbool] at h
    | some b =>
      simp only [hbool, Option.map_some, Option.elim_some, Except.ok.injEq] at h
      exact h ▸ rfl
  | integer =>
    rw [typedValue] at h
    cases hinteger : integerValue? text.toList with
    | none => simp [hinteger] at h
    | some result =>
      rw [hinteger, Option.getD_some] at h
      exact isPrimitive_of_integerValue? (h ▸ hinteger)
  | float =>
    rw [typedValue] at h
    cases hfloat : floatValue? text with
    | none => simp [hfloat] at h
    | some w =>
      simp only [hfloat, Option.elim_some, Except.ok.injEq] at h
      exact h ▸ isPrimitive_of_floatValue? hfloat

/-- A scalar is neither a list nor an object, whatever its tag demands. -/
theorem isPrimitive_of_scalarValue {tag : Option Tag} {text : String} {plain : Bool} {v : Value}
    (h : scalarValue tag text plain = .ok v) : v.isPrimitive = true := by
  have hstring : (.ok (.string text) : Except Error Value) = .ok v → v.isPrimitive = true := by
    intro heq
    cases heq
    rfl
  rw [scalarValue.eq_def] at h
  split at h
  · split at h
    · exact isPrimitive_of_plainValue h
    · exact hstring h
  · split at h
    · exact isPrimitive_of_typedValue h
    · split at h
      · exact isPrimitive_of_plainValue h
      · exact hstring h

open Unfolding in
/-- The value of a scalar has no keys at all. -/
theorem ensures_scalarOf (properties : Properties) (text : String) (plain : Bool) :
    Ensures (scalarOf properties text plain) Value.HasDistinctKeys :=
  ensures_bind fun _ => ensures_lift fun _ hv =>
    Value.hasDistinctKeys_of_isPrimitive (isPrimitive_of_scalarValue hv)

open Unfolding in
/-- What a node unfolds to has distinct keys, however it refers to other nodes. -/
theorem ensures_valueOf (anchored : List (Nat × Node)) (room : Nat) (node : Node) :
    Ensures (valueOf anchored room node) Value.HasDistinctKeys := by
  induction room generalizing node with
  | zero =>
    rw [valueOf]
    refine ensures_bind fun target => ?_
    split
    · exact ensures_scalarOf _ _ _
    · exact ensures_throw _
  | succ room ih =>
    rw [valueOf]
    refine ensures_bind fun target => ?_
    split
    · exact ensures_scalarOf _ _ _
    · refine ensures_bind fun _ => (ensures_mapM fun item _ => ih item).bind fun items hitems => ?_
      exact ensures_pure (Value.hasDistinctKeys_array_iff.mpr hitems)
    · refine ensures_bind fun _ => ?_
      refine (ensures_mapM (Q := fun p : String × Value => p.2.HasDistinctKeys)
        fun entry _ => ?_).bind fun pairs hpairs => ?_
      · exact ensures_bind fun key => (ih entry.2).bind fun v hv => ensures_pure hv
      · refine ensures_pure (Value.hasDistinctKeys_object_iff.mpr
          ⟨Fields.nodup_keys_ofPairs pairs, fun p hp => ?_⟩)
        exact hpairs p (Fields.mem_of_mem_ofPairs hp)
    · exact ensures_throw _

/-- A YAML text stands for a value with distinct keys. -/
theorem hasDistinctKeys_of_read {text : String} {v : Value} (h : read text = .ok v) :
    v.HasDistinctKeys := by
  have hroot : ∃ root : Node, root.value = .ok v := by
    rw [read] at h
    cases htokens : Token.scan text.toList with
    | error e => rw [htokens] at h; cases h
    | ok tokens =>
      rw [htokens] at h
      cases hnode : Node.ofTokens tokens with
      | error e => simp only [bind, Except.bind, hnode] at h; cases h
      | ok root =>
        simp only [bind, Except.bind, hnode] at h
        exact ⟨root, h⟩
  obtain ⟨root, hvalue⟩ := hroot
  rw [Node.value] at hvalue
  cases hrun : (valueOf root.anchored maxDepth root).run (100 * root.eventCount) with
  | error e => rw [hrun] at hvalue; cases hvalue
  | ok p =>
    rw [hrun] at hvalue
    cases hvalue
    exact ensures_valueOf _ _ _ _ p.1 p.2 hrun

end Yaml

/-! ## Documents -/

namespace Input

/-- **No object of a document has a key twice**, whichever format it was read as. -/
theorem hasDistinctKeys_of_read {declared : Option Format} {text : String} {input : Input}
    (h : read declared text = .ok input) : input.value.HasDistinctKeys := by
  have hjson : ∀ {input}, readJson text = .ok input → input.value.HasDistinctKeys := by
    intro input h
    rw [readJson] at h
    split at h
    · rename_i v hv
      cases h
      exact Json.hasDistinctKeys_of_read hv
    · cases h
  have hyaml : ∀ {input}, readYaml text = .ok input → input.value.HasDistinctKeys := by
    intro input h
    rw [readYaml] at h
    split at h
    · rename_i v hv
      cases h
      exact Yaml.hasDistinctKeys_of_read hv
    · cases h
  have hfirst : ∀ {first : Except InputError Input} {second : Unit → Except InputError Input},
      firstOf first second = .ok input →
      first = .ok input ∨ second () = .ok input := by
    intro first second h
    rw [firstOf.eq_def] at h
    split at h
    · exact Or.inl h
    · split at h
      · rename_i hsecond
        exact Or.inr (hsecond.trans h)
      · cases h
  rw [read.eq_def] at h
  split at h
  · cases h
  split at h
  · exact hjson h
  · exact hyaml h
  · rw [readEither] at h
    split at h
    · exact (hfirst h).elim hjson hyaml
    · exact (hfirst h).elim hyaml hjson

end Input
end DocPipe
