import DocPipe.Path.Lookup

/-!
# The places that a path names

`Path.resolve` leads to one place and `Path.select` to many, and they are written separately: the
one stops at a wildcard, the other branches there.  Here the second is explained by the first.

A wildcard stands for any position.  Putting a position in the place of each wildcard makes a path
without wildcards, which leads to one place or to none, and a list of positions, one for each
wildcard, says which path that is (`fill`).  The places of a path with wildcards are those of the
paths that it stands for, in the lexicographic order of the positions.

## Which lists of positions there are

There are infinitely many lists of positions, but only finitely many of them lead anywhere.
`positions` computes these, and two lemmas say that this is what it does: `mem_positions_iff` that
it has exactly the lists that lead somewhere, and `pairwise_positions` that it has them in order,
each of them once.  So the list is determined by what is said of it, and `select_eq_flatMap_resolve`
does not mention how it is computed.

## The end of a path

At the end of a path `select` opens a list, but not one that a wildcard has led to.  This is the
only thing about the path, other than the places it leads to, that a selection depends on.
-/

namespace DocPipe
namespace Path

/-! ## Positions in the place of wildcards -/

/-- The path with positions in the place of its wildcards, from the left. -/
def fill : Path → List Nat → Path
  | .wildcard :: path, i :: is => .index i :: fill path is
  | segment :: path, is => segment :: fill path is
  | [], _ => []

/-- What a place at the end of a path adds to a selection: a list its items, unless the path ends
with a wildcard. -/
def shown (path : Path) (v : Value) : List Value :=
  if path.getLast? = some .wildcard then [v]
  else match v with
    | .array items => items
    | v => [v]

/-- At the end of the empty path, a list is opened. -/
theorem shown_nil (v : Value) : shown [] v = splice v := by
  cases v <;> rfl

@[simp] theorem fill_nil (is : List Nat) : fill [] is = [] := rfl

@[simp] theorem fill_field (name : String) (path : Path) (is : List Nat) :
    fill (.field name :: path) is = .field name :: fill path is := rfl

@[simp] theorem fill_index (i : Nat) (path : Path) (is : List Nat) :
    fill (.index i :: path) is = .index i :: fill path is := rfl

@[simp] theorem fill_wildcard_cons (path : Path) (i : Nat) (is : List Nat) :
    fill (.wildcard :: path) (i :: is) = .index i :: fill path is := rfl

/-- Filling changes no length. -/
theorem length_fill (path : Path) (is : List Nat) : (fill path is).length = path.length := by
  fun_induction fill path is with
  | case1 path i is ih => rw [List.length_cons, List.length_cons, ih]
  | case2 segment path is _ ih => rw [List.length_cons, List.length_cons, ih]
  | case3 => rfl

theorem shown_cons_of_ne_nil {path : Path} (h : path ≠ []) (segment : Segment) (v : Value) :
    shown (segment :: path) v = shown path v := by
  obtain ⟨s, rest, rfl⟩ := List.exists_cons_of_ne_nil h
  simp only [shown, List.getLast?_cons_cons]

/-- A step in front of a path changes nothing about its end, unless it is a wildcard and the end
itself. -/
theorem shown_cons {segment : Segment} (h : segment ≠ .wildcard) (path : Path) (v : Value) :
    shown (segment :: path) v = shown path v := by
  cases path with
  | nil => simp [shown, h]
  | cons s rest => exact shown_cons_of_ne_nil (List.cons_ne_nil s rest) segment v

/-! ## Following and resolving -/

/-- No step leads out of null. -/
theorem follow_null {path : Path} (h : path ≠ []) : follow path .null = none := by
  obtain ⟨segment, rest, rfl⟩ := List.exists_cons_of_ne_nil h
  cases segment <;> rfl

/-- Resolving is following, but for the empty path at null. -/
theorem follow_eq_resolve {path : Path} {root : Value} (h : ¬ (root = .null ∧ path = [])) :
    follow path root = resolve path root := by
  cases root with
  | null =>
    have hpath : path ≠ [] := fun hpath => h ⟨rfl, hpath⟩
    rw [follow_null hpath, resolve_null]
  | bool b => exact (resolve_eq_follow rfl path).symm
  | number n => exact (resolve_eq_follow rfl path).symm
  | string s => exact (resolve_eq_follow rfl path).symm
  | array items => exact (resolve_eq_follow rfl path).symm
  | object fields => exact (resolve_eq_follow rfl path).symm

/-- Following a path up to a wildcard and then meeting the wildcard. -/
theorem follow_append_wildcard {before : Path} (h : .wildcard ∉ before) (after : Path)
    (v : Value) :
    follow (before ++ .wildcard :: after) v = (follow before v).filter (·.items?.isSome) := by
  induction before generalizing v with
  | nil =>
    show (if v.items?.isSome then some v else none) = _
    rw [follow_nil, Option.filter_some]
  | cons segment before ih =>
    obtain ⟨hsegment, hbefore⟩ := not_or.mp (fun hm => h (List.mem_cons.mpr hm))
    cases segment with
    | field name =>
      rw [List.cons_append, follow, follow]
      cases v.field? name with
      | none => rfl
      | some next => exact ih hbefore next
    | index i =>
      rw [List.cons_append, follow, follow]
      cases v.item? i with
      | none => rfl
      | some next => exact ih hbefore next
    | wildcard => exact absurd rfl hsegment

/-! ## The lists of positions that lead somewhere -/

/-- The lists of positions that lead somewhere, in lexicographic order. -/
def positions : Path → Value → List (List Nat)
  | [], _ => [[]]
  | .field name :: rest, v => ((v.field? name).map (positions rest)).getD []
  | .index i :: rest, v => ((v.item? i).map (positions rest)).getD []
  | .wildcard :: rest, v =>
    (List.range (v.items?.getD []).length).flatMap fun i =>
      (((v.item? i).map (positions rest)).getD []).map (i :: ·)

/-- A position at which a value has an item is below the number of its items. -/
theorem lt_length_of_item? {v item : Value} {i : Nat} (h : v.item? i = some item) :
    i < (v.items?.getD []).length := by
  obtain ⟨items, hitems, hitem⟩ := Option.bind_eq_some_iff.mp h
  rw [hitems]
  exact (List.getElem?_eq_some_iff.mp hitem).1

/-- **Exactly the lists that lead somewhere are computed.** -/
theorem mem_positions_iff {path : Path} {v : Value} {is : List Nat} :
    is ∈ positions path v ↔
      is.length = path.count .wildcard ∧ (follow (fill path is) v).isSome := by
  induction path generalizing v is with
  | nil => simp [positions]
  | cons segment rest ih =>
    cases segment with
    | field name =>
      rw [positions, fill_field, follow, List.count_cons_of_ne (by simp)]
      cases v.field? name with
      | none => simp
      | some next => exact ih
    | index i =>
      rw [positions, fill_index, follow, List.count_cons_of_ne (by simp)]
      cases v.item? i with
      | none => simp
      | some next => exact ih
    | wildcard =>
      rw [positions, List.mem_flatMap, List.count_cons_self]
      cases is with
      | nil => simp
      | cons i is =>
        rw [fill_wildcard_cons, follow, List.length_cons]
        constructor
        · rintro ⟨j, -, hj⟩
          obtain ⟨js, hjs, hcons⟩ := List.mem_map.mp hj
          obtain ⟨rfl, rfl⟩ := List.cons.inj hcons
          cases hitem : v.item? j with
          | none => exact absurd hjs (by simp [hitem])
          | some next =>
            rw [hitem] at hjs
            obtain ⟨hlength, hfollow⟩ := ih.mp hjs
            exact ⟨congrArg (· + 1) hlength, hfollow⟩
        · rintro ⟨hlength, hfollow⟩
          cases hitem : v.item? i with
          | none => exact absurd hfollow (by simp [hitem])
          | some next =>
            rw [hitem] at hfollow
            refine ⟨i, List.mem_range.mpr (lt_length_of_item? hitem), ?_⟩
            rw [hitem]
            exact List.mem_map_of_mem (ih.mpr ⟨Nat.succ.inj hlength, hfollow⟩)

/-- **They are computed in lexicographic order, and none of them twice.** -/
theorem pairwise_positions (path : Path) (v : Value) :
    (positions path v).Pairwise (List.Lex (· < ·)) := by
  induction path generalizing v with
  | nil => exact List.pairwise_singleton _ _
  | cons segment rest ih =>
    cases segment with
    | field name =>
      rw [positions]
      cases v.field? name with
      | none => exact List.Pairwise.nil
      | some next => exact ih next
    | index i =>
      rw [positions]
      cases v.item? i with
      | none => exact List.Pairwise.nil
      | some next => exact ih next
    | wildcard =>
      rw [positions, List.pairwise_flatMap]
      constructor
      · intro i _
        rw [List.pairwise_map]
        cases v.item? i with
        | none => exact List.Pairwise.nil
        | some next => exact (ih next).imp List.Lex.cons
      · refine List.pairwise_lt_range.imp ?_
        intro i j hij is his js hjs
        obtain ⟨is', -, rfl⟩ := List.mem_map.mp his
        obtain ⟨js', -, rfl⟩ := List.mem_map.mp hjs
        exact .rel hij

/-! ## Selecting -/

/-- Going through a list is going through its positions. -/
theorem flatMap_range_getElem? {α β : Type} (xs : List α) (f : α → List β) :
    ((List.range xs.length).flatMap fun i => (xs[i]?.map f).getD []) = xs.flatMap f := by
  induction xs with
  | nil => rfl
  | cons x xs ih =>
    rw [List.length_cons, List.range_succ_eq_map, List.flatMap_cons, List.flatMap_map,
      List.flatMap_cons, ← ih]
    rfl

/-- Behind a wildcard, the places are those behind each item. -/
theorem flatMap_positions_wildcard (rest : Path) (v : Value) (f : Option Value → List Value) :
    ((positions (.wildcard :: rest) v).flatMap fun is =>
        f (follow (fill (.wildcard :: rest) is) v)) =
      (v.items?.getD []).flatMap fun item =>
        (positions rest item).flatMap fun is => f (follow (fill rest is) item) := by
  rw [positions, List.flatMap_assoc]
  cases hitems : v.items? with
  | none => rfl
  | some items =>
    rw [Option.getD_some, ← flatMap_range_getElem? items]
    refine congrArg (List.flatMap · (List.range items.length)) (funext fun i => ?_)
    have hitem : v.item? i = items[i]? := by rw [Value.item?, hitems, Option.bind_some]
    rw [List.flatMap_map, ← hitem]
    simp only [fill_wildcard_cons, follow]
    cases v.item? i with
    | none => rfl
    | some next => rfl

/-- What a path selects is what is shown at the places to which its positions lead. -/
theorem select_eq_flatMap_follow (path : Path) (v : Value) :
    select path v = (positions path v).flatMap fun is =>
      ((follow (fill path is) v).map (shown path)).getD [] := by
  induction path generalizing v with
  | nil => simp [select, positions, shown_nil]
  | cons segment rest ih =>
    cases segment with
    | field name =>
      have hshown : shown (.field name :: rest) = shown rest :=
        funext (shown_cons (by simp) rest)
      rw [select, positions, hshown]
      simp only [fill_field, follow]
      cases v.field? name with
      | none => rfl
      | some next => exact ih next
    | index i =>
      have hshown : shown (.index i :: rest) = shown rest :=
        funext (shown_cons (by simp) rest)
      rw [select, positions, hshown]
      simp only [fill_index, follow]
      cases v.item? i with
      | none => rfl
      | some next => exact ih next
    | wildcard =>
      rw [select, flatMap_positions_wildcard rest v
        (fun place => (place.map (shown (.wildcard :: rest))).getD [])]
      cases rest with
      | nil => simp [positions, shown]
      | cons s path =>
        have hshown : shown (.wildcard :: s :: path) = shown (s :: path) :=
          funext (shown_cons_of_ne_nil (List.cons_ne_nil s path) .wildcard)
        rw [hshown]
        exact congrArg (List.flatMap · (v.items?.getD [])) (funext ih)

/-- **Selecting and resolving agree.**  But for the empty path at null, where null is selected and
nothing is resolved, a path selects what the paths that it stands for contribute, in the
lexicographic order of the positions in the place of its wildcards: nothing where such a path does
not resolve, and otherwise the value, or its items if it is a list and the path ends without a
wildcard.  And a path with a wildcard resolves to the list that the path in front of the first
wildcard resolves to. -/
theorem select_eq_flatMap_resolve :
    select [] .null = [.null] ∧
    (∀ (path : Path) (root : Value), ¬ (root = .null ∧ path = []) →
      ∃ vectors : List (List Nat), vectors.Pairwise (List.Lex (· < ·)) ∧
        (∀ is, is ∈ vectors ↔
          is.length = path.count .wildcard ∧ (resolve (fill path is) root).isSome) ∧
        select path root = vectors.flatMap fun is =>
          match resolve (fill path is) root with
          | none => []
          | some v =>
            if path.getLast? = some .wildcard then [v]
            else match v with
              | .array items => items
              | v => [v]) ∧
    (∀ (before after : Path) (root : Value), .wildcard ∉ before →
      resolve (before ++ .wildcard :: after) root =
        (resolve before root).filter (·.items?.isSome)) := by
  refine ⟨rfl, fun path root hroot => ?_, fun before after root hbefore => ?_⟩
  · have hfollow : ∀ is, follow (fill path is) root = resolve (fill path is) root := by
      intro is
      refine follow_eq_resolve fun h => hroot ⟨h.1, ?_⟩
      rw [← List.length_eq_zero_iff, ← length_fill path is, h.2, List.length_nil]
    refine ⟨positions path root, pairwise_positions path root, fun is => ?_, ?_⟩
    · rw [mem_positions_iff, hfollow]
    · rw [select_eq_flatMap_follow]
      refine congrArg (List.flatMap · (positions path root)) (funext fun is => ?_)
      rw [hfollow]
      cases resolve (fill path is) root with
      | none => rfl
      | some v => rfl
  · cases hnull : root.isNull with
    | true => simp [resolve, hnull]
    | false =>
      rw [resolve_eq_follow hnull, resolve_eq_follow hnull, follow_append_wildcard hbefore]

/-- Behind a wildcard, a field is missing once, once it is a list with a list in it, once a scalar, and
once an empty list: the list is opened, and the list in it is not.  Two wildcards in a row open
nothing behind themselves. -/
theorem select_nested_wildcards :
    let root : Value := .array
      [.object [("a", .array [.array [.bool true], .null])], .object [],
        .object [("a", .bool false)], .object [("a", .array [])]]
    let lists : Value := .array [.array [.null, .array [.bool true]], .bool false, .array []]
    (∃ vectors : List (List Nat), vectors.Pairwise (List.Lex (· < ·)) ∧
      (∀ is, is ∈ vectors ↔ is.length = 1 ∧
        (resolve (fill [.wildcard, .field "a"] is) root).isSome) ∧
      [.array [.bool true], .null, .bool false] = vectors.flatMap fun is =>
        match resolve (fill [.wildcard, .field "a"] is) root with
        | none => []
        | some v =>
          match v with
          | .array items => items
          | v => [v]) ∧
    (∃ vectors : List (List Nat), vectors.Pairwise (List.Lex (· < ·)) ∧
      (∀ is, is ∈ vectors ↔ is.length = 2 ∧
        (resolve (fill [.wildcard, .wildcard] is) lists).isSome) ∧
      [.null, .array [.bool true]] = vectors.flatMap fun is =>
        match resolve (fill [.wildcard, .wildcard] is) lists with
        | none => []
        | some v => [v]) ∧
    resolve [.index 0, .wildcard, .field "a"] lists =
      (resolve [.index 0] lists).filter (·.items?.isSome) :=
  ⟨select_eq_flatMap_resolve.2.1 [.wildcard, .field "a"] _ (by simp),
    select_eq_flatMap_resolve.2.1 [.wildcard, .wildcard] _ (by simp),
    select_eq_flatMap_resolve.2.2 [.index 0] [.field "a"] _ (by simp)⟩

end Path
end DocPipe
