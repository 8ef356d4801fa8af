import DocPipe.Proofs.CommandLine.Options

/-!
# Arguments in company

Arguments are read from the left, with what has been read so far at hand.  Still, options mean the
same wherever they stand, so that one can talk about a few of them without the others.

## What the others could change

Three things could go wrong.  An option that has been given before is refused; an option without its
value takes the next argument for it; and a subcommand that knows more options may take a name or a
letter for another one.  The first two do not happen to arguments that can be read by themselves, in
front of fresh names and with values where they are due; the third does not happen if the names and
the letters are all different.  So such arguments are read as they are on their own, and the reading
goes on behind them with what it has found in addition (`readAll_append`).

Two dashes are left out.  Behind them nothing is an option, and more would change its meaning there.
-/

namespace DocPipe
namespace CommandLine

namespace Arguments

/-! ## Arguments behind others -/

/-- What has been read, when something else had been read before. -/
def behind (args before : Arguments) : Arguments where
  options := args.options ++ before.options
  operands := args.operands ++ before.operands

@[simp] theorem empty_behind (before : Arguments) : ({} : Arguments).behind before = before := rfl

@[simp] theorem behind_empty (args : Arguments) : args.behind {} = args := by
  simp [behind]

theorem value?_behind (args before : Arguments) (name : String) :
    (args.behind before).value? name = (args.value? name).or (before.value? name) :=
  List.lookup_append

theorem has_behind (args before : Arguments) (name : String) :
    (args.behind before).has name = (args.has name || before.has name) := by
  show ((args.behind before).value? name).isSome = _
  rw [value?_behind, Option.isSome_or]
  rfl

/-- What is asked of the stages is asked by their names. -/
theorem stages_eq {args args' : Arguments}
    (h : ∀ name ∈ ["select", "filter", "limit"], args.value? name = args'.value? name) :
    args.stages = args'.stages := by
  rw [stages, h "select" (by simp), h "filter" (by simp), h "limit" (by simp)]
  rfl

theorem source_eq {args args' : Arguments}
    (h : ∀ name ∈ ["input", "input-format"], args.value? name = args'.value? name) :
    args.source = args'.source := by
  rw [source, h "input" (by simp), h "input-format" (by simp)]
  rfl

theorem output_eq {args args' : Arguments}
    (h : ∀ name ∈ ["format", "quiet"], args.value? name = args'.value? name) :
    args.output = args'.output := by
  have hquiet : args.has "quiet" = args'.has "quiet" := congrArg Option.isSome (h "quiet" (by simp))
  rw [output, h "format" (by simp), hquiet]
  rfl

theorem verbosity_behind (args before : Arguments) :
    (args.behind before).verbosity = args.verbosity + before.verbosity :=
  List.countP_append

/-- Whether an option can be added with a value; `given` is whether it has been given before. -/
def Admits (spec : OptionSpec) (given : Bool) (value : String) : Prop :=
  match spec.kind with
  | .stop _ => False
  | .count => True
  | .flag => given = false
  | .value accepts => given = false ∧ accepts value = true

/-- Adding an option changes nothing else. -/
theorem add_eq_ok_iff {args read : Arguments} {spec : OptionSpec} {value : String} :
    args.add spec value = .ok read ↔
      Admits spec (args.has spec.name) value ∧
        read = { args with options := (spec.name, value) :: args.options } := by
  rw [add, Admits]
  cases spec.kind with
  | stop reason => simp
  | count => simp [eq_comm (a := read)]
  | flag => cases args.has spec.name <;> simp [eq_comm (a := read)]
  | value accepts =>
    cases args.has spec.name <;> by_cases hvalue : accepts value = true <;>
      simp [hvalue, eq_comm (a := read)]

/-- An option can be added as well if others have been given before. -/
theorem add_behind {args read before : Arguments} {spec : OptionSpec} {value : String}
    (hfresh : before.has spec.name = false) (h : args.add spec value = .ok read) :
    (args.behind before).add spec value = .ok (read.behind before) := by
  obtain ⟨hadmits, rfl⟩ := add_eq_ok_iff.mp h
  have hhas : (args.behind before).has spec.name = args.has spec.name := by
    rw [has_behind, hfresh, Bool.or_false]
  exact add_eq_ok_iff.mpr ⟨hhas ▸ hadmits, rfl⟩

theorem addOperand_eq_ok_iff {args read : Arguments} {room : Nat} {operand : String} :
    args.addOperand room operand = .ok read ↔
      args.operands.length < room ∧ read = { args with operands := operand :: args.operands } := by
  rw [addOperand]
  split <;> simp [*, eq_comm (a := read)]

/-- The options are those of a list, and there is room for the other arguments. -/
structure Fits (specs : List OptionSpec) (room : Nat) (args : Arguments) : Prop where
  options : ∀ p ∈ args.options, ∃ spec ∈ specs, spec.name = p.1
  operands : args.operands.length ≤ room

theorem Fits.empty (specs : List OptionSpec) (room : Nat) : Fits specs room {} where
  options := by simp
  operands := Nat.zero_le room

/-- What is not in the list is not given. -/
theorem Fits.has_eq_false {specs : List OptionSpec} {room : Nat} {args : Arguments}
    (h : args.Fits specs room) {name : String} (hname : name ∉ specs.map OptionSpec.name) :
    args.has name = false := by
  rw [has, Option.isSome_eq_false_iff, Option.isNone_iff_eq_none, List.lookup_eq_none_iff]
  intro p hp
  obtain ⟨spec, hspec, heq⟩ := h.options p hp
  rw [bne_iff_ne]
  rintro rfl
  exact hname (heq ▸ List.mem_map_of_mem hspec)

theorem Fits.value?_eq_none {specs : List OptionSpec} {room : Nat} {args : Arguments}
    (h : args.Fits specs room) {name : String} (hname : name ∉ specs.map OptionSpec.name) :
    args.value? name = none :=
  Option.isNone_iff_eq_none.mp (Option.isSome_eq_false_iff.mp (h.has_eq_false hname))

end Arguments

/-! ## Lists of options -/

/-- Every option of the first list is found in the second by the same name and the same letter. -/
structure Extends (specs specs' : List OptionSpec) : Prop where
  long : ∀ {name spec}, specs.find? (·.name == name) = some spec →
    specs'.find? (·.name == name) = some spec
  short : ∀ {c spec}, specs.find? (·.short == some c) = some spec →
    specs'.find? (·.short == some c) = some spec

theorem Extends.refl (specs : List OptionSpec) : Extends specs specs := ⟨id, id⟩

/-- What is alone with a property in a list is found by it. -/
theorem find?_eq_some_of_pairwise {α : Type} {p : α → Bool} {l : List α} {a : α} (ha : a ∈ l)
    (hp : p a = true) (hl : l.Pairwise fun x y => p x = true → p y = false) :
    l.find? p = some a := by
  induction l with
  | nil => cases ha
  | cons x l ih =>
    obtain ⟨hx, hl⟩ := List.pairwise_cons.mp hl
    rcases List.mem_cons.mp ha with rfl | ha
    · exact List.find?_cons_of_pos hp
    · have hne : ¬p x = true := fun hpx => absurd (hx a ha hpx) (by simp [hp])
      rw [List.find?_cons_of_neg hne]
      exact ih ha hl

/-- A list with more options extends one with fewer if all names and all letters are different. -/
theorem Extends.of_subset {specs specs' : List OptionSpec} (hsubset : specs ⊆ specs')
    (hnames : specs'.Pairwise fun x y => x.name ≠ y.name)
    (hletters : specs'.Pairwise fun x y => x.short = none ∨ x.short ≠ y.short) :
    Extends specs specs' where
  long := by
    intro name spec hfind
    have hname := List.find?_some hfind
    refine find?_eq_some_of_pairwise (hsubset (List.mem_of_find?_eq_some hfind)) hname
      (hnames.imp fun {x y} hne hx => ?_)
    rw [beq_iff_eq] at hx
    rw [beq_eq_false_iff_ne, ← hx]
    exact hne.symm
  short := by
    intro c spec hfind
    have hletter := List.find?_some hfind
    refine find?_eq_some_of_pairwise (hsubset (List.mem_of_find?_eq_some hfind)) hletter
      (hletters.imp fun {x y} hne hx => ?_)
    rw [beq_iff_eq] at hx
    rw [beq_eq_false_iff_ne, ← hx]
    rcases hne with hnone | hne
    · rw [hnone] at hx
      cases hx
    · exact hne.symm

/-! ## One argument -/

/-- What holds of an option that has been read: `again` is what comes of it behind other arguments,
everything new is an option of the list, and there is a next argument if that has been used. -/
structure Framed (specs : List OptionSpec) (before args read : Arguments) (next : Option String)
    (used : Bool) (again : Except Stop (Arguments × Bool)) : Prop where
  again : again = .ok (read.behind before, used)
  options : ∀ p ∈ read.options, p ∈ args.options ∨ ∃ spec ∈ specs, spec.name = p.1
  operands : read.operands = args.operands
  uses : used = true → next.isSome = true

section

variable {specs specs' : List OptionSpec} {before args read : Arguments}
  {next next' : Option String} {used : Bool}

/-- A single option. -/
theorem framed_of_add {spec : OptionSpec} {value : String} {uses : Bool} (hspec : spec ∈ specs)
    (hfresh : before.has spec.name = false) (huses : uses = true → next.isSome = true)
    (h : (args.add spec value).map (·, uses) = .ok (read, used)) :
    Framed specs before args read next used
      (((args.behind before).add spec value).map (·, uses)) := by
  cases hadd : args.add spec value with
  | error reason =>
    rw [hadd] at h
    cases h
  | ok added =>
    rw [hadd] at h
    cases h
    obtain ⟨-, hread⟩ := Arguments.add_eq_ok_iff.mp hadd
    refine { again := ?_, options := fun p hp => ?_, operands := ?_, uses := huses }
    · rw [Arguments.add_behind hfresh hadd]
      rfl
    · rw [hread] at hp
      rcases List.mem_cons.mp hp with rfl | hp
      · exact .inr ⟨spec, hspec, rfl⟩
      · exact .inl hp
    · rw [hread]

variable (hextends : Extends specs specs') (hfresh : ∀ spec ∈ specs, before.has spec.name = false)
  (hnext : ∀ value ∈ next, value ∈ next')
include hfresh hnext

theorem addOption_framed {spec : OptionSpec} {attached : Option (List Char)} (hspec : spec ∈ specs)
    (h : addOption args spec attached next = .ok (read, used)) :
    Framed specs before args read next used
      (addOption (args.behind before) spec attached next') := by
  unfold addOption at h ⊢
  generalize spec.kind.takesValue = takes at h ⊢
  cases takes with
  | false =>
    cases attached with
    | none => exact framed_of_add hspec (hfresh spec hspec) (by simp) h
    | some value => cases h
  | true =>
    cases attached with
    | some value => exact framed_of_add hspec (hfresh spec hspec) (by simp) h
    | none =>
      cases next with
      | none => cases h
      | some value =>
        obtain rfl : next' = some value := Option.mem_def.mp (hnext value rfl)
        simp only at h ⊢
        split at h
        · cases h
        · rename_i hlooks
          rw [if_neg hlooks]
          exact framed_of_add hspec (hfresh spec hspec) (fun _ => Option.isSome_some) h

include hextends

theorem readLong_framed {body : List Char}
    (h : readLong specs args body next = .ok (read, used)) :
    Framed specs before args read next used (readLong specs' (args.behind before) body next') := by
  rw [readLong] at h ⊢
  simp only at h ⊢
  cases hfind : specs.find? (·.name == String.ofList (body.takeWhile (· != '='))) with
  | none =>
    rw [hfind] at h
    cases h
  | some spec =>
    rw [hfind] at h
    rw [hextends.long hfind]
    exact addOption_framed hfresh hnext (List.mem_of_find?_eq_some hfind) h

theorem readShort_framed {letters : List Char}
    (h : readShort specs args next letters = .ok (read, used)) :
    Framed specs before args read next used
      (readShort specs' (args.behind before) next' letters) := by
  induction letters generalizing args with
  | nil =>
    cases h
    exact ⟨rfl, fun p hp => .inl hp, rfl, by simp⟩
  | cons c letters ih =>
    rw [readShort] at h ⊢
    cases hfind : specs.find? (·.short == some c) with
    | none =>
      rw [hfind] at h
      cases h
    | some spec =>
      have hspec := List.mem_of_find?_eq_some hfind
      rw [hfind] at h
      rw [hextends.short hfind]
      simp only at h ⊢
      split at h
      · rename_i htakes
        rw [if_pos htakes]
        exact addOption_framed hfresh hnext hspec h
      · rename_i htakes
        rw [if_neg htakes]
        cases hadd : args.add spec "" with
        | error reason =>
          rw [hadd] at h
          cases h
        | ok added =>
          rw [hadd] at h
          rw [Arguments.add_behind (hfresh spec hspec) hadd]
          obtain ⟨-, hadded⟩ := Arguments.add_eq_ok_iff.mp hadd
          have hrest := ih h
          refine { hrest with options := fun p hp => ?_, operands := ?_ }
          · rcases hrest.options p hp with hp | hp
            · rw [hadded] at hp
              rcases List.mem_cons.mp hp with rfl | hp
              · exact .inr ⟨spec, hspec, rfl⟩
              · exact .inl hp
            · exact .inr hp
          · rw [hrest.operands, hadded]

/-- **An argument that looks like an option is read again as it has been.** -/
theorem readOption_framed {arg : String} (h : readOption specs args arg next = .ok (read, used)) :
    Framed specs before args read next used
      (readOption specs' (args.behind before) arg next') := by
  rw [readOption] at h ⊢
  split at h
  · exact readLong_framed hextends hfresh hnext h
  · exact readShort_framed hextends hfresh hnext h
  · cases h

end

/-! ## All arguments -/

/-- What is left when an option has been read, and the next argument if that is its value. -/
theorem mem_of_mem_remaining {uses : Bool} {rest : List String} {arg : String}
    (h : arg ∈ if uses = true then rest.tail else rest) : arg ∈ rest := by
  cases uses with
  | false => exact h
  | true => exact List.mem_of_mem_tail h

/-- What is read from arguments are options of the subcommand, and others for which there is
room. -/
theorem Arguments.Fits.of_readAll {specs : List OptionSpec} {room : Nat} {args read : Arguments}
    {rest : List String} (hargs : args.Fits specs room) (hdashes : "--" ∉ rest)
    (h : readAll specs room args rest = .ok read) : read.Fits specs room := by
  fun_induction readAll specs room args rest with
  | case1 args =>
    cases h
    exact hargs
  | case2 args rest => exact absurd List.mem_cons_self hdashes
  | case3 => cases h
  | case4 args arg rest hnot hlooks added uses hread ih =>
    have hframed : Framed specs {} args added rest.head? uses _ :=
      readOption_framed (Extends.refl specs) (fun _ _ => rfl) (fun _ hv => hv) hread
    refine ih ⟨fun p hp => (hframed.options p hp).elim (hargs.options p) id, ?_⟩ (fun hmem => ?_) h
    · rw [hframed.operands]
      exact hargs.operands
    · exact hdashes (List.mem_cons_of_mem _ (mem_of_mem_remaining hmem))
  | case5 => cases h
  | case6 args arg rest hnot hlooks added hadd ih =>
    refine ih ?_ (fun hmem => hdashes (List.mem_cons_of_mem _ hmem)) h
    obtain ⟨hroom, rfl⟩ := Arguments.addOperand_eq_ok_iff.mp hadd
    exact ⟨hargs.options, hroom⟩

/-- **What can be read by itself is read in the same way between other arguments.**  The induction is
on the reading, and the arguments in front are the same in every step. -/
theorem readAll_append {specs specs' : List OptionSpec} {before args read : Arguments}
    {room room' : Nat} {rest : List String} (hextends : Extends specs specs')
    (hfresh : ∀ spec ∈ specs, before.has spec.name = false)
    (hroom : room + before.operands.length ≤ room') (hdashes : "--" ∉ rest)
    (h : readAll specs room args rest = .ok read) (tail : List String) :
    readAll specs' room' (args.behind before) (rest ++ tail) =
      readAll specs' room' (read.behind before) tail := by
  fun_induction readAll specs room args rest with
  | case1 args =>
    cases h
    rfl
  | case2 args rest => exact absurd List.mem_cons_self hdashes
  | case3 => cases h
  | case4 args arg rest hnot hlooks added uses hread ih =>
    have hnext : ∀ value ∈ rest.head?, value ∈ (rest ++ tail).head? := by
      cases rest <;> simp
    have hframed := readOption_framed hextends hfresh hnext hread
    rw [List.cons_append, readAll, if_neg hnot, if_pos hlooks, hframed.again]
    have hrest : (if uses = true then (rest ++ tail).tail else rest ++ tail) =
        (if uses = true then rest.tail else rest) ++ tail := by
      cases uses with
      | false => rfl
      | true =>
        -- the value is not the first argument behind, since without one the reading would fail
        cases rest with
        | nil => exact absurd (hframed.uses rfl) (by simp)
        | cons next rest => rfl
    simp only [hrest]
    exact ih (fun hmem => hdashes (List.mem_cons_of_mem _ (mem_of_mem_remaining hmem))) h
  | case5 => cases h
  | case6 args arg rest hnot hlooks added hadd ih =>
    obtain ⟨hfits, rfl⟩ := Arguments.addOperand_eq_ok_iff.mp hadd
    have hagain : (args.behind before).addOperand room' arg =
        .ok (Arguments.behind { args with operands := arg :: args.operands } before) := by
      refine Arguments.addOperand_eq_ok_iff.mpr ⟨?_, rfl⟩
      show (args.operands ++ before.operands).length < room'
      rw [List.length_append]
      omega
    rw [List.cons_append, readAll, if_neg hnot, if_neg hlooks, hagain]
    exact ih (fun hmem => hdashes (List.mem_cons_of_mem _ hmem)) h

section

variable {specs specs' : List OptionSpec} {before read : Arguments} {room room' : Nat}
  {rest : List String} (hextends : Extends specs specs') (hdashes : "--" ∉ rest)
  (hrest : readAll specs room {} rest = .ok read)
include hextends hdashes hrest

/-- With more arguments behind them, arguments are read first, -/
theorem readAll_first (hroom : room ≤ room') (tail : List String) :
    readAll specs' room' {} (rest ++ tail) = readAll specs' room' read tail := by
  have happend : readAll specs' room' (Arguments.behind {} {}) (rest ++ tail) =
      readAll specs' room' (read.behind {}) tail :=
    readAll_append hextends (fun _ _ => rfl) hroom hdashes hrest tail
  rwa [Arguments.behind_empty, Arguments.behind_empty] at happend

/-- and with others in front of them, they are read last. -/
theorem readAll_last (hfresh : ∀ spec ∈ specs, before.has spec.name = false)
    (hroom : room + before.operands.length ≤ room') :
    readAll specs' room' before rest = .ok (read.behind before) := by
  have happend : readAll specs' room' (Arguments.behind {} before) (rest ++ []) =
      readAll specs' room' (read.behind before) [] :=
    readAll_append hextends hfresh hroom hdashes hrest []
  rwa [List.append_nil, Arguments.empty_behind, readAll] at happend

end

end CommandLine
end DocPipe
