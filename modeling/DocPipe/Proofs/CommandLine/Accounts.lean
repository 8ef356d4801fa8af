import Mathlib
import DocPipe.CommandLine.Batch

/-!
# What a batch accounts for

A batch is executed line by line, with lines that are passed over, lines that end it and lines that
do not, and an account of it is kept on the way.  Two things have to be shown of it, and they have
little to do with each other.

The account agrees with what has been done (`Tallies`): the counts count, the failures are the lines
that have failed, and each of them has been warned about.  Every round keeps that, so every run does,
whatever the shell does.

What has been done is compared with the lines themselves: `dueSteps` are the steps of all lines that
are not blank, each at its place, and a batch takes them in order, either all or up to the first that
fails.  How a line ends is not up to the program, so `results` says it for each place, and nothing is
assumed of it.  What is assumed is that the shell can be started; without that there is no ending.

## At every point

A batch of more lines goes on from the batch of fewer, unless that has ended
(`Batch.runFrom_append`).  So what has happened after some lines is the batch of these lines, and what
holds of every batch (`Accounts`) holds at every point of its execution.  The steps at one point are
the first of those at a later one (`isPrefix_attempted`).
-/

namespace DocPipe
namespace CommandLine

/-! ## The account and what has been done -/

/-- The messages that accompany a step. -/
def stepMessages (step : Step) : List Message :=
  .output step.result.stderr :: if step.succeeded then [] else [failureWarning step.failure]

/-- The account of a batch agrees with what has been done. -/
structure Tallies (batch : Batch) : Prop where
  /-- A line is counted even if there is no shell for it. -/
  executed_eq : batch.executed = batch.steps.length + batch.refusal.toList.length
  adds_up : batch.executed = batch.succeeded + batch.failed.length + batch.refusal.toList.length
  failed_eq : batch.failed = (batch.steps.filter (!·.succeeded)).map Step.failure
  messages_eq : batch.messages = batch.steps.flatMap stepMessages

theorem Tallies.empty : Tallies {} := ⟨rfl, rfl, rfl, rfl⟩

section Tallies

variable {batch : Batch}

/-- A line that has been executed is counted twice: among all, and either among those that have
succeeded or among those that have failed. -/
theorem Tallies.record (h : Tallies batch) (step : Step) : Tallies (batch.record step) := by
  have hexecuted := h.executed_eq
  have hadds := h.adds_up
  cases hstep : step.succeeded with
  | true =>
    rw [Batch.record_of_succeeded batch hstep]
    constructor
    · simp only [List.length_append, List.length_singleton]
      omega
    · simp only
      omega
    · simp [h.failed_eq, hstep]
    · simp [h.messages_eq, stepMessages, hstep]
  | false =>
    rw [Batch.record_of_failed batch hstep]
    constructor
    · simp only [List.length_append, List.length_singleton]
      omega
    · simp only [List.length_append, List.length_singleton]
      omega
    · simp [h.failed_eq, hstep]
    · simp [h.messages_eq, stepMessages, hstep]

/-- A line without a shell is counted once, and that is all. -/
theorem Tallies.refuse (h : Tallies batch) (hshell : batch.refusal = none) (refusal : SystemError) :
    Tallies (batch.refuse refusal) := by
  have hexecuted := h.executed_eq
  have hadds := h.adds_up
  rw [hshell] at hexecuted hadds
  exact ⟨congrArg (· + 1) hexecuted, congrArg (· + 1) hadds, h.failed_eq, h.messages_eq⟩

variable (execute : Nat → String → Except SystemError LineResult) (keepGoing : Bool)

/-- **A round keeps the account**, and does not go on without a shell. -/
theorem Tallies.round (h : Tallies batch) (hshell : batch.refusal = none) (index : Nat)
    (line : String) :
    match Batch.round execute keepGoing batch index line with
    | .yield after => Tallies after ∧ after.refusal = none
    | .done after => Tallies after := by
  cases hblank : Text.isBlankText line.toList with
  | true =>
    rw [Batch.round_of_blank hblank]
    exact ⟨h, hshell⟩
  | false =>
    cases hexecute : execute index line with
    | error refusal =>
      rw [Batch.round_of_refused hblank hexecute]
      exact h.refuse hshell refusal
    | ok result =>
      rw [Batch.round_of_executed hblank hexecute]
      cases Step.succeeded ⟨index, line, result⟩ || keepGoing with
      | true => exact ⟨h.record _, (Batch.refusal_record _ _).trans hshell⟩
      | false => exact h.record _

/-- **A run keeps the account**, whatever the shell does. -/
theorem Tallies.runFrom (h : Tallies batch) (hshell : batch.refusal = none) (index : Nat)
    (lines : List String) : Tallies (Batch.runFrom execute keepGoing batch index lines) := by
  induction lines generalizing batch index with
  | nil => exact h
  | cons line lines ih =>
    have hround := h.round execute keepGoing hshell index line
    cases hnext : Batch.round execute keepGoing batch index line with
    | done after =>
      rw [hnext] at hround
      rw [Batch.runFrom_cons_of_done hnext]
      exact hround
    | yield after =>
      rw [hnext] at hround
      rw [Batch.runFrom_cons_of_yield hnext]
      exact ih hround.1 hround.2 (index + 1)

end Tallies

/-! ## Rounds behind one another -/

/-- A batch of more lines is that of fewer, if that has ended, and otherwise goes on from it. -/
theorem Batch.runFrom_append (execute : Nat → String → Except SystemError LineResult)
    (keepGoing : Bool) (batch : Batch) (index : Nat) (before after : List String) :
    runFrom execute keepGoing batch index (before ++ after) =
        runFrom execute keepGoing batch index before ∨
      runFrom execute keepGoing batch index (before ++ after) =
        runFrom execute keepGoing (runFrom execute keepGoing batch index before)
          (index + before.length) after := by
  induction before generalizing batch index with
  | nil => exact .inr rfl
  | cons line before ih =>
    rw [List.cons_append]
    cases hnext : round execute keepGoing batch index line with
    | done ended => exact .inl (by rw [runFrom_cons_of_done hnext, runFrom_cons_of_done hnext])
    | yield next =>
      have hplace : index + (line :: before).length = index + 1 + before.length := by
        rw [List.length_cons]
        omega
      rw [runFrom_cons_of_yield hnext, runFrom_cons_of_yield hnext, hplace]
      exact ih next (index + 1)

/-! ## The steps that are due -/

/-- The steps of the lines that are not blank, the first of all lines being at place `index`. -/
def dueFrom (results : Nat → LineResult) (index : Nat) (lines : List String) : List Step :=
  ((lines.zipIdx index).filter fun p => !Text.isBlankText p.1.toList).map fun p =>
    ⟨p.2, p.1, results p.2⟩

/-- The steps of the lines that are not blank. -/
def dueSteps (results : Nat → LineResult) (lines : List String) : List Step :=
  dueFrom results 0 lines

variable {results : Nat → LineResult}

theorem dueFrom_cons_of_blank {line : String} (h : Text.isBlankText line.toList = true)
    (index : Nat) (lines : List String) :
    dueFrom results index (line :: lines) = dueFrom results (index + 1) lines := by
  rw [dueFrom, List.zipIdx_cons, List.filter_cons_of_neg (by simp [h])]
  rfl

theorem dueFrom_cons {line : String} (h : Text.isBlankText line.toList = false) (index : Nat)
    (lines : List String) :
    dueFrom results index (line :: lines) =
      ⟨index, line, results index⟩ :: dueFrom results (index + 1) lines := by
  rw [dueFrom, List.zipIdx_cons, List.filter_cons_of_pos (by simp [h])]
  rfl

/-- The steps that are due are those of lines, at their places. -/
theorem mem_dueSteps {lines : List String} {step : Step} (h : step ∈ dueSteps results lines) :
    lines[step.index]? = some step.command ∧ step.result = results step.index := by
  obtain ⟨p, hp, rfl⟩ := List.mem_map.mp h
  exact ⟨List.mk_mem_zipIdx_iff_getElem?.mp (List.mem_filter.mp hp).1, rfl⟩

/-- The steps that are due are at places further and further down. -/
theorem pairwise_dueSteps (results : Nat → LineResult) (lines : List String) :
    (dueSteps results lines).Pairwise fun a b => a.index < b.index := by
  have hplaces : (lines.zipIdx.map Prod.snd).Pairwise (· < ·) := by
    rw [List.zipIdx_map_snd]
    exact List.pairwise_lt_range'
  rw [List.pairwise_map] at hplaces
  exact List.pairwise_map.mpr (hplaces.filter _)

/-- The first lines have the first of the steps. -/
theorem isPrefix_dueSteps (results : Nat → LineResult) {before lines : List String}
    (h : before <+: lines) : dueSteps results before <+: dueSteps results lines := by
  obtain ⟨after, rfl⟩ := h
  rw [dueSteps, dueSteps, dueFrom, dueFrom, List.zipIdx_append, List.filter_append,
    List.map_append]
  exact List.prefix_append _ _

/-! ## The steps that are taken -/

/-- The steps up to the first that has failed, and with it. -/
def throughFailure : List Step → List Step
  | [] => []
  | step :: steps => if step.succeeded then step :: throughFailure steps else [step]

/-- The steps that are taken of those that are due. -/
def attempted (keepGoing : Bool) (due : List Step) : List Step :=
  if keepGoing then due else throughFailure due

/-- A step that is taken for good is followed by the others. -/
theorem attempted_cons_of_goesOn {keepGoing : Bool} {step : Step}
    (h : (step.succeeded || keepGoing) = true) (due : List Step) :
    attempted keepGoing (step :: due) = step :: attempted keepGoing due := by
  cases keepGoing with
  | true => rfl
  | false =>
    show throughFailure (step :: due) = step :: throughFailure due
    rw [throughFailure, if_pos (by simpa using h)]

theorem attempted_cons_of_stops {keepGoing : Bool} {step : Step}
    (h : (step.succeeded || keepGoing) = false) (due : List Step) :
    attempted keepGoing (step :: due) = [step] := by
  obtain ⟨hstep, rfl⟩ := Bool.or_eq_false_iff.mp h
  show throughFailure (step :: due) = [step]
  rw [throughFailure, if_neg (by simp [hstep])]

/-- **A batch takes the steps that are due**, as long as the shell can be started. -/
theorem steps_runFrom {execute : Nat → String → Except SystemError LineResult} {keepGoing : Bool}
    {batch : Batch} {index : Nat} {lines : List String}
    (hstarts : ∀ p ∈ lines.zipIdx index, Text.isBlankText p.1.toList = false →
      execute p.2 p.1 = .ok (results p.2)) :
    (Batch.runFrom execute keepGoing batch index lines).steps =
        batch.steps ++ attempted keepGoing (dueFrom results index lines) ∧
      (Batch.runFrom execute keepGoing batch index lines).refusal = batch.refusal := by
  induction lines generalizing batch index with
  | nil => cases keepGoing <;> exact ⟨(List.append_nil _).symm, rfl⟩
  | cons line lines ih =>
    rw [List.zipIdx_cons, List.forall_mem_cons] at hstarts
    obtain ⟨hline, hlines⟩ := hstarts
    cases hblank : Text.isBlankText line.toList with
    | true =>
      rw [Batch.runFrom_cons_of_yield (Batch.round_of_blank hblank batch index),
        dueFrom_cons_of_blank hblank]
      exact ih hlines
    | false =>
      have hround : Batch.round execute keepGoing batch index line = _ :=
        Batch.round_of_executed hblank (hline hblank) batch
      rw [dueFrom_cons hblank]
      cases hgoes : Step.succeeded ⟨index, line, results index⟩ || keepGoing with
      | true =>
        rw [hgoes, if_pos rfl] at hround
        rw [Batch.runFrom_cons_of_yield hround, attempted_cons_of_goesOn hgoes, (ih hlines).1,
          (ih hlines).2, Batch.steps_record, Batch.refusal_record, List.append_assoc]
        exact ⟨rfl, rfl⟩
      | false =>
        rw [hgoes, if_neg (by simp)] at hround
        rw [Batch.runFrom_cons_of_done hround, attempted_cons_of_stops hgoes]
        exact ⟨Batch.steps_record _ _, Batch.refusal_record _ _⟩

/-- Only the last step up to a failure can have failed, and it has if any are left. -/
theorem exists_append_throughFailure (due : List Step) :
    ∃ rest, due = throughFailure due ++ rest ∧
      (∀ step ∈ (throughFailure due).dropLast, step.succeeded = true) ∧
      (rest ≠ [] → ∃ last ∈ (throughFailure due).getLast?, last.succeeded = false) := by
  induction due with
  | nil => exact ⟨[], rfl, by simp [throughFailure], by simp⟩
  | cons step steps ih =>
    obtain ⟨rest, hsteps, hsucceeded, hfailed⟩ := ih
    cases hstep : step.succeeded with
    | false => exact ⟨steps, by simp [throughFailure, hstep], by simp [throughFailure, hstep],
        fun _ => ⟨step, by simp [throughFailure, hstep], hstep⟩⟩
    | true =>
      rw [throughFailure, if_pos hstep]
      refine ⟨rest, congrArg (step :: ·) hsteps, ?_, ?_⟩
      · cases htail : throughFailure steps with
        | nil => simp
        | cons s ss =>
          rw [htail] at hsucceeded
          rw [List.dropLast_cons_cons, List.forall_mem_cons]
          exact ⟨hstep, hsucceeded⟩
      · intro hrest
        obtain ⟨last, hlast, hlastFailed⟩ := hfailed hrest
        refine ⟨last, ?_, hlastFailed⟩
        cases htail : throughFailure steps with
        | nil => exact absurd hlast (by simp [htail])
        | cons s ss =>
          rw [htail] at hlast
          rwa [List.getLast?_cons_cons]

/-- Up to a failure there is at most one. -/
theorem countP_throughFailure_le (due : List Step) :
    (throughFailure due).countP (!·.succeeded) ≤ 1 := by
  induction due with
  | nil => simp [throughFailure]
  | cons step steps ih =>
    cases hstep : step.succeeded with
    | false => simp [throughFailure, hstep]
    | true => simpa [throughFailure, hstep] using ih

/-- Of fewer steps that are due, fewer are taken. -/
theorem isPrefix_throughFailure {due due' : List Step} (h : due <+: due') :
    throughFailure due <+: throughFailure due' := by
  induction due generalizing due' with
  | nil => exact List.nil_prefix
  | cons step steps ih =>
    obtain ⟨rest, rfl⟩ := h
    rw [List.cons_append, throughFailure, throughFailure]
    cases step.succeeded with
    | false => exact List.prefix_rfl
    | true => exact List.cons_prefix_cons.mpr ⟨rfl, ih (List.prefix_append steps rest)⟩

theorem isPrefix_attempted (keepGoing : Bool) {due due' : List Step} (h : due <+: due') :
    attempted keepGoing due <+: attempted keepGoing due' := by
  cases keepGoing with
  | true => exact h
  | false => exact isPrefix_throughFailure h

theorem attempted_isPrefix (keepGoing : Bool) (due : List Step) :
    attempted keepGoing due <+: due := by
  cases keepGoing with
  | true => exact List.prefix_rfl
  | false =>
    obtain ⟨rest, hdue, -⟩ := exists_append_throughFailure due
    exact ⟨rest, hdue.symm⟩

/-! ## Accounts -/

/-- What a batch of lines has done, and what it records of that. -/
structure Accounts (results : Nat → LineResult) (keepGoing : Bool) (lines : List String)
    (batch : Batch) : Prop where
  /-- Every line that is not blank has been executed, if the batch keeps going. -/
  executes_all : keepGoing = true → batch.steps = dueSteps results lines
  /-- Otherwise those up to the first that has failed have been, and that one. -/
  stops_at_failure : keepGoing = false → ∃ rest, dueSteps results lines = batch.steps ++ rest ∧
    (∀ step ∈ batch.steps.dropLast, step.result.ending = .exited 0) ∧
    (rest ≠ [] → ∃ last ∈ batch.steps.getLast?, last.result.ending ≠ .exited 0)
  /-- The place of a step is that of its line among all lines. -/
  line_at : ∀ step ∈ batch.steps, lines[step.index]? = some step.command
  /-- What has been executed is counted, -/
  executed_eq : batch.executed = batch.steps.length
  /-- and has succeeded or failed. -/
  adds_up : batch.executed = batch.succeeded + batch.failed.length
  /-- The failures are the steps that have not succeeded, in the order in which they were taken, each
  with its exit code unless a signal has ended it. -/
  failed_eq : batch.failed =
    (batch.steps.filter fun step => step.result.ending ≠ .exited 0).map fun step =>
      { index := step.index
        command := step.command
        exitCode :=
          match step.result.ending with
          | .exited code => some code
          | .signaled => none }
  /-- That order is the one of their places, -/
  increasing : (batch.failed.map Failure.index).Pairwise (· < ·)
  /-- at which their lines stand. -/
  failed_at : ∀ f ∈ batch.failed, lines[f.index]? = some f.command ∧
    (f.exitCode = none ↔ (results f.index).ending = .signaled)
  /-- A batch that does not keep going has one failure at most. -/
  at_most_one : keepGoing = false → batch.failed.length ≤ 1

/-- To succeed is to exit with 0. -/
theorem Step.succeeded_eq (step : Step) :
    step.succeeded = decide (step.result.ending = .exited 0) := by
  rw [Step.succeeded]
  cases step.result.ending with
  | exited code => cases code <;> rfl
  | signaled => rfl

theorem Step.succeeded_iff {step : Step} :
    step.succeeded = true ↔ step.result.ending = .exited 0 := by
  rw [step.succeeded_eq, decide_eq_true_iff]

theorem Step.succeeded_eq_false_iff {step : Step} :
    step.succeeded = false ↔ step.result.ending ≠ .exited 0 := by
  rw [step.succeeded_eq, decide_eq_false_iff_not]

/-- There is no exit code exactly after a signal. -/
theorem Ending.exitCode?_eq_none_iff {ending : Ending} :
    ending.exitCode? = none ↔ ending = .signaled := by
  cases ending <;> simp [Ending.exitCode?]

/-- **Every batch accounts for its lines.** -/
theorem accounts_of_attempted {keepGoing : Bool} {lines : List String} {batch : Batch}
    (htallies : Tallies batch) (hrefusal : batch.refusal = none)
    (hsteps : batch.steps = attempted keepGoing (dueSteps results lines)) :
    Accounts results keepGoing lines batch := by
  have hsublist : batch.steps.Sublist (dueSteps results lines) :=
    hsteps ▸ (attempted_isPrefix keepGoing _).sublist
  constructor
  · rintro rfl
    exact hsteps
  · rintro rfl
    rw [hsteps]
    obtain ⟨rest, hdue, hsucceeded, hfailed⟩ :=
      exists_append_throughFailure (dueSteps results lines)
    refine ⟨rest, hdue, fun step hstep => Step.succeeded_iff.mp (hsucceeded step hstep), ?_⟩
    intro hrest
    obtain ⟨last, hlast, hlastFailed⟩ := hfailed hrest
    exact ⟨last, hlast, Step.succeeded_eq_false_iff.mp hlastFailed⟩
  · exact fun step hstep => (mem_dueSteps (hsublist.subset hstep)).1
  · simpa [hrefusal] using htallies.executed_eq
  · simpa [hrefusal] using htallies.adds_up
  · rw [htallies.failed_eq]
    have hfilter : (fun step : Step => !step.succeeded) =
        fun step => decide (step.result.ending ≠ .exited 0) :=
      funext fun step => by rw [step.succeeded_eq, decide_not]
    rw [hfilter]
    rfl
  · rw [htallies.failed_eq, List.map_map, List.pairwise_map]
    exact (pairwise_dueSteps results lines).sublist (List.filter_sublist.trans hsublist)
  · intro f hf
    rw [htallies.failed_eq] at hf
    obtain ⟨step, hstep, rfl⟩ := List.mem_map.mp hf
    obtain ⟨hline, hresult⟩ :=
      mem_dueSteps (hsublist.subset (List.mem_filter.mp hstep).1)
    exact ⟨hline, hresult ▸ Ending.exitCode?_eq_none_iff⟩
  · rintro rfl
    rw [htallies.failed_eq, List.length_map, ← List.countP_eq_length_filter, hsteps]
    exact countP_throughFailure_le (dueSteps results lines)

end CommandLine
end DocPipe
