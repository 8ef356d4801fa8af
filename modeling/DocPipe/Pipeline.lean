import DocPipe.Filter.Parser
import DocPipe.Template.Expansion
import DocPipe.Template.Parser

/-!
# Pipelines

A pipeline takes a document apart in three stages.  It selects the places that a path names, keeps
those that pass a filter, and fills a template in for each of them.  Each stage is given by a text,
and a text that makes no sense as what it should be is not an error but lets nothing through; only
the template lets everything through, with empty placeholders where a key makes no sense.

`validate` is the other half: without a document, it reports every stage whose text makes no sense.
-/

namespace DocPipe

/-- The texts of the stages, and how many items to keep at most. -/
structure Pipeline where
  select : String := ""
  filter : String := ""
  template : Option String := none
  limit : Option Nat := none
  deriving DecidableEq, Repr

/-- A stage of a pipeline. -/
inductive Stage where
  | select
  | filter
  | template
  deriving DecidableEq, Repr

/-- What a stage is called. -/
def Stage.name : Stage → String
  | .select => "select"
  | .filter => "filter"
  | .template => "template"

/-- A stage whose text makes no sense, and why. -/
structure Violation where
  stage : Stage
  message : String
  deriving DecidableEq, Repr

namespace Pipeline

/-- The first items of a list, or all if there is no limit. -/
def takeAtMost (limit : Option Nat) (items : List Value) : List Value :=
  match limit with
  | none => items
  | some n => items.take n

/-- The items that the pipeline selects and keeps, in the order of the document. -/
def items (p : Pipeline) (root : Value) : List Value :=
  takeAtMost p.limit ((Path.selectText p.select root).filter (Filter.evaluateText p.filter))

/-- The line for an item.  Without a template it is the text of the item. -/
def line (p : Pipeline) (item : Value) (index : Nat) : String :=
  match p.template with
  | none => item.text
  | some template => (Template.expand template item index).text

/-- The lines for the items, which are numbered from zero. -/
def render (p : Pipeline) (root : Value) : List String :=
  (p.items root).mapIdx fun index item => p.line item index

/-- What is wrong with the path, if anything is. -/
def selectViolation? (text : String) : Option Violation :=
  match Path.parse text with
  | .ok _ => none
  | .error e => some ⟨.select, e.message⟩

/-- What is wrong with the filter, if anything is. -/
def filterViolation? (text : String) : Option Violation :=
  match Filter.parse text with
  | .ok _ => none
  | .error e => some ⟨.filter, e.message⟩

/-- What is wrong with the template, if anything is. -/
def templateViolation? (text : String) : Option Violation :=
  match Template.parse text with
  | .ok _ => none
  | .error e => some ⟨.template, e.message⟩

/-- The stages that make no sense, in the order in which they run. -/
def violations (p : Pipeline) : List Violation :=
  (selectViolation? p.select).toList ++ (filterViolation? p.filter).toList
    ++ (p.template.bind templateViolation?).toList

/-- How a report of the violations begins. -/
def violationSummary (violations : List Violation) : String :=
  "pipeline failed validation (" ++ toString violations.length ++ " violations)"

@[simp] theorem takeAtMost_none (items : List Value) : takeAtMost none items = items := rfl

@[simp] theorem takeAtMost_some (n : Nat) (items : List Value) :
    takeAtMost (some n) items = items.take n := rfl

end Pipeline
end DocPipe
