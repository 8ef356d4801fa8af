import DocPipe.Pipeline
import DocPipe.Proofs.Template.Resolvable
import DocPipe.Proofs.Text.Quoted

/-!
# Stages that make no sense

A pipeline can be checked without a document, and it can be run as it is.  The check goes through
the texts of the stages and reports what it cannot read; the run takes whatever the stages let
through.  Here the reports are tied to what a run does.

A path or a filter that is reported lets nothing through (`items_eq_nil_of_violation`).  So nothing
that should have been kept out passes because of a slip in a text.  A template lets everything
through, but if it is reported for a key, that key stays empty in every item and is listed as
unresolved (`mem_unresolved_of_parse`).  A report is a message and no more, but the key can be read
off it, since a quotation ends where it does (`exists_of_message_invalidKey`).

The mistakes in a template are found piece by piece, like everything about templates; the third kind
of mistake, braces that nothing closes, is not about a key and leaves nothing unresolved.
-/

namespace DocPipe

namespace Template

/-! ## Keys that are refused -/

/-- **The key that a template is refused for stays empty in every item.** -/
theorem mem_unresolved_of_parse {template key : String} {e : TemplateError}
    (h : parse template = .error e)
    (hkey : (e = .emptyPlaceholder ∧ key = "") ∨ ∃ cause, e = .invalidKey key cause) (item : Value)
    (index : Nat) : key ∈ (expand template item index).unresolved := by
  obtain ⟨pieces, hscan⟩ := exists_scan template.toList
  have hnamed : e.key? = some key := by
    rcases hkey with ⟨rfl, rfl⟩ | ⟨cause, rfl⟩
    · rfl
    · rfl
  have hfind := (key?_eq_find? hscan h).symm.trans hnamed
  have hnever : NeverResolves key := of_decide_eq_true (by simpa using List.find?_some hfind)
  rw [expand_eq_fillPieces item index hscan, unresolved_fillPieces]
  exact List.mem_filter.mpr
    ⟨List.mem_of_find?_eq_some hfind, by rw [hnever item index]; rfl⟩

/-! ## What a message tells -/

/-- A message about a key quotes the key. -/
theorem toList_message_invalidKey (key : String) (cause : PathError) :
    (TemplateError.invalidKey key cause).message.toList =
      "invalid placeholder key ".toList ++
        ((Text.quoted key).toList ++ (": ".toList ++ cause.message.toList)) := by
  show ("invalid placeholder key " ++ Text.quoted key ++ ": " ++ cause.message).toList = _
  rw [String.toList_append, String.toList_append, String.toList_append, List.append_assoc,
    List.append_assoc]

/-- And so it begins like no message about anything else. -/
theorem head?_message_invalidKey (key : String) (cause : PathError) :
    (TemplateError.invalidKey key cause).message.toList.head? = some 'i' := by
  have hfirst : "invalid placeholder key ".toList.head? = some 'i' := by decide
  rw [toList_message_invalidKey, List.head?_append, hfirst]
  rfl

/-- Only an empty placeholder is reported as one. -/
theorem eq_of_message_emptyPlaceholder {e : TemplateError}
    (h : e.message = TemplateError.emptyPlaceholder.message) : e = .emptyPlaceholder := by
  cases e with
  | emptyPlaceholder => rfl
  | unclosedPlaceholder =>
    have hfirst : TemplateError.unclosedPlaceholder.message.toList.head? = some 'u' := by decide
    rw [h] at hfirst
    exact absurd hfirst (by decide)
  | invalidKey key cause =>
    have hfirst := head?_message_invalidKey key cause
    rw [h] at hfirst
    exact absurd hfirst (by decide)

/-- **A message about a key tells which key it is.** -/
theorem exists_of_message_invalidKey {e : TemplateError} {key : String} {cause : PathError}
    (h : e.message = (TemplateError.invalidKey key cause).message) :
    ∃ cause', e = .invalidKey key cause' := by
  have hfirst := head?_message_invalidKey key cause
  rw [← h] at hfirst
  cases e with
  | emptyPlaceholder => exact absurd hfirst (by decide)
  | unclosedPlaceholder => exact absurd hfirst (by decide)
  | invalidKey key' cause' =>
    have hlist := congrArg String.toList h
    rw [toList_message_invalidKey, toList_message_invalidKey] at hlist
    exact ⟨cause', by rw [(Text.quoted_append_inj (List.append_cancel_left hlist)).1]⟩

end Template

namespace Pipeline

variable {p : Pipeline}

/-! ## Reports -/

/-- A path is reported exactly if it cannot be read. -/
theorem selectViolation?_eq_some_iff {text : String} {v : Violation} :
    selectViolation? text = some v ↔
      ∃ e, Path.parse text = .error e ∧ v = ⟨.select, e.message⟩ := by
  rw [selectViolation?]
  cases Path.parse text with
  | ok path => simp
  | error e => simp [eq_comm]

/-- A filter is reported exactly if it cannot be read. -/
theorem filterViolation?_eq_some_iff {text : String} {v : Violation} :
    filterViolation? text = some v ↔
      ∃ e, Filter.parse text = .error e ∧ v = ⟨.filter, e.message⟩ := by
  rw [filterViolation?]
  cases Filter.parse text with
  | ok expr => simp
  | error e => simp [eq_comm]

/-- A template is reported exactly if it has a mistake. -/
theorem templateViolation?_eq_some_iff {text : String} {v : Violation} :
    templateViolation? text = some v ↔
      ∃ e, Template.parse text = .error e ∧ v = ⟨.template, e.message⟩ := by
  rw [templateViolation?]
  cases Template.parse text with
  | ok parts => simp
  | error e => simp [eq_comm]

/-- **The reports are of the stages that cannot be read**, and say why. -/
theorem mem_violations_iff {v : Violation} :
    v ∈ p.violations ↔
      (∃ e, Path.parse p.select = .error e ∧ v = ⟨.select, e.message⟩) ∨
      (∃ e, Filter.parse p.filter = .error e ∧ v = ⟨.filter, e.message⟩) ∨
      (∃ template e, p.template = some template ∧ Template.parse template = .error e ∧
        v = ⟨.template, e.message⟩) := by
  rw [violations, List.mem_append, List.mem_append, Option.mem_toList, Option.mem_toList,
    Option.mem_toList, selectViolation?_eq_some_iff, filterViolation?_eq_some_iff, or_assoc,
    Option.bind_eq_some_iff]
  simp only [templateViolation?_eq_some_iff, exists_and_left]

/-- A report about a template says what is wrong with it. -/
theorem exists_of_mem_violations {template : String} (htemplate : p.template = some template)
    {v : Violation} (hv : v ∈ p.violations) (hstage : v.stage = .template) :
    ∃ e, Template.parse template = .error e ∧ e.message = v.message := by
  rcases mem_violations_iff.mp hv with ⟨e, -, rfl⟩ | ⟨e, -, rfl⟩ | ⟨template', e, heq, he, rfl⟩
  · exact absurd hstage (by simp)
  · exact absurd hstage (by simp)
  · rw [htemplate, Option.some_inj] at heq
    exact ⟨e, heq ▸ he, rfl⟩

/-- **The stages are reported in the order in which they run**, each of them once at most. -/
theorem stages_sublist (p : Pipeline) :
    (p.violations.map Violation.stage).Sublist [.select, .filter, .template] := by
  have hone : ∀ (r : Option Violation) (stage : Stage), (∀ v ∈ r, v.stage = stage) →
      (r.toList.map Violation.stage).Sublist [stage] := by
    intro r stage h
    cases r with
    | none => exact List.nil_sublist _
    | some v =>
      rw [Option.toList_some, List.map_singleton, h v rfl]
  rw [violations, List.map_append, List.map_append]
  refine ((hone _ .select ?_).append (hone _ .filter ?_)).append (hone _ .template ?_)
  · intro v hv
    obtain ⟨e, -, rfl⟩ := selectViolation?_eq_some_iff.mp hv
    rfl
  · intro v hv
    obtain ⟨e, -, rfl⟩ := filterViolation?_eq_some_iff.mp hv
    rfl
  · intro v hv
    obtain ⟨template, -, hv⟩ := Option.bind_eq_some_iff.mp hv
    obtain ⟨e, -, rfl⟩ := templateViolation?_eq_some_iff.mp hv
    rfl

/-! ## What is let through -/

/-- **A path or a filter that is reported lets nothing through.** -/
theorem items_eq_nil_of_violation {v : Violation} (hv : v ∈ p.violations)
    (hstage : v.stage = .select ∨ v.stage = .filter) (root : Value) : p.items root = [] := by
  have hkept : (Path.selectText p.select root).filter (Filter.evaluateText p.filter) = [] := by
    rcases mem_violations_iff.mp hv with ⟨e, he, rfl⟩ | ⟨e, he, rfl⟩ | ⟨template, e, -, -, rfl⟩
    · rw [Path.selectText, he]
      rfl
    · refine List.filter_eq_nil_iff.mpr fun item _ => ?_
      rw [Filter.evaluateText, Filter.tryEvaluate, he]
      exact Bool.false_ne_true
    · exact absurd hstage (by simp)
  rw [items, hkept]
  cases p.limit with
  | none => rfl
  | some n => exact List.take_nil

/-- And so there is nothing to show. -/
theorem render_eq_nil_of_items {root : Value} (h : p.items root = []) : p.render root = [] := by
  rw [render, h]
  rfl

end Pipeline
end DocPipe
