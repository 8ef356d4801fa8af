import DocPipe.Proofs.Filter.Shape

/-!
# Reading filters by recursive descent

The grammar of filters suggests another reader than the one with a stack: one function for terms and
one for expressions, which call each other as the grammar nests.  Such a reader is easy to write and
easy to attack, since a filter with a hundred thousand parentheses makes it recurse as often.  This
file writes it down and shows that here it cannot be attacked.

## The budget

`Descent.term` recurses on a budget, the number of its own activations that may be open inside one
another, and gives `none` when the budget is spent.  That is an outcome of its own and not an error:
an error says something about the filter, and `none` says that nothing has been found out about it.
The loop over the connectives of an expression is counted as well, so a reader that never gives
`none` always comes to an end.

**A budget of 129 is never spent** (`Descent.parse_eq_some`), whatever the text: a term may be read
inside 128 parentheses and `not`s, and the next one to be opened is refused.  Nothing less will do
(`Descent.ofTokens_nots`).

## One reader or the other

Both readers give the same answer to every text, errors included.  What connects them is the stack:
the activations of `term` that are open are the frames that nest.  So a term is read by descent
exactly as the other reader goes on until it has completed that term (`Descent.agrees_term`), and
that is an induction on the budget.
-/

namespace DocPipe
namespace Filter

open State

/-! ## The other reader, to its end -/

/-- What the reader with a stack makes of the tokens behind a state, all of them. -/
def State.conclude (s : State) (ts : List Token) : Except FilterError Expr :=
  (s.run ts).bind State.finish

theorem conclude_cons (s : State) (t : Token) (ts : List Token) :
    s.conclude (t :: ts) = (s.step t).bind (·.conclude ts) := by
  unfold State.conclude
  rw [run_cons]
  cases s.step t <;> rfl

theorem conclude_cons_of_step {s s' : State} {t : Token} (h : s.step t = .ok s')
    (ts : List Token) : s.conclude (t :: ts) = s'.conclude ts := by
  rw [conclude_cons, h]
  rfl

theorem conclude_cons_of_error {s : State} {t : Token} {cause : FilterError}
    (h : s.step t = .error cause) (ts : List Token) : s.conclude (t :: ts) = .error cause := by
  rw [conclude_cons, h]
  rfl

namespace Descent

/-! ## The reader -/

/-- Where a reader is: the tokens ahead of it, how many parentheses and `not`s are open, and how
many connectives are behind it. -/
structure Cursor where
  ahead : List Token
  nesting : Nat
  connectives : Nat

/-- What a reader returns: an expression and where it ends, or an error; or nothing at all, when the
budget is spent. -/
abbrev Reading := Option (Except FilterError (Expr × Cursor))

/-- Goes on behind what has been read. -/
def andThen (reading : Reading) (next : Expr → Cursor → Reading) : Reading :=
  match reading with
  | none => none
  | some (.error cause) => some (.error cause)
  | some (.ok (e, c)) => next e c

/-- The field that a token names. -/
def fieldOf (t : Token) : Except FilterError Field :=
  match t with
  | .word w =>
    if isKeyword w then .error (.unexpectedToken .field t)
    else match Path.parse w with
      | .ok path => .ok ⟨w, path⟩
      | .error cause => .error (.invalidPath cause)
  | _ => .error (.unexpectedToken .field t)

/-- The operator that a token spells. -/
def operatorOf (t : Token) : Except FilterError Operator :=
  match t with
  | .symbol s => .ok (.symbol s)
  | .word w =>
    match Operator.ofSpelling? w with
    | some op => .ok op
    | none => .error (.unknownOperator w)
  | _ => .error (.unexpectedToken .operator t)

/-- The literal that a token denotes. -/
def literalOf (t : Token) : Except FilterError Literal :=
  match literal? t with
  | some literal => .ok literal
  | none => .error (.unexpectedToken .literal t)

/-- Takes the next token for what is expected there. -/
def take {α : Type} (expected : Expected) (read : Token → Except FilterError α) :
    List Token → Except FilterError (α × List Token)
  | [] => .error (.unexpectedEnd expected)
  | t :: ts => (read t).map fun a => (a, ts)

/-- Reads a comparison. -/
def comparison (c : Cursor) : Except FilterError (Expr × Cursor) :=
  (take .field fieldOf c.ahead).bind fun field =>
    (take .operator operatorOf field.2).bind fun op =>
      (take .literal literalOf op.2).map fun literal =>
        (.compare field.1 op.1 literal.1, { c with ahead := literal.2 })

/-- Reads something that nests, unless there is too much around it already. -/
def nested (read : Cursor → Reading) (c : Cursor) : Reading :=
  if c.nesting < maxNesting then
    andThen (read { c with nesting := c.nesting + 1 }) fun e c =>
      some (.ok (e, { c with nesting := c.nesting - 1 }))
  else some (.error .tooDeep)

/-- Takes the parenthesis that closes. -/
def close (e : Expr) (c : Cursor) : Except FilterError (Expr × Cursor) :=
  match c.ahead with
  | [] => .error .unbalancedParen
  | .closing :: rest => .ok (e, { c with ahead := rest })
  | t :: _ => .error (.unexpectedToken .closing t)

/-- The connective that comes next. -/
def connectiveAhead? : List Token → Option Connective
  | [] => none
  | t :: _ => connective? t

/-- Reads any number of connectives, each with the term behind it, in at most the given number of
rounds.  Each of them takes everything so far as its left-hand side. -/
def chain (read : Cursor → Reading) : Nat → Expr → Cursor → Reading
  | 0, left, c => if connectiveAhead? c.ahead = none then some (.ok (left, c)) else none
  | rounds + 1, left, c =>
    match connectiveAhead? c.ahead with
    | none => some (.ok (left, c))
    | some k =>
      if c.connectives < maxConnectives then
        andThen (read ⟨c.ahead.tail, c.nesting, c.connectives + 1⟩) fun right c =>
          chain read rounds (.join k left right) c
      else some (.error .tooLong)

/-- Reads an expression, given a reader for terms. -/
def expr (read : Cursor → Reading) (c : Cursor) : Reading :=
  andThen (read c) fun left c => chain read c.ahead.length left c

/-- Reads a term, with at most `budget` activations of this function open inside one another. -/
def term : Nat → Cursor → Reading
  | 0, _ => none
  | budget + 1, c =>
    match c.ahead with
    | .opening :: rest =>
      andThen (nested (expr (term budget)) { c with ahead := rest }) fun e c => some (close e c)
    | .word w :: rest =>
      if w = "not" then
        andThen (nested (term budget) { c with ahead := rest }) fun e c => some (.ok (.not e, c))
      else some (comparison c)
    | _ => some (comparison c)

/-- Takes the end of the filter. -/
def ending (e : Expr) : List Token → Except FilterError Expr
  | [] => .ok e
  | .closing :: _ => .error .unbalancedParen
  | t :: _ => .error (.unexpectedToken .connective t)

/-- The expression that a row of tokens denotes, with at most `budget` terms open. -/
def ofTokens (budget : Nat) (ts : List Token) : Option (Except FilterError (Option Expr)) :=
  if ts.isEmpty then some (.ok none)
  else (expr (term budget) ⟨ts, 0, 0⟩).map fun r =>
    (r.bind fun p => ending p.1 p.2.ahead).map some

/-- The expression that a filter denotes, with at most `budget` terms open. -/
def parse (budget : Nat) (text : String) : Option (Except FilterError (Option Expr)) :=
  match Token.scan text.toList with
  | .error cause => some (.error cause)
  | .ok ts => ofTokens budget ts

/-! ## What agreement means -/

/-- A reading agrees with the reader that is in state `s` in front of the same tokens: it gives an
answer; the reader comes to the same error, or to the state `resume` that has completed the same
expression; and the reading leaves open what was open before. -/
def Agrees (c : Cursor) (s : State) (resume : Expr → Nat → State) (reading : Reading) : Prop :=
  ∃ r, reading = some r ∧
    s.conclude c.ahead =
      r.bind (fun p => (resume p.1 p.2.connectives).conclude p.2.ahead) ∧
    ∀ e c', r = .ok (e, c') → c'.nesting = c.nesting ∧ c'.ahead.length ≤ c.ahead.length

/-- Whether a reader reads terms as the reader with a stack does, inside `n` parentheses and
`not`s. -/
def ReadsTerms (n : Nat) (read : Cursor → Reading) : Prop :=
  ∀ (stack : List Frame) (c : Cursor), State.nesting stack = n → c.nesting = n →
    Agrees c ⟨stack, .term, c.connectives⟩ (afterTerm stack) (read c)

theorem Agrees.of_error {c : Cursor} {s : State} {resume : Expr → Nat → State}
    {cause : FilterError} (h : s.conclude c.ahead = .error cause) :
    Agrees c s resume (some (.error cause)) :=
  ⟨.error cause, rfl, h, fun _ _ hr => absurd hr (by simp)⟩

theorem Agrees.of_ok {c c' : Cursor} {s : State} {resume : Expr → Nat → State} {e : Expr}
    (h : s.conclude c.ahead = (resume e c'.connectives).conclude c'.ahead)
    (hnesting : c'.nesting = c.nesting) (hlength : c'.ahead.length ≤ c.ahead.length) :
    Agrees c s resume (some (.ok (e, c'))) := by
  refine ⟨.ok (e, c'), rfl, h, ?_⟩
  intro e₁ c₁ hr
  obtain ⟨rfl, rfl⟩ := Prod.mk.inj (Except.ok.inj hr)
  exact ⟨hnesting, hlength⟩

/-- A reading that agrees can be gone on from, if going on agrees. -/
theorem Agrees.andThen {c₀ c : Cursor} {s₀ s : State} {resume₀ resume : Expr → Nat → State}
    {reading : Reading} {next : Expr → Cursor → Reading} (h : Agrees c s resume reading)
    (hstart : s₀.conclude c₀.ahead = s.conclude c.ahead) (hnesting : c.nesting = c₀.nesting)
    (hlength : c.ahead.length ≤ c₀.ahead.length)
    (hnext : ∀ e c', reading = some (.ok (e, c')) → c'.nesting = c.nesting →
      c'.ahead.length ≤ c.ahead.length →
      Agrees c' (resume e c'.connectives) resume₀ (next e c')) :
    Agrees c₀ s₀ resume₀ (Descent.andThen reading next) := by
  obtain ⟨r, rfl, hconclude, hleft⟩ := h
  cases r with
  | error cause =>
    refine .of_error ?_
    rw [hstart, hconclude]
    rfl
  | ok p =>
    obtain ⟨e, c'⟩ := p
    obtain ⟨hnesting', hlength'⟩ := hleft e c' rfl
    obtain ⟨r, hr, hresume, hleft'⟩ := hnext e c' rfl hnesting' hlength'
    refine ⟨r, hr, ?_, ?_⟩
    · rw [hstart, hconclude]
      exact hresume
    · intro e₁ c₁ heq
      obtain ⟨hnesting₁, hlength₁⟩ := hleft' e₁ c₁ heq
      exact ⟨hnesting₁.trans (hnesting'.trans hnesting), by omega⟩

/-! ## Comparisons -/

theorem take_cons {α : Type} (expected : Expected) (read : Token → Except FilterError α)
    (t : Token) (ts : List Token) :
    take expected read (t :: ts) = (read t).map fun a => (a, ts) := rfl

/-- What is taken is taken from the front. -/
theorem length_of_take {α : Type} {expected : Expected} {read : Token → Except FilterError α}
    {ts rest : List Token} {a : α} (h : take expected read ts = .ok (a, rest)) :
    rest.length < ts.length := by
  cases ts with
  | nil => exact absurd h (by simp [take])
  | cons t ts =>
    rw [take_cons] at h
    cases hread : read t with
    | error cause => exact absurd h (by simp [hread, Except.map])
    | ok b =>
      rw [hread] at h
      rw [← (Prod.mk.inj (Except.ok.inj h)).2]
      exact Nat.lt_succ_self _

/-- Whether a term that begins with the given tokens can only be a comparison. -/
def BeginsComparison : List Token → Prop
  | .opening :: _ => False
  | .word w :: _ => w ≠ "not"
  | _ => True

/-- Where a comparison begins, the reader takes a field. -/
theorem conclude_field (stack : List Frame) (n : Nat) {ts : List Token}
    (h : BeginsComparison ts) :
    conclude ⟨stack, .term, n⟩ ts = (take .field fieldOf ts).bind fun p =>
      conclude ⟨stack, .operator p.1, n⟩ p.2 := by
  cases ts with
  | nil => rfl
  | cons t ts =>
    rw [conclude_cons, take_cons]
    cases t with
    | word w =>
      have hnot : w ≠ "not" := h
      show (stepTerm ⟨stack, .term, n⟩ (.word w)).bind _ = _
      simp only [stepTerm, fieldOf, if_neg hnot]
      split
      · rfl
      · cases Path.parse w <;> rfl
    | opening => exact h.elim
    | string s => rfl
    | symbol s => rfl
    | closing => rfl

/-- Behind a field, the reader takes an operator. -/
theorem conclude_operator (stack : List Frame) (n : Nat) (field : Field) (ts : List Token) :
    conclude ⟨stack, .operator field, n⟩ ts = (take .operator operatorOf ts).bind fun p =>
      conclude ⟨stack, .literal field p.1, n⟩ p.2 := by
  cases ts with
  | nil => rfl
  | cons t ts =>
    rw [conclude_cons, take_cons]
    show (stepOperator ⟨stack, .operator field, n⟩ field t).bind _ = _
    cases t with
    | word w =>
      simp only [stepOperator, operatorOf]
      cases Operator.ofSpelling? w <;> rfl
    | string s => rfl
    | symbol s => rfl
    | opening => rfl
    | closing => rfl

/-- Behind an operator, the reader takes a literal, and has completed a comparison. -/
theorem conclude_literal (stack : List Frame) (n : Nat) (field : Field) (op : Operator)
    (ts : List Token) :
    conclude ⟨stack, .literal field op, n⟩ ts = (take .literal literalOf ts).bind fun p =>
      (afterTerm stack (.compare field op p.1) n).conclude p.2 := by
  cases ts with
  | nil => rfl
  | cons t ts =>
    rw [conclude_cons, take_cons]
    show (stepLiteral ⟨stack, .literal field op, n⟩ field op t).bind _ = _
    simp only [stepLiteral, literalOf]
    cases literal? t <;> rfl

/-- Comparisons are read alike. -/
theorem agrees_comparison (stack : List Frame) {c : Cursor} (h : BeginsComparison c.ahead) :
    Agrees c ⟨stack, .term, c.connectives⟩ (afterTerm stack) (some (comparison c)) := by
  refine ⟨comparison c, rfl, ?_, ?_⟩
  · rw [conclude_field stack c.connectives h, comparison]
    cases take .field fieldOf c.ahead with
    | error cause => rfl
    | ok field =>
      show conclude ⟨stack, .operator field.1, c.connectives⟩ field.2 = _
      rw [conclude_operator]
      simp only [Except.bind]
      cases take .operator operatorOf field.2 with
      | error cause => rfl
      | ok op =>
        show conclude ⟨stack, .literal field.1 op.1, c.connectives⟩ op.2 = _
        rw [conclude_literal]
        simp only
        cases take .literal literalOf op.2 <;> rfl
  · intro e c' hok
    unfold comparison at hok
    cases hfield : take .field fieldOf c.ahead with
    | error cause => exact absurd hok (by simp [hfield, Except.bind])
    | ok field =>
      cases hop : take .operator operatorOf field.2 with
      | error cause => exact absurd hok (by simp [hfield, hop, Except.bind])
      | ok op =>
        cases hliteral : take .literal literalOf op.2 with
        | error cause => exact absurd hok (by simp [hfield, hop, hliteral, Except.bind, Except.map])
        | ok literal =>
          have hfieldLength := length_of_take hfield
          have hopLength := length_of_take hop
          have hliteralLength := length_of_take hliteral
          simp only [hfield, hop, hliteral, Except.bind, Except.map, Except.ok.injEq,
            Prod.mk.injEq] at hok
          rw [← hok.2]
          refine ⟨rfl, ?_⟩
          show literal.2.length ≤ c.ahead.length
          omega

/-! ## Expressions -/

theorem eq_cons_of_connectiveAhead? {ts : List Token} {k : Connective}
    (h : connectiveAhead? ts = some k) : ts = .word k.spelling :: ts.tail := by
  cases ts with
  | nil => exact absurd h (by simp [connectiveAhead?])
  | cons t ts =>
    rw [eq_spelling_of_connective? h]
    rfl

/-- Going on has an outcome only if there was one before. -/
theorem exists_of_andThen {reading : Reading} {next : Expr → Cursor → Reading} {e : Expr}
    {c : Cursor} (h : andThen reading next = some (.ok (e, c))) :
    ∃ e₀ c₀, reading = some (.ok (e₀, c₀)) ∧ next e₀ c₀ = some (.ok (e, c)) := by
  unfold Descent.andThen at h
  split at h
  · exact absurd h (by simp)
  · exact absurd h (by simp)
  · next e₀ c₀ => exact ⟨e₀, c₀, rfl, h⟩

/-- Behind the last round no connective is left. -/
theorem connectiveAhead?_of_chain {read : Cursor → Reading} {rounds : Nat} {left e : Expr}
    {c c' : Cursor} (h : chain read rounds left c = some (.ok (e, c'))) :
    connectiveAhead? c'.ahead = none := by
  induction rounds generalizing left c with
  | zero =>
    rw [chain] at h
    split at h
    · next hnone =>
      rw [← (Prod.mk.inj (Except.ok.inj (Option.some.inj h))).2]
      exact hnone
    · exact absurd h (by simp)
  | succ rounds ih =>
    rw [chain] at h
    split at h
    · next hnone =>
      rw [← (Prod.mk.inj (Except.ok.inj (Option.some.inj h))).2]
      exact hnone
    · split at h
      · obtain ⟨right, c₁, -, hrest⟩ := exists_of_andThen h
        exact ih hrest
      · exact absurd h (by simp)

/-- Behind an expression there is no connective. -/
theorem connectiveAhead?_of_expr {read : Cursor → Reading} {e : Expr} {c c' : Cursor}
    (h : expr read c = some (.ok (e, c'))) : connectiveAhead? c'.ahead = none := by
  obtain ⟨left, c₁, -, hrest⟩ := exists_of_andThen h
  exact connectiveAhead?_of_chain hrest

/-- The rounds of the loop are read alike, and there are enough of them if there is one for each
token: every round takes a connective. -/
theorem agrees_chain {n : Nat} {read : Cursor → Reading} (hread : ReadsTerms n read)
    {stack : List Frame} (hstack : State.nesting stack = n) {rounds : Nat} (left : Expr)
    {c : Cursor} (hc : c.nesting = n) (hrounds : c.ahead.length ≤ rounds) :
    Agrees c ⟨stack, .connective left, c.connectives⟩ (fun e m => ⟨stack, .connective e, m⟩)
      (chain read rounds left c) := by
  induction rounds generalizing left c with
  | zero =>
    have hnil : c.ahead = [] := List.length_eq_zero_iff.mp (Nat.le_zero.mp hrounds)
    rw [chain, if_pos (by rw [hnil]; rfl)]
    exact .of_ok rfl rfl (Nat.le_refl _)
  | succ rounds ih =>
    rw [chain]
    cases hk : connectiveAhead? c.ahead with
    | none => exact .of_ok rfl rfl (Nat.le_refl _)
    | some k =>
      have hahead := eq_cons_of_connectiveAhead? hk
      have hlength : c.ahead.length = c.ahead.tail.length + 1 := congrArg List.length hahead
      simp only
      by_cases hroom : c.connectives < maxConnectives
      · -- the frame that waits for the right-hand side does not nest
        have hterm := hread (.left left k :: stack) ⟨c.ahead.tail, c.nesting, c.connectives + 1⟩
          hstack hc
        have hstep : step ⟨stack, .connective left, c.connectives⟩ (.word k.spelling) =
            .ok ⟨.left left k :: stack, .term, c.connectives + 1⟩ :=
          step_of_moves (.connective k hroom)
        rw [if_pos hroom]
        refine hterm.andThen ?_ rfl ?_ ?_
        · rw [hahead]
          exact conclude_cons_of_step hstep _
        · show c.ahead.tail.length ≤ c.ahead.length
          omega
        · intro right c' _ hnesting hle
          have hle' : c'.ahead.length ≤ c.ahead.tail.length := hle
          exact ih (.join k left right) (hnesting.trans hc) (by omega)
      · rw [if_neg hroom]
        refine .of_error ?_
        rw [hahead]
        refine conclude_cons_of_error ?_ _
        simp only [step, stepConnective, connective?_spelling]
        exact if_neg hroom

/-- Expressions are read alike, if terms are. -/
theorem agrees_expr {n : Nat} {read : Cursor → Reading} (hread : ReadsTerms n read)
    (stack : List Frame) (hbase : IsBase stack) (hstack : State.nesting stack = n) {c : Cursor}
    (hc : c.nesting = n) :
    Agrees c ⟨stack, .term, c.connectives⟩ (fun e m => ⟨stack, .connective e, m⟩)
      (expr read c) := by
  refine (hread stack c hstack hc).andThen rfl rfl (Nat.le_refl _) ?_
  intro left c' _ hnesting _
  rw [afterTerm_of_isBase hbase]
  exact agrees_chain hread hstack left (hnesting.trans hc) (Nat.le_refl _)

/-! ## Terms -/

/-- Behind a parenthesis, what nests is read alike if it is read alike one level deeper. -/
theorem agrees_nested {stack : List Frame} (frame : Frame) (hframe : isNesting frame = true)
    {t : Token} (hstep : ∀ n, step ⟨stack, .term, n⟩ t = push ⟨stack, .term, n⟩ frame)
    {c : Cursor} (hc : c.nesting = State.nesting stack) {rest : List Token}
    (hahead : c.ahead = t :: rest) {read : Cursor → Reading} {resume : Expr → Nat → State}
    (hread : State.nesting stack < maxNesting → State.nesting (frame :: stack) = c.nesting + 1 →
      Agrees ⟨rest, c.nesting + 1, c.connectives⟩ ⟨frame :: stack, .term, c.connectives⟩ resume
        (read ⟨rest, c.nesting + 1, c.connectives⟩)) :
    Agrees c ⟨stack, .term, c.connectives⟩ resume (nested read { c with ahead := rest }) := by
  have hpush := hstep c.connectives
  unfold push at hpush
  unfold nested
  by_cases hroom : c.nesting < maxNesting
  · have hdeeper : State.nesting (frame :: stack) = c.nesting + 1 := by
      rw [hc]
      exact List.countP_cons_of_pos hframe
    rw [if_pos (hc ▸ hroom)] at hpush
    rw [if_pos hroom]
    obtain ⟨r, hr, hconclude, hleft⟩ := hread (hc ▸ hroom) hdeeper
    show Agrees c _ resume (andThen (read ⟨rest, c.nesting + 1, c.connectives⟩) _)
    rw [hr]
    have hstart : conclude ⟨stack, .term, c.connectives⟩ c.ahead =
        conclude ⟨frame :: stack, .term, c.connectives⟩ rest := by
      rw [hahead]
      exact conclude_cons_of_step hpush _
    cases r with
    | error cause => exact .of_error (hstart.trans hconclude)
    | ok p =>
      obtain ⟨hnesting, hlength⟩ := hleft p.1 p.2 rfl
      refine .of_ok (hstart.trans hconclude) ?_ ?_
      · show p.2.nesting - 1 = c.nesting
        rw [hnesting]
        rfl
      · rw [hahead]
        exact Nat.le_succ_of_le hlength
  · rw [if_neg (hc ▸ hroom)] at hpush
    rw [if_neg hroom]
    refine .of_error ?_
    rw [hahead]
    exact conclude_cons_of_error hpush _

/-- Behind an expression inside a parenthesis, the reader takes the one that closes. -/
theorem conclude_close (stack : List Frame) (e : Expr) {c : Cursor}
    (h : connectiveAhead? c.ahead = none) :
    conclude ⟨.group :: stack, .connective e, c.connectives⟩ c.ahead =
      (close e c).bind fun p => (afterTerm stack p.1 p.2.connectives).conclude p.2.ahead := by
  unfold close
  cases hahead : c.ahead with
  | nil => rfl
  | cons t rest =>
    rw [hahead] at h
    have hconnective : connective? t = none := h
    have hstep : step ⟨.group :: stack, .connective e, c.connectives⟩ t =
        stepClosing ⟨.group :: stack, .connective e, c.connectives⟩ e t := by
      simp only [step, stepConnective, hconnective]
    rw [conclude_cons, hstep]
    cases t <;> rfl

theorem agrees_close (stack : List Frame) (e : Expr) {c : Cursor}
    (h : connectiveAhead? c.ahead = none) :
    Agrees c ⟨.group :: stack, .connective e, c.connectives⟩ (afterTerm stack)
      (some (close e c)) := by
  refine ⟨close e c, rfl, conclude_close stack e h, ?_⟩
  intro e₁ c₁ hok
  unfold close at hok
  split at hok
  · exact absurd hok (by simp)
  · next rest hahead =>
    rw [← (Prod.mk.inj (Except.ok.inj hok)).2, hahead]
    exact ⟨rfl, Nat.le_succ _⟩
  · exact absurd hok (by simp)

/-- What nests leaves off where it does without nesting. -/
theorem connectiveAhead?_of_nested {read : Cursor → Reading} {e : Expr} {c c' : Cursor}
    (h : nested (expr read) c = some (.ok (e, c'))) : connectiveAhead? c'.ahead = none := by
  unfold nested at h
  split at h
  · obtain ⟨e₀, c₀, hread, hc₀⟩ := exists_of_andThen h
    rw [← (Prod.mk.inj (Except.ok.inj (Option.some.inj hc₀))).2]
    show connectiveAhead? c₀.ahead = none
    exact connectiveAhead?_of_expr hread
  · exact absurd h (by simp)

/-- **Terms are read alike**, inside any number of parentheses and `not`s that is allowed, if the
budget makes up for what may still be opened.  The induction is on the budget: an activation that
opens another one has a frame on the stack. -/
theorem readsTerms_term {budget n : Nat} (hn : n ≤ maxNesting) (hbudget : maxNesting < budget + n) :
    ReadsTerms n (term budget) := by
  induction budget generalizing n with
  | zero => omega
  | succ budget ih =>
    intro stack c hstack hc
    have hnesting : c.nesting = State.nesting stack := hc.trans hstack.symm
    unfold term
    split
    · next rest hahead =>
      have hinside : Agrees c ⟨stack, .term, c.connectives⟩
          (fun e m => ⟨.group :: stack, .connective e, m⟩)
          (nested (expr (term budget)) { c with ahead := rest }) :=
        agrees_nested .group rfl (fun _ => rfl) hnesting hahead fun hroom hdeeper =>
          agrees_expr (ih (by omega) (by omega)) (.group :: stack) trivial hdeeper rfl
      refine hinside.andThen rfl rfl (Nat.le_refl _) ?_
      intro e c' hread _ _
      exact agrees_close stack e (connectiveAhead?_of_nested hread)
    · next w rest hahead =>
      split
      · next hnot =>
        subst hnot
        have hinside : Agrees c ⟨stack, .term, c.connectives⟩ (afterTerm (.not :: stack))
            (nested (term budget) { c with ahead := rest }) :=
          agrees_nested .not rfl (fun _ => rfl) hnesting hahead fun hroom hdeeper =>
            ih (by omega) (by omega) (.not :: stack) _ hdeeper rfl
        refine hinside.andThen rfl rfl (Nat.le_refl _) ?_
        intro e c' _ _ _
        exact .of_ok rfl rfl (Nat.le_refl _)
      · next hnot =>
        refine agrees_comparison stack ?_
        rw [hahead]
        exact hnot
    · next hopening hword =>
      refine agrees_comparison stack ?_
      cases hahead : c.ahead with
      | nil => trivial
      | cons t rest =>
        cases t with
        | word w => exact absurd hahead (hword w rest)
        | opening => exact absurd hahead (hopening rest)
        | string s => trivial
        | symbol s => trivial
        | closing => trivial

/-! ## Filters -/

/-- Behind an expression at the very beginning, the reader takes the end of the filter. -/
theorem conclude_ending (e : Expr) (n : Nat) {ts : List Token} (h : connectiveAhead? ts = none) :
    conclude ⟨[], .connective e, n⟩ ts = ending e ts := by
  cases ts with
  | nil => rfl
  | cons t rest =>
    have hconnective : connective? t = none := h
    have hstep : step ⟨[], .connective e, n⟩ t = stepClosing ⟨[], .connective e, n⟩ e t := by
      simp only [step, stepConnective, hconnective]
    rw [conclude_cons, hstep]
    cases t <;> rfl

/-- **A budget of one more than the allowed nesting is enough for every row of tokens.** -/
theorem ofTokens_eq_some (ts : List Token) :
    ofTokens (maxNesting + 1) ts = some (Filter.ofTokens ts) := by
  unfold ofTokens Filter.ofTokens
  split
  · rfl
  · have hterms : ReadsTerms 0 (term (maxNesting + 1)) :=
      readsTerms_term (Nat.zero_le _) (Nat.lt_succ_self _)
    obtain ⟨r, hr, hconclude, -⟩ :=
      agrees_expr hterms [] trivial rfl (c := ⟨ts, 0, 0⟩) rfl
    have hrun : State.start.conclude ts = r.bind fun p => ending p.1 p.2.ahead := by
      refine hconclude.trans ?_
      cases r with
      | error cause => rfl
      | ok p => exact conclude_ending p.1 p.2.connectives (connectiveAhead?_of_expr hr)
    have hmap : ((State.start.run ts).bind fun s => s.finish.map some) =
        (State.start.conclude ts).map some := by
      unfold State.conclude
      cases State.start.run ts <;> rfl
    rw [hr, hmap, hrun]
    rfl

/-- **A budget of one more than the allowed nesting is enough for every text**, and the answer is
that of the reader with a stack. -/
theorem parse_eq_some (text : String) : parse (maxNesting + 1) text = some (Filter.parse text) := by
  unfold parse Filter.parse
  cases Token.scan text.toList with
  | error cause => rfl
  | ok ts => exact ofTokens_eq_some ts

/-- A row of `not`s opens a term for each of them, and spends the budget. -/
theorem term_nots (budget : Nat) (rest : List Token) {n m : Nat} (h : n + budget ≤ maxNesting) :
    term budget ⟨List.replicate budget (.word "not") ++ rest, n, m⟩ = none := by
  induction budget generalizing n with
  | zero => rfl
  | succ budget ih =>
    have hinside := ih (n := n + 1) (by omega)
    rw [List.replicate_succ, List.cons_append]
    unfold term nested
    simp only
    rw [if_pos trivial, if_pos (show n < maxNesting by omega), hinside]
    rfl

/-- **No smaller budget is enough.** -/
theorem ofTokens_nots {budget : Nat} (h : budget ≤ maxNesting) :
    ofTokens budget (List.replicate (budget + 1) (.word "not")) = none := by
  have hspent := term_nots budget [.word "not"] (n := 0) (m := 0) (by omega)
  rw [← List.replicate_succ'] at hspent
  have hne : (List.replicate (budget + 1) (Token.word "not")).isEmpty = false := rfl
  unfold ofTokens expr
  rw [hne, hspent]
  rfl

end Descent

/-- **Reading a filter, and walking over what has been read, recurses only so deep.**  A reader by
recursive descent gives the answer of this one to every text without ever having more than 129 terms
open.  What it reads has at most 1024 connectives, one comparison more, and at most 128 negations on
a path, so no path has more than 1153 nodes; evaluating and writing the expression open no more
calls than that. -/
theorem parse_within_budget (text : String) :
    Descent.parse 129 text = some (parse text) ∧
    ∀ e, parse text = .ok (some e) →
      e.joins ≤ 1024 ∧ e.negations ≤ 128 ∧ e.comparisons.length = e.joins + 1 ∧
      e.height ≤ 1153 ∧
      (∀ item, e.evaluateWithin item 1153 = some (e.evaluate item)) ∧
      e.writtenWithin 1153 = some e.written := by
  refine ⟨Descent.parse_eq_some text, fun e h => ?_⟩
  obtain ⟨hjoins, hnegations⟩ := joins_le_and_negations_le h
  have hjoins' : e.joins ≤ 1024 := hjoins
  have hnegations' : e.negations ≤ 128 := hnegations
  have hheight : e.height ≤ 1153 := Nat.le_trans e.height_le (by omega)
  exact ⟨hjoins', hnegations', e.length_comparisons, hheight,
    fun item => Expr.evaluateWithin_of_height_le item hheight,
    Expr.writtenWithin_of_height_le hheight⟩

/-- A negation around a connective stays within the bounds. -/
theorem parse_within_budget_negation :
    ∃ e, parse "not (. == 'x' or . contains 'y')" = .ok (some e) ∧
      Descent.parse 129 "not (. == 'x' or . contains 'y')" = some (.ok (some e)) ∧
      e.joins ≤ 1024 ∧ e.negations ≤ 128 ∧ e.comparisons.length = e.joins + 1 ∧
      e.height ≤ 1153 ∧ e.writtenWithin 1153 = some e.written := by
  have hparse : parse "not (. == 'x' or . contains 'y')" =
      .ok (some (.not (.join .or (.compare ⟨".", []⟩ (.symbol .equal) (.string "x"))
        (.compare ⟨".", []⟩ .contains (.string "y"))))) := by cbv
  obtain ⟨hbudget, hshape⟩ := parse_within_budget "not (. == 'x' or . contains 'y')"
  obtain ⟨hjoins, hnegations, hcomparisons, hheight, -, hwritten⟩ := hshape _ hparse
  exact ⟨_, hparse, hbudget.trans (congrArg some hparse), hjoins, hnegations, hcomparisons, hheight,
    hwritten⟩

end Filter
end DocPipe
