import DocPipe.Filter.Expr
import DocPipe.Filter.Token

/-!
# Reading filters

    expr       := term (("and" | "or") term)*
    term       := "not" term | "(" expr ")" | comparison
    comparison := field operator literal

`and` and `or` bind equally strongly and group from the left, so `a or b and c` means
`(a or b) and c`; `not` takes the one term behind it.

## Reading with a stack

The reader takes the tokens one at a time.  What it has opened and not yet closed is on a stack of
its own: a `not` that waits for its term, an expression that waits for its right-hand side, and the
parentheses that are open.  So a filter never exhausts anything but the limits that this module sets
itself, and those it can report.

It also makes the reader a fold over the tokens.  An error is final, whatever comes after it, and a
state that is not one can still be gone on from; `finish` is the only place that knows where the
text ends.

The stack counts the nesting, and an open `not` counts like an open parenthesis.  The connectives
are counted for the filter as a whole.
-/

namespace DocPipe
namespace Filter

/-- Something that has been opened and waits for a term. -/
inductive Frame where
  /-- `not`, which waits for what it negates. -/
  | not
  /-- An opening parenthesis, which waits for the expression inside. -/
  | group
  /-- A left-hand side and its connective, which wait for the right-hand side. -/
  | left (lhs : Expr) (c : Connective)
  deriving DecidableEq, Repr

/-- What the next token has to continue. -/
inductive Phase where
  | term
  | operator (field : Field)
  | literal (field : Field) (op : Operator)
  | connective (e : Expr)
  deriving DecidableEq, Repr

/-- What has been read so far: the open frames, the innermost first, and the number of
connectives. -/
structure State where
  stack : List Frame
  phase : Phase
  connectives : Nat
  deriving DecidableEq, Repr

namespace State

/-- Before the first token. -/
def start : State := ⟨[], .term, 0⟩

/-- Whether a frame nests. -/
def isNesting : Frame → Bool
  | .not | .group => true
  | .left _ _ => false

/-- How deep a stack nests. -/
def nesting (stack : List Frame) : Nat := stack.countP isNesting

/-- Hands a term to the frames that wait for it: all open `not`s, and then one left-hand side. -/
def complete : List Frame → Expr → List Frame × Expr
  | .not :: stack, e => complete stack (.not e)
  | .left lhs c :: stack, e => (stack, .join c lhs e)
  | stack, e => (stack, e)

/-- The state behind a term. -/
def afterTerm (stack : List Frame) (e : Expr) (connectives : Nat) : State :=
  ⟨(complete stack e).1, .connective (complete stack e).2, connectives⟩

/-- Opens a frame that nests, unless the stack is full. -/
def push (s : State) (frame : Frame) : Except FilterError State :=
  if nesting s.stack < maxNesting then .ok ⟨frame :: s.stack, .term, s.connectives⟩
  else .error .tooDeep

/-- Opens a right-hand side, unless there are too many. -/
def joinWith (s : State) (e : Expr) (c : Connective) : Except FilterError State :=
  if s.connectives < maxConnectives then
    .ok ⟨.left e c :: s.stack, .term, s.connectives + 1⟩
  else .error .tooLong

/-- Whether a word is one of the three that no field is called. -/
def isKeyword (word : String) : Bool := word == "and" || word == "or" || word == "not"

/-- The connective that a token is. -/
def connective? : Token → Option Connective
  | .word w => if w = "and" then some .and else if w = "or" then some .or else none
  | _ => none

/-- Reads a token where a term begins. -/
def stepTerm (s : State) (token : Token) : Except FilterError State :=
  match token with
  | .opening => s.push .group
  | .word w =>
    if w = "not" then s.push .not
    else if isKeyword w then .error (.unexpectedToken .field token)
    else match Path.parse w with
      | .ok path => .ok { s with phase := .operator ⟨w, path⟩ }
      | .error cause => .error (.invalidPath cause)
  | _ => .error (.unexpectedToken .field token)

/-- Reads a token behind a field. -/
def stepOperator (s : State) (field : Field) (token : Token) : Except FilterError State :=
  match token with
  | .symbol symbol => .ok { s with phase := .literal field (.symbol symbol) }
  | .word w =>
    match Operator.ofSpelling? w with
    | some op => .ok { s with phase := .literal field op }
    | none => .error (.unknownOperator w)
  | _ => .error (.unexpectedToken .operator token)

/-- The literal that a token denotes. -/
def literal? : Token → Option Literal
  | .string text => some (.string text)
  | .word w => Literal.ofWord? w
  | _ => none

/-- Reads a token behind an operator. -/
def stepLiteral (s : State) (field : Field) (op : Operator) (token : Token) :
    Except FilterError State :=
  match literal? token with
  | some literal => .ok (afterTerm s.stack (.compare field op literal) s.connectives)
  | none => .error (.unexpectedToken .literal token)

/-- Reads a token behind a term that is no connective: a parenthesis that closes, if one is open. -/
def stepClosing (s : State) (e : Expr) (token : Token) : Except FilterError State :=
  match s.stack, token with
  | .group :: stack, .closing => .ok (afterTerm stack e s.connectives)
  | .group :: _, _ => .error (.unexpectedToken .closing token)
  | _, .closing => .error .unbalancedParen
  | _, _ => .error (.unexpectedToken .connective token)

/-- Reads a token behind a term. -/
def stepConnective (s : State) (e : Expr) (token : Token) : Except FilterError State :=
  match connective? token with
  | some c => s.joinWith e c
  | none => s.stepClosing e token

/-- Reads one token. -/
def step (s : State) (token : Token) : Except FilterError State :=
  match s.phase with
  | .term => s.stepTerm token
  | .operator field => s.stepOperator field token
  | .literal field op => s.stepLiteral field op token
  | .connective e => s.stepConnective e token

/-- What has been read, if it is complete. -/
def finish (s : State) : Except FilterError Expr :=
  match s.phase with
  | .term => .error (.unexpectedEnd .field)
  | .operator _ => .error (.unexpectedEnd .operator)
  | .literal _ _ => .error (.unexpectedEnd .literal)
  | .connective e => if s.stack.isEmpty then .ok e else .error .unbalancedParen

/-- Reads tokens one after the other. -/
def run (s : State) (tokens : List Token) : Except FilterError State := tokens.foldlM step s

@[simp] theorem run_nil (s : State) : s.run [] = .ok s := rfl

@[simp] theorem run_cons (s : State) (token : Token) (tokens : List Token) :
    s.run (token :: tokens) = (s.step token).bind (run · tokens) := rfl

/-- Reading a row of tokens is reading the first part of it and then the second. -/
theorem run_append (s : State) (first second : List Token) :
    s.run (first ++ second) = (s.run first).bind (run · second) :=
  List.foldlM_append

end State

/-- The expression that a row of tokens denotes; no tokens denote none. -/
def ofTokens (tokens : List Token) : Except FilterError (Option Expr) :=
  if tokens.isEmpty then .ok none
  else (State.start.run tokens).bind fun s => s.finish.map some

/-- The expression that a filter denotes.  A blank filter denotes none. -/
def parse (text : String) : Except FilterError (Option Expr) :=
  (Token.scan text.toList).bind ofTokens

/-- Whether an item passes a filter that may denote nothing; such a filter lets everything pass. -/
def passes (filter : Option Expr) (item : Value) : Bool :=
  filter.all (·.evaluate item)

/-- Whether an item passes the filter that a text denotes. -/
def tryEvaluate (text : String) (item : Value) : Except FilterError Bool :=
  (parse text).map (passes · item)

/-- Whether an item passes a text.  A text that is no filter lets nothing pass. -/
def evaluateText (text : String) (item : Value) : Bool :=
  match tryEvaluate text item with
  | .ok keep => keep
  | .error _ => false

@[simp] theorem passes_none (item : Value) : passes none item = true := rfl

@[simp] theorem passes_some (e : Expr) (item : Value) :
    passes (some e) item = e.evaluate item := rfl

end Filter
end DocPipe
