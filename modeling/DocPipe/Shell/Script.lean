/-!
# Lines of shell script

A line consists of commands with connectives between them, and a command of words.  Words end at
blanks and operators; quotes and backslashes take characters literally.  A dollar sign begins a
parameter, of which the process number and the last exit status have values and all others are
empty.

The grammar covers what one writes on a line by hand: lists, conditional lists, comments and sending
output to the other stream.
-/

namespace DocPipe
namespace Shell

/-- A part of a word. -/
inductive Part where
  | text (cs : List Char)
  /-- The number of the process. -/
  | process
  /-- The exit status of the last command. -/
  | status
  deriving DecidableEq, Repr

/-- The parts of a word, in order. -/
abbrev Word := List Part

/-- What stands between two commands. -/
inductive Connective where
  | always
  | ifSucceeded
  | ifFailed
  deriving DecidableEq, Repr

/-- A token of a line. -/
inductive Token where
  | word (w : Word)
  | connective (c : Connective) (spelling : String)
  /-- From here on the output of the command goes where its errors go. -/
  | toErrors
  | bracket (c : Char)
  deriving DecidableEq, Repr

/-- A command, whether it is run, and where its output goes. -/
structure Command where
  connective : Connective := .always
  words : List Word := []
  toErrors : Bool := false
  deriving Repr

/-- Why a line is no script. -/
inductive Fault where
  | unterminatedQuote
  | unexpected (spelling : String)
  | unexpectedEnd
  deriving DecidableEq, Repr

/-- The refusal in words. -/
def Fault.message : Fault → String
  | .unterminatedQuote => "Syntax error: Unterminated quoted string"
  | .unexpected spelling => "Syntax error: \"" ++ spelling ++ "\" unexpected"
  | .unexpectedEnd => "Syntax error: end of file unexpected"

/-! ## Words -/

/-- The characters of the names of parameters. -/
def isNameChar (c : Char) : Bool := c.isAlphanum || c == '_'

/-- The parameter behind a dollar sign, and what follows it. -/
def parameter (cs : List Char) : Word × List Char :=
  match cs with
  | '$' :: rest => ([.process], rest)
  | '?' :: rest => ([.status], rest)
  | c :: _ =>
    if isNameChar c then ([], cs.dropWhile isNameChar) else ([.text ['$']], cs)
  | [] => ([.text ['$']], [])

/-- A parameter uses up no more than there is. -/
theorem length_parameter_le (cs : List Char) : (parameter cs).2.length ≤ cs.length := by
  unfold parameter
  split
  · simp
  · simp
  · split
    · exact (List.dropWhile_sublist isNameChar).length_le
    · simp
  · simp

/-- The characters that a backslash takes literally between double quotes. -/
def isEscapable (c : Char) : Bool := c == '"' || c == '\\' || c == '$' || c == '\x60'

/-- The rest of a text in double quotes, and what follows it. -/
def doubleQuoted (w : Word) (cs : List Char) : Except Fault (Word × List Char) :=
  match cs with
  | [] => .error .unterminatedQuote
  | '"' :: rest => .ok (w, rest)
  | '$' :: rest => doubleQuoted (w ++ (parameter rest).1) (parameter rest).2
  | '\\' :: c :: rest => doubleQuoted (w ++ [.text (if isEscapable c then [c] else ['\\', c])]) rest
  | c :: rest => doubleQuoted (w ++ [.text [c]]) rest
termination_by cs.length
decreasing_by
  · have := length_parameter_le rest
    simp only [List.length_cons]
    omega
  · simp only [List.length_cons]; omega
  · simp only [List.length_cons]; omega

/-- Whether a character ends a word. -/
def endsWord (c : Char) : Bool := " \t\n;&|()<>".toList.contains c

/-! ## Tokens -/

/-- The token of an operator at the start of a text, and its length. -/
def operator? : List Char → Option (Token × Nat)
  | '&' :: '&' :: _ => some (.connective .ifSucceeded "&&", 2)
  | '|' :: '|' :: _ => some (.connective .ifFailed "||", 2)
  | '>' :: '&' :: '2' :: _ => some (.toErrors, 3)
  | '1' :: '>' :: '&' :: '2' :: _ => some (.toErrors, 4)
  | ';' :: _ => some (.connective .always ";", 1)
  | '&' :: _ => some (.connective .always "&", 1)
  | '\n' :: _ => some (.connective .always "newline", 1)
  | '|' :: _ => some (.bracket '|', 1)
  | '(' :: _ => some (.bracket '(', 1)
  | ')' :: _ => some (.bracket ')', 1)
  | '<' :: _ => some (.bracket '<', 1)
  | '>' :: _ => some (.bracket '>', 1)
  | _ => none

/-- The tokens read so far, in reverse, and the word that is being read, if one is. -/
structure Scan where
  tokens : List Token := []
  word : Option Word := none

/-- Ends the word that is being read. -/
def Scan.endWord (s : Scan) : Scan :=
  match s.word with
  | none => s
  | some w => { tokens := .word w :: s.tokens }

/-- Adds parts to the word that is being read, or begins one. -/
def Scan.extend (s : Scan) (parts : Word) : Scan :=
  { s with word := some (s.word.getD [] ++ parts) }

/-- Reads up to `fuel` pieces of a text. -/
def scan : Nat → Scan → List Char → Except Fault (List Token)
  | 0, s, _ => .ok s.endWord.tokens.reverse
  | fuel + 1, s, cs =>
    match cs with
    | [] => .ok s.endWord.tokens.reverse
    | '\\' :: '\n' :: rest => scan fuel s rest
    | '\\' :: c :: rest => scan fuel (s.extend [.text [c]]) rest
    | '\'' :: rest =>
      if rest.contains '\'' then
        scan fuel (s.extend [.text (rest.takeWhile (· != '\''))])
          ((rest.dropWhile (· != '\'')).drop 1)
      else .error .unterminatedQuote
    | '"' :: rest =>
      match doubleQuoted [] rest with
      | .error e => .error e
      | .ok (parts, rest) => scan fuel (s.extend parts) rest
    | '$' :: rest =>
      let (parts, rest) := parameter rest
      scan fuel (if parts.isEmpty then s else s.extend parts) rest
    | c :: rest =>
      if c == '#' && s.word.isNone then scan fuel s (rest.dropWhile (· != '\n'))
      else
        match if c == '1' && s.word.isSome then none else operator? cs with
        | some (token, n) =>
          let s := s.endWord
          scan fuel { s with tokens := token :: s.tokens } (cs.drop n)
        | none =>
          if endsWord c then scan fuel s.endWord rest else scan fuel (s.extend [.text [c]]) rest

/-! ## Commands -/

/-- Groups tokens into commands.  Commands read so far come in reverse, and then the one that is
being read. -/
def group (done : List Command) (current : Command) : List Token → Except Fault (List Command)
  | [] =>
    if current.words.isEmpty && current.connective != .always then .error .unexpectedEnd
    else .ok ((if current.words.isEmpty then done else current :: done).reverse)
  | .word w :: rest => group done { current with words := current.words ++ [w] } rest
  | .toErrors :: rest => group done { current with toErrors := true } rest
  | .bracket c :: _ => .error (.unexpected (String.singleton c))
  | .connective c spelling :: rest =>
    if !current.words.isEmpty then group (current :: done) { connective := c } rest
    else if spelling = "newline" then group done current rest
    else .error (.unexpected spelling)

/-- The commands of a line. -/
def parse (line : String) : Except Fault (List Command) :=
  (scan (line.length + 1) {} line.toList).bind (group [] {})

end Shell
end DocPipe
