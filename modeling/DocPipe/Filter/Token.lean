import DocPipe.Filter.Operator
import DocPipe.Path.Basic
import DocPipe.Text.Blank

/-!
# The tokens of a filter

A filter is a row of words, quoted strings, symbols and parentheses.  Blanks separate tokens and are
otherwise free.  A word is a longest run of characters that are neither blank nor begin another
token, so `a==1` needs no blanks.

A string stands between single or double quotes.  Inside, a backslash takes the enclosing quote or
another backslash literally; before anything else it is an ordinary character.
-/

namespace DocPipe
namespace Filter

/-- A token of a filter. -/
inductive Token where
  | word (w : String)
  | string (s : String)
  | symbol (s : Symbol)
  | opening
  | closing
  deriving DecidableEq, Repr

/-- The token as a message cites it. -/
def Token.cited : Token → String
  | .word w => "'" ++ w ++ "'"
  | .string s => "string " ++ Text.quoted s
  | .symbol s => "'" ++ s.spelling ++ "'"
  | .opening => "'('"
  | .closing => "')'"

/-- What a filter could have gone on with. -/
inductive Expected where
  | field
  | operator
  | literal
  | connective
  | closing
  deriving DecidableEq, Repr

/-- The expectation in words. -/
def Expected.message : Expected → String
  | .field => "field"
  | .operator => "operator"
  | .literal => "literal"
  | .connective => "'and' or 'or'"
  | .closing => "')'"

/-- How many parentheses and `not`s may be open inside one another. -/
def maxNesting : Nat := 128

/-- How many `and`s and `or`s one filter may have. -/
def maxConnectives : Nat := 1024

/-- Why a text is not a filter. -/
inductive FilterError where
  | unterminatedString
  | unexpectedToken (expected : Expected) (found : Token)
  | unexpectedEnd (expected : Expected)
  | unknownOperator (text : String)
  | unbalancedParen
  | tooDeep
  | tooLong
  | invalidPath (cause : PathError)
  deriving DecidableEq, Repr

/-- The refusal in words. -/
def FilterError.message : FilterError → String
  | .unterminatedString => "unterminated string literal"
  | .unexpectedToken expected found =>
    "expected " ++ expected.message ++ ", found " ++ found.cited
  | .unexpectedEnd expected => "expected " ++ expected.message ++ ", found end of filter"
  | .unknownOperator text => "unknown operator: " ++ text
  | .unbalancedParen => "unbalanced parentheses"
  | .tooDeep =>
    "filter nests '(' or 'not' deeper than " ++ toString maxNesting ++ " levels"
  | .tooLong =>
    "filter has more than " ++ toString maxConnectives ++ " 'and'/'or' operators"
  | .invalidPath cause => "invalid field path: " ++ cause.message

namespace Token

/-- The characters of a word. -/
def isWordChar (c : Char) : Bool :=
  !(Text.isBlank c || c == '\'' || c == '"' || c == '(' || c == ')' || c == '=' || c == '!'
    || c == '<' || c == '>')

/-- Whether a character begins a symbol. -/
def isSymbolChar (c : Char) : Bool := c == '=' || c == '!' || c == '<' || c == '>'

/-- Whether the text starts with a character that a backslash in front of it takes literally. -/
def startsEscaped (quote : Char) : List Char → Bool
  | [] => false
  | c :: _ => c == quote || c == '\\'

/-- The rest of a string behind its opening quote: its text, and what follows the closing quote. -/
def readString (quote : Char) : List Char → Option (List Char × List Char)
  | [] => none
  | c :: rest =>
    if c = quote then some ([], rest)
    else if c = '\\' ∧ startsEscaped quote rest then
      match rest with
      | [] => none
      | d :: rest => (readString quote rest).map fun p => (d :: p.1, p.2)
    else (readString quote rest).map fun p => (c :: p.1, p.2)

/-- The symbol that a character begins, given whether an equals sign follows. -/
def symbolOf? (c : Char) (beforeEqual : Bool) : Option Symbol :=
  if c = '=' ∧ beforeEqual then some .equal
  else if c = '!' ∧ beforeEqual then some .notEqual
  else if c = '<' then some (if beforeEqual then .lessEqual else .less)
  else if c = '>' then some (if beforeEqual then .greaterEqual else .greater)
  else none

/-- What a string leaves is shorter than the text behind its opening quote. -/
theorem length_lt_of_readString {quote : Char} {cs text rest : List Char}
    (h : readString quote cs = some (text, rest)) : rest.length < cs.length := by
  fun_induction readString quote cs generalizing text rest with
  | case1 => simp at h
  | case2 => simp at h; simp [← h.2]
  | case3 => simp at h
  | case4 _ _ _ _ _ ih =>
    simp only [Option.map_eq_some_iff, Prod.exists, Prod.mk.injEq] at h
    obtain ⟨a, b, hab, -, rfl⟩ := h
    have := ih hab
    simp only [List.length_cons]; omega
  | case5 _ _ _ _ ih =>
    simp only [Option.map_eq_some_iff, Prod.exists, Prod.mk.injEq] at h
    obtain ⟨a, b, hab, -, rfl⟩ := h
    have := ih hab
    simp only [List.length_cons]; omega

/-- Whether an equals sign comes next. -/
def startsEqual : List Char → Bool
  | [] => false
  | c :: _ => c == '='

/-- The text behind the equals sign, if one comes next. -/
def dropEqual (cs : List Char) : List Char := if startsEqual cs then cs.drop 1 else cs

/-- Skipping an equals sign makes no text longer. -/
theorem length_dropEqual_le (cs : List Char) : (dropEqual cs).length ≤ cs.length := by
  unfold dropEqual
  split <;> simp

/-- The tokens of a text. -/
def scan (cs : List Char) : Except FilterError (List Token) :=
  match cs with
  | [] => .ok []
  | c :: rest =>
    if Text.isBlank c then scan rest
    else if c = '(' then (scan rest).map (.opening :: ·)
    else if c = ')' then (scan rest).map (.closing :: ·)
    else if c = '\'' ∨ c = '"' then
      match _h : readString c rest with
      | none => .error .unterminatedString
      | some (text, after) => (scan after).map (.string (String.ofList text) :: ·)
    else if isSymbolChar c then
      match symbolOf? c (startsEqual rest) with
      | none => .error (.unknownOperator (String.singleton c))
      | some s => (scan (dropEqual rest)).map (.symbol s :: ·)
    else
      (scan (rest.dropWhile isWordChar)).map
        (.word (String.ofList (c :: rest.takeWhile isWordChar)) :: ·)
termination_by cs.length
decreasing_by
  all_goals simp only [List.length_cons]
  · omega
  · omega
  · omega
  · have := length_lt_of_readString _h; omega
  · have := length_dropEqual_le rest; omega
  · have := (List.dropWhile_sublist (l := rest) isWordChar).length_le; omega

end Token
end Filter
end DocPipe
