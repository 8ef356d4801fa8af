/-!
# The operators of a filter

Six operators are written with symbols and three with words.  The distinction matters to the lexer,
which reads the symbols wherever they stand but the words only as words, so the symbols are a type
of their own.
-/

namespace DocPipe
namespace Filter

/-- The operators that are written with symbols. -/
inductive Symbol where
  | equal
  | notEqual
  | greater
  | less
  | greaterEqual
  | lessEqual
  deriving DecidableEq, Repr

/-- The operators of a comparison. -/
inductive Operator where
  | symbol (s : Symbol)
  | contains
  | startsWith
  | endsWith
  deriving DecidableEq, Repr

/-- How a symbol is written. -/
def Symbol.spelling : Symbol → String
  | .equal => "=="
  | .notEqual => "!="
  | .greater => ">"
  | .less => "<"
  | .greaterEqual => ">="
  | .lessEqual => "<="

/-- How an operator is written. -/
def Operator.spelling : Operator → String
  | .symbol s => s.spelling
  | .contains => "contains"
  | .startsWith => "startsWith"
  | .endsWith => "endsWith"

/-- The operator with a given spelling. -/
def Operator.ofSpelling? (text : String) : Option Operator :=
  if text = "==" then some (.symbol .equal)
  else if text = "!=" then some (.symbol .notEqual)
  else if text = ">" then some (.symbol .greater)
  else if text = "<" then some (.symbol .less)
  else if text = ">=" then some (.symbol .greaterEqual)
  else if text = "<=" then some (.symbol .lessEqual)
  else if text = "contains" then some .contains
  else if text = "startsWith" then some .startsWith
  else if text = "endsWith" then some .endsWith
  else none

/-- Every operator is read back from its spelling. -/
@[simp] theorem ofSpelling?_spelling (op : Operator) :
    Operator.ofSpelling? op.spelling = some op := by
  cases op with
  | symbol s => cases s <;> rfl
  | contains => rfl
  | startsWith => rfl
  | endsWith => rfl

end Filter
end DocPipe
