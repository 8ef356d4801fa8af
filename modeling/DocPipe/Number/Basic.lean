import DocPipe.Number.Notation

/-!
# The numbers of a document

A document holds its integers exactly as long as they fit a machine word, signed or unsigned, and
everything else as a binary64 number.  The two are not unified: an integer prints as one, and a
fractional number keeps its point even when its value is whole.  Comparing goes through the nearest
binary64 number on both sides.
-/

namespace DocPipe

-- Powers are those of the core library, whatever algebra is in scope; hence the typed exponents.
attribute [local instance (high)] instPowNat

/-- The integers that fit a signed or an unsigned 64-bit word. -/
abbrev FitsWord (n : Int) : Prop := -2 ^ (63 : Nat) ≤ n ∧ n < 2 ^ (64 : Nat)

/-- A number of a document. -/
inductive Number where
  | integer (n : Int) (fits : FitsWord n)
  | float (x : Binary64)
  deriving DecidableEq, Repr

namespace Number

/-- The integer `n`, if it fits a word. -/
def ofInt? (n : Int) : Option Number := if h : FitsWord n then some (.integer n h) else none

/-- The nearest binary64 number. -/
def toBinary64 : Number → Binary64
  | .integer n _ => .ofInt n
  | .float x => x

/-- The number as plain text. -/
def plainText : Number → List Char
  | .integer n _ => intText n
  | .float x => x.plainText

/-- The number as JSON text. -/
def jsonText : Number → List Char
  | .integer n _ => intText n
  | .float x => x.jsonText

@[simp] theorem toBinary64_integer (n : Int) (h : FitsWord n) :
    (Number.integer n h).toBinary64 = .ofInt n := rfl

@[simp] theorem toBinary64_float (x : Binary64) : (Number.float x).toBinary64 = x := rfl

end Number
end DocPipe
