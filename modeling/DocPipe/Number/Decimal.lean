import DocPipe.Number.Binary64

/-!
# Decimals and their numerals

A decimal is a sign, a whole number and a power of ten.  Numerals denote decimals, and three readers
in this library begin from the same numeral: the filter's number words, the plain scalars of a YAML
document, and the texts of numbers handed over as such.  They differ only in which parts a numeral
may leave out, so there is one scanner, `Numeral.scan?`, which splits a text into its parts, and the
readers then state what they want of the parts.

A decimal becomes a binary64 number by exact rounding.  Exponents are written by people and can be
absurdly large, so `toBinary64` settles those that certainly overflow or underflow before it raises
ten to their power.
-/

namespace DocPipe

-- Powers are those of the core library, whatever algebra is in scope.
attribute [local instance (high)] instPowNat

/-- The number `± digits * 10 ^ exponent`. -/
structure Decimal where
  negative : Bool
  digits : Nat
  exponent : Int
  deriving DecidableEq, Repr

namespace Decimal

/-- The binary64 number nearest to a decimal.  A decimal of at least 10⁴⁰¹ is infinite whatever its
digits are, and one whose exponent outweighs its digits by 400 places is zero. -/
def toBinary64 (d : Decimal) : Binary64 :=
  if d.digits = 0 then .zero d.negative
  else if 400 < d.exponent then .infinity d.negative
  else if 0 ≤ d.exponent then .ofRatio d.negative (d.digits * 10 ^ d.exponent.toNat) 1
  else if (d.digits.log2 : Int) + 400 < -d.exponent then .zero d.negative
  else .ofRatio d.negative d.digits (10 ^ (-d.exponent).toNat)

end Decimal

/-- The parts of a numeral, as written. -/
structure Numeral where
  /-- The sign in front, `+` or `-`. -/
  sign : Option Char
  /-- The digits in front of the point. -/
  whole : List Char
  /-- The digits behind the point, when there is a point. -/
  fraction : Option (List Char)
  /-- The sign and the digits behind the `e`, when there is one. -/
  exponent : Option (Option Char × List Char)
  deriving DecidableEq, Repr

namespace Numeral

/-- A leading sign, and what follows it. -/
def splitSign : List Char → Option Char × List Char
  | '+' :: cs => (some '+', cs)
  | '-' :: cs => (some '-', cs)
  | cs => (none, cs)

/-- The part behind the point, when the text starts with one, and what follows it. -/
def splitFraction : List Char → Option (List Char) × List Char
  | '.' :: cs => (some (cs.takeWhile Char.isDigit), cs.dropWhile Char.isDigit)
  | cs => (none, cs)

/-- The exponent that makes up the whole text: `some none` when the text is empty, and nothing when
the text is no exponent. -/
def exponentPart : List Char → Option (Option (Option Char × List Char))
  | [] => some none
  | c :: cs =>
    if c = 'e' ∨ c = 'E' then
      let (sign, digits) := splitSign cs
      if digits ≠ [] ∧ digits.all Char.isDigit then some (some (sign, digits)) else none
    else none

/-- Splits a text into the parts of a numeral; every part may be missing. -/
def scan? (cs : List Char) : Option Numeral :=
  let (sign, unsigned) := splitSign cs
  let (fraction, rest) := splitFraction (unsigned.dropWhile Char.isDigit)
  (exponentPart rest).map fun exponent =>
    { sign, whole := unsigned.takeWhile Char.isDigit, fraction, exponent }

/-- Whether some digit stands in front of or behind the point. -/
def hasDigits (n : Numeral) : Bool := n.whole ≠ [] || n.fraction.getD [] ≠ []

/-- The whole number that a row of digits denotes. -/
def ofDigits (cs : List Char) : Nat := Nat.ofDigitChars 10 cs 0

/-- The exponent as a whole number; without one it is zero. -/
def exponentValue (n : Numeral) : Int :=
  match n.exponent with
  | none => 0
  | some (some '-', digits) => -(ofDigits digits : Int)
  | some (_, digits) => ofDigits digits

/-- The decimal that a numeral denotes: the point moves the digits behind it into the exponent. -/
def toDecimal (n : Numeral) : Decimal :=
  let fraction := n.fraction.getD []
  { negative := n.sign = some '-'
    digits := ofDigits (n.whole ++ fraction)
    exponent := n.exponentValue - fraction.length }

end Numeral

namespace Binary64

/-- The names of the values that have no digits, in small letters. -/
def named? (negative : Bool) (name : String) : Option Binary64 :=
  if name = "inf" ∨ name = "infinity" then some (infinity negative)
  else if name = "nan" then some (nan negative)
  else none

/-- The number that a text denotes: a numeral with at least one digit around its point, or one of
the names of infinity and of what is no number, in any case and with or without a sign. -/
def ofText? (cs : List Char) : Option Binary64 :=
  let (sign, unsigned) := Numeral.splitSign cs
  match named? (sign = some '-') (String.ofList (unsigned.map Char.toLower)) with
  | some x => some x
  | none => (Numeral.scan? cs).bind fun n =>
    if n.hasDigits then some n.toDecimal.toBinary64 else none

end Binary64
end DocPipe
