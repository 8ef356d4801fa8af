import DocPipe.Number.Decimal
import DocPipe.Text.HexDigit
import DocPipe.Value.Basic
import DocPipe.Yaml.Error
import DocPipe.Yaml.Tag

/-!
# What scalars mean

A plain scalar may be null, a truth value or a number; every other scalar is a string.  A tag can
demand one of these types, and then the scalar has to be written accordingly, quoted or not.  Any
other tag makes a string of a scalar, except that a local one says nothing about a plain scalar.

## Numbers

Integers are decimal, or hexadecimal, octal or binary with a mark in front.  A decimal integer that
begins with a superfluous zero is a string, since people write such things for codes and not for
quantities.

An integer that fits no 64-bit word but still a 128-bit one is refused, because rounding it would
go unnoticed; larger ones are read like any other decimal number.  Fractional numbers are those that
`Binary64.ofText?` reads as finite, and those without a finite value are null.
-/

namespace DocPipe
namespace Yaml

-- Powers are those of the core library, whatever algebra is in scope; hence the typed exponents.
attribute [local instance (high)] instPowNat

/-- The types that a tag can demand of a scalar. -/
inductive ScalarType where
  | null
  | bool
  | integer
  | float
  deriving DecidableEq, Repr

/-- The type that a tag demands, if it is one of the four. -/
def ScalarType.ofTag? (tag : Tag) : Option ScalarType :=
  if tag = .common "null" then some .null
  else if tag = .common "bool" then some .bool
  else if tag = .common "int" then some .integer
  else if tag = .common "float" then some .float
  else none

/-- Whether a text spells null. -/
def isNullWord (text : String) : Bool := ["null", "Null", "NULL", "~"].contains text

/-- The truth value that a text spells. -/
def boolOfWord? (text : String) : Option Bool :=
  if ["true", "True", "TRUE"].contains text then some true
  else if ["false", "False", "FALSE"].contains text then some false
  else none

/-- Whether a row of digits is longer than it has to be. -/
def hasSpareZero : List Char → Bool
  | '0' :: _ :: _ => true
  | _ => false

/-- The number that a row of digits with an optional mark for its base denotes. -/
def natural? : List Char → Option Nat
  | [] => none
  | '0' :: 'x' :: c :: cs => Text.numberIn? 16 (c :: cs)
  | '0' :: 'o' :: c :: cs => Text.numberIn? 8 (c :: cs)
  | '0' :: 'b' :: c :: cs => Text.numberIn? 2 (c :: cs)
  | cs => if hasSpareZero cs then none else Text.numberIn? 10 cs

/-- The integer that a text denotes. -/
def integer? (cs : List Char) : Option Int :=
  match Numeral.splitSign cs with
  | (some '-', digits) => (natural? digits).map fun n => -(n : Int)
  | (_, digits) => (natural? digits).map fun n => (n : Int)

/-- The integers that fit a signed or an unsigned 128-bit word. -/
def fitsWideWord (n : Int) : Bool := -2 ^ (127 : Nat) ≤ n && n < 2 ^ (128 : Nat)

/-- The value of an integer; none if it is to be read as a fractional number. -/
def integerValue? (cs : List Char) : Option (Except Error Value) :=
  (integer? cs).bind fun n =>
    match Number.ofInt? n with
    | some number => some (.ok (.number number))
    | none => if fitsWideWord n then some (.error .integerOutOfRange) else none

/-- Whether a text is one of the names of infinity, or of what is no number. -/
def isFloatName (text : String) : Bool :=
  [".inf", ".Inf", ".INF", "+.inf", "+.Inf", "+.INF", "-.inf", "-.Inf", "-.INF",
    ".nan", ".NaN", ".NAN"].contains text

/-- The value of a text as a fractional number. -/
def floatValue? (text : String) : Option Value :=
  if isFloatName text then some .null
  else (Binary64.ofText? text.toList).bind fun x =>
    if x.isFinite then some (.number (.float x)) else none

/-- Whether a text is digits behind an optional sign, with a superfluous zero in front. -/
def isZeroPadded (cs : List Char) : Bool :=
  let digits := (Numeral.splitSign cs).2
  hasSpareZero digits && digits.all Char.isDigit

/-- The value of a plain scalar. -/
def plainValue (text : String) : Except Error Value :=
  if text.isEmpty || isNullWord text then .ok .null
  else match boolOfWord? text with
    | some b => .ok (.bool b)
    | none =>
      match integerValue? text.toList with
      | some result => result
      | none =>
        if isZeroPadded text.toList then .ok (.string text)
        else .ok ((floatValue? text).getD (.string text))

/-- The value of a scalar of which a tag demands a type. -/
def typedValue (type : ScalarType) (text : String) : Except Error Value :=
  match type with
  | .null => if isNullWord text then .ok .null else .error (.notA "null")
  | .bool => ((boolOfWord? text).map Value.bool).elim (.error (.notA "a boolean")) .ok
  | .integer => (integerValue? text.toList).getD (.error (.notA "an integer"))
  | .float => (floatValue? text).elim (.error (.notA "a float")) .ok

/-- The value of a scalar. -/
def scalarValue (tag : Option Tag) (text : String) (plain : Bool) : Except Error Value :=
  match tag with
  | none => if plain then plainValue text else .ok (.string text)
  | some tag =>
    match ScalarType.ofTag? tag with
    | some type => typedValue type text
    | none => if tag.isLocal && plain then plainValue text else .ok (.string text)

end Yaml
end DocPipe
