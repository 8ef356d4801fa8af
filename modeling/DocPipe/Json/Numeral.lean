import DocPipe.Json.Fault
import DocPipe.Number.Basic

/-!
# Numbers in a JSON text

An integer that fits a word is read exactly.  Every other number is read into a word and a power of
ten: the digits are collected as long as the word has room, further digits only move the power, and
the word is then multiplied or divided by the power in binary64 arithmetic.  Each step rounds, so
the result may differ in its last place from the binary64 number nearest to what was written.

Minus zero is a fractional number, since no integer has that sign.  A number too large for binary64
is refused, and one too small is zero.
-/

namespace DocPipe
namespace Json

-- Powers are those of the core library, whatever algebra is in scope; hence the typed exponents.
attribute [local instance (high)] instPowNat

/-- A step of reading: what was read and what is left, or a refusal. -/
abbrev Step (α : Type) := Except Fault (α × List Char)

/-- Refuses at the text that is left, `past` bytes into it. -/
def refuse {α : Type} (cause : Cause) (rest : List Char) (past : Nat) : Except Fault α :=
  .error ⟨cause, rest, past⟩

/-- The largest significand that is collected. -/
def largestWord : Nat := 2 ^ (64 : Nat) - 1

/-- The largest exponent that is read; a longer one overflows or underflows whatever it is. -/
def largestExponent : Nat := 2 ^ (31 : Nat) - 1

/-- The digit that a character stands for. -/
def digitValue (c : Char) : Nat := c.toNat - '0'.toNat

/-- Collects digits while the number they form does not exceed `bound`.  Returns that number and the
rest, which starts with a digit exactly if the bound was in the way. -/
def collect (bound : Nat) (acc : Nat) : List Char → Nat × List Char
  | [] => (acc, [])
  | c :: cs =>
    if c.isDigit ∧ 10 * acc + digitValue c ≤ bound then
      collect bound (10 * acc + digitValue c) cs
    else (acc, c :: cs)

/-- Whether a text starts with a digit. -/
def startsWithDigit : List Char → Bool
  | [] => false
  | c :: _ => c.isDigit

/-- Multiplies a finite number by `10 ^ exponent`, one factor of at most 10³⁰⁸ at a time; nothing
when the product is infinite. -/
def scaleByTen (x : Binary64) (exponent : Int) : Option Binary64 :=
  if h : exponent < -308 then
    if x.rank = 0 then some x
    else scaleByTen (x.div (.ofInt (10 ^ (308 : Nat)))) (exponent + 308)
  else if exponent < 0 then some (x.div (.ofInt (10 ^ (-exponent).toNat)))
  else if exponent ≤ 308 then
    let product := x.mul (.ofInt (10 ^ exponent.toNat))
    if product.isFinite then some product else none
  else if x.rank = 0 then some x
  else none
termination_by exponent.natAbs
decreasing_by omega

/-- The fractional number `significand * 10 ^ exponent` with a sign. -/
def fractional (positive : Bool) (significand : Nat) (exponent : Int) (rest : List Char) :
    Step Number :=
  match scaleByTen (.ofInt significand) exponent with
  | some x => .ok (.float (if positive then x else x.neg), rest)
  | none => refuse .numberTooLarge rest 0

/-- Reads what follows the `e` of a number. -/
def readExponent (positive : Bool) (significand : Nat) (shift : Int) (cs : List Char) :
    Step Number :=
  let (negativePower, cs) := match cs with
    | '+' :: cs => (false, cs)
    | '-' :: cs => (true, cs)
    | cs => (false, cs)
  match cs with
  | [] => refuse .endInValue [] 0
  | c :: _ =>
    if c.isDigit then
      let (power, rest) := collect largestExponent 0 cs
      if startsWithDigit rest then
        if significand ≠ 0 ∧ !negativePower then refuse .numberTooLarge rest 1
        else .ok (.float (.zero !positive), rest.dropWhile Char.isDigit)
      else
        fractional positive significand
          (if negativePower then shift - power else shift + power) rest
    else refuse .badNumber cs 1

/-- Reads what follows a number without an exponent: an exponent, or nothing. -/
def readTail (positive : Bool) (significand : Nat) (shift : Int) (cs : List Char) : Step Number :=
  match cs with
  | 'e' :: rest | 'E' :: rest => readExponent positive significand shift rest
  | _ => fractional positive significand shift cs

/-- Reads what follows the point of a number.  There has to be a digit. -/
def readFraction (positive : Bool) (significand : Nat) (shift : Int) (cs : List Char) :
    Step Number :=
  if startsWithDigit cs then
    let (significand', rest) := collect largestWord significand cs
    readTail positive significand' (shift - (cs.length - rest.length : Nat))
      (rest.dropWhile Char.isDigit)
  else match cs with
    | [] => refuse .endInValue [] 0
    | _ => refuse .badNumber cs 1

/-- Reads what follows the whole part of a number whose word is full: further digits move the
power. -/
def readLong (positive : Bool) (significand : Nat) (cs : List Char) : Step Number :=
  let rest := cs.dropWhile Char.isDigit
  let shift : Int := (cs.length - rest.length : Nat)
  match rest with
  | '.' :: rest => readFraction positive significand shift rest
  | _ => readTail positive significand shift rest

/-- A number without point or exponent. -/
def whole (positive : Bool) (n : Nat) : Number :=
  if positive then (Number.ofInt? n).getD (.float (.ofInt n))
  else if n = 0 then .float (.zero true)
  else (Number.ofInt? (-n)).getD (.float (Binary64.ofInt n).neg)

/-- Reads what follows the whole part of a number. -/
def readAfterWhole (positive : Bool) (n : Nat) (cs : List Char) : Step Number :=
  match cs with
  | '.' :: rest => readFraction positive n 0 rest
  | 'e' :: rest | 'E' :: rest => readExponent positive n 0 rest
  | _ => .ok (whole positive n, cs)

/-- Reads a number behind its sign.  A leading zero has to be the whole of the whole part. -/
def readNumber (positive : Bool) (cs : List Char) : Step Number :=
  match cs with
  | [] => refuse .endInValue [] 0
  | '0' :: rest =>
    if startsWithDigit rest then refuse .badNumber rest 1 else readAfterWhole positive 0 rest
  | c :: _ =>
    if c.isDigit then
      let (n, rest) := collect largestWord 0 cs
      if startsWithDigit rest then readLong positive n rest else readAfterWhole positive n rest
    else refuse .badNumber cs 1

end Json
end DocPipe
