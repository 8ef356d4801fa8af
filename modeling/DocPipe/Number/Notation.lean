import DocPipe.Number.Shortest

/-!
# Writing numbers down

Two notations are in use.  Plain text, which is what templates and filters see, writes every number
positionally, however long that gets, and leaves out a fraction of zero.  JSON keeps a fractional
number recognisable as one: it always has a point or an exponent, and very large and very small
numbers get an exponent.
-/

namespace DocPipe

-- Powers are those of the core library, whatever algebra is in scope; hence the typed exponents.
attribute [local instance (high)] instPowNat

/-- The decimal digits of a whole number. -/
def natText (n : Nat) : List Char := Nat.toDigits 10 n

/-- A whole number with a minus sign when it is negative. -/
def intText (n : Int) : List Char := if n < 0 then '-' :: natText n.natAbs else natText n.natAbs

namespace Binary64

/-- The sign in front of a number. -/
def signText (negative : Bool) : List Char := if negative then ['-'] else []

/-- The digits of `digits * 10 ^ exponent` in positional notation, without a fraction of zero. -/
def positional (digits : List Char) (exponent : Int) : List Char :=
  if 0 ≤ exponent then digits ++ List.replicate exponent.toNat '0'
  else
    let places := (-exponent).toNat
    if places < digits.length then
      digits.take (digits.length - places) ++ '.' :: digits.drop (digits.length - places)
    else '0' :: '.' :: (List.replicate (places - digits.length) '0' ++ digits)

/-- The digits of `digits * 10 ^ exponent` with one digit in front of the point and a signed
exponent. -/
def scientific (digits : List Char) (exponent : Int) : List Char :=
  let power := exponent + digits.length - 1
  let fraction := if digits.length ≤ 1 then [] else '.' :: digits.drop 1
  digits.take 1 ++ fraction ++
    'e' :: (if power < 0 then '-' else '+') :: natText power.natAbs

/-- The plain text of a number: positional, with names for the values that have no digits.  Whole
numbers below 10¹⁵ lose the sign of a zero. -/
def plainText (x : Binary64) : List Char :=
  if x.isNaN then ['N', 'a', 'N']
  else if !x.isFinite then signText x.negative ++ ['i', 'n', 'f']
  else if x.isWhole && x.wholePart < 10 ^ (15 : Nat) then
    intText (if x.negative then -x.wholePart else x.wholePart)
  else
    let (digits, exponent) := Shortest.shortest .up x.rank
    signText x.negative ++ positional (natText digits) exponent

/-- The JSON text of a finite number.  Positional with a point from 10⁻⁵ to below 10¹⁶, and
scientific outside that range. -/
def jsonText (x : Binary64) : List Char :=
  if x.rank = 0 then signText x.negative ++ ['0', '.', '0']
  else
    let (digits, exponent) := Shortest.shortest .toEven x.rank
    let ds := natText digits
    let power := exponent + ds.length - 1
    signText x.negative ++
      (if -5 ≤ power ∧ power < 16 then
        positional ds exponent ++ (if 0 ≤ exponent then ['.', '0'] else [])
      else scientific ds exponent)

end Binary64
end DocPipe
