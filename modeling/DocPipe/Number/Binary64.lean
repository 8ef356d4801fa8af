/-!
# Binary64 numbers as ranks

A document's fractional numbers, and every number in a filter, are binary64 numbers.  The only
things done with them here are to round a quotient to the nearest one, to compare two, and to write
one down.  For these it pays not to see a float as three bit fields but to count: the non-negative
numbers of the format, in increasing order, are numbered 0, 1, 2, ... and that *rank* is at the same
time the bit pattern without its sign.

## What the rank buys

* Comparing is comparing ranks, with the sign put back: `toInt`.
* All finite numbers are whole multiples of the smallest positive one, 2⁻¹⁰⁷⁴, and `units` says how
  many it takes.  So exact arithmetic is arithmetic on natural numbers.
* Rounding has one formula for subnormal and normal numbers.  If a value lies in the binade whose
  spacing is `2 ^ e` units, and `m` is the value in that spacing rounded to a whole number, then its
  rank is `e * 2 ^ 52 + m`.  A value that rounds up out of its binade needs no special case: `m` is
  then `2 ^ 53`, and the sum is the rank of the first number of the next binade.
-/

namespace DocPipe

-- Powers are those of the core library, whatever algebra is in scope; hence the typed exponents.
attribute [local instance (high)] instPowNat

/-- A binary64 number: its sign, and how many non-negative numbers of the format are smaller than
its absolute value.  Ranks above `infinityRank` are not numbers. -/
structure Binary64 where
  negative : Bool
  rank : Nat
  deriving DecidableEq, Repr

namespace Binary64

/-- The rank of infinity: 2047 binades of `2 ^ 52` numbers lie below it. -/
def infinityRank : Nat := 2047 * 2 ^ (52 : Nat)

/-- Zero, with a sign. -/
def zero (negative : Bool) : Binary64 := ⟨negative, 0⟩

/-- Infinity, with a sign. -/
def infinity (negative : Bool) : Binary64 := ⟨negative, infinityRank⟩

/-- The value that is no number, with a sign that never shows. -/
def nan (negative : Bool) : Binary64 := ⟨negative, infinityRank + 2 ^ (51 : Nat)⟩

instance : Inhabited Binary64 := ⟨zero false⟩

/-- Whether `x` is no number. -/
def isNaN (x : Binary64) : Bool := infinityRank < x.rank

/-- Whether `x` is neither infinite nor no number. -/
def isFinite (x : Binary64) : Bool := x.rank < infinityRank

/-- The number with the opposite sign. -/
def neg (x : Binary64) : Binary64 := ⟨!x.negative, x.rank⟩

/-- The absolute value of the finite number of the given rank, in units of 2⁻¹⁰⁷⁴. -/
def units (rank : Nat) : Nat :=
  if rank < 2 ^ (52 : Nat) then rank
  else (2 ^ (52 : Nat) + rank % 2 ^ (52 : Nat)) * 2 ^ (rank / 2 ^ (52 : Nat) - 1)

/-- `n / d` rounded to the nearest whole number; a half goes to the even neighbour. -/
def divRoundEven (n d : Nat) : Nat :=
  if 2 * (n % d) < d then n / d
  else if d < 2 * (n % d) then n / d + 1
  else n / d + n / d % 2

/-- The binary logarithm of the spacing around a value of `n / d` units: zero for the first two
binades, then one more for each. -/
def spacingLog (n d : Nat) : Nat := Nat.log2 (n / d) - 52

/-- The rank of the number nearest to a value of `n / d` units, infinity taken as the number after
the largest finite one. -/
def nearestRank (n d : Nat) : Nat :=
  let e := spacingLog n d
  min (e * 2 ^ (52 : Nat) + divRoundEven n (d * 2 ^ e)) infinityRank

/-- The number nearest to the quotient `n / d`, with a sign. -/
def ofRatio (negative : Bool) (n d : Nat) : Binary64 :=
  ⟨negative, nearestRank (n * 2 ^ (1074 : Nat)) d⟩

/-- The number nearest to a whole number. -/
def ofInt (n : Int) : Binary64 := ofRatio (n < 0) n.natAbs 1

/-- The product of two finite numbers, rounded to the nearest number. -/
def mul (x y : Binary64) : Binary64 :=
  ⟨x.negative != y.negative, nearestRank (units x.rank * units y.rank) (2 ^ (1074 : Nat))⟩

/-- The quotient of a finite number and a finite number other than zero, rounded to the nearest
number. -/
def div (x y : Binary64) : Binary64 :=
  ⟨x.negative != y.negative, nearestRank (units x.rank * 2 ^ (1074 : Nat)) (units y.rank)⟩

/-- The rank with the sign put back.  Both zeros give 0. -/
def toInt (x : Binary64) : Int := if x.negative then -x.rank else x.rank

/-- The order of two numbers; nothing when one of them is no number. -/
def compare? (x y : Binary64) : Option Ordering :=
  if x.isNaN || y.isNaN then none else some (compare x.toInt y.toInt)

/-- Numerical equality.  The two zeros are equal, and what is no number equals nothing. -/
def numEq (x y : Binary64) : Bool := x.compare? y == some .eq

/-- Whether `x` is a whole number. -/
def isWhole (x : Binary64) : Bool := x.isFinite && units x.rank % 2 ^ (1074 : Nat) == 0

/-- The whole part of the absolute value of a finite number. -/
def wholePart (x : Binary64) : Nat := units x.rank / 2 ^ (1074 : Nat)

@[simp] theorem toInt_zero (negative : Bool) : (zero negative).toInt = 0 := by
  cases negative <;> rfl

@[simp] theorem rank_neg (x : Binary64) : x.neg.rank = x.rank := rfl

/-- Changing the sign twice changes nothing. -/
@[simp] theorem neg_neg (x : Binary64) : x.neg.neg = x := by
  cases x; simp [neg]

/-- A rank in the first binade counts units directly. -/
theorem units_of_lt {rank : Nat} (h : rank < 2 ^ (52 : Nat)) : units rank = rank :=
  if_pos h

end Binary64
end DocPipe
