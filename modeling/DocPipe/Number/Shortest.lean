import DocPipe.Number.Decimal

/-!
# The shortest decimal that reads back

A number is shown by the fewest digits from which it can be read back.  The search is literal: for
one digit, two digits, and so on, look at the two neighbours of the value among the decimals with
that many digits, and ask of each whether it reads back as the value.  The first length at which one
does is the answer; if both do, the nearer one wins.

## Ties

Rarely, both neighbours read back and the value lies exactly between them.  Formats differ on what
they do then, so the choice is a parameter: `Tie.toEven` takes the neighbour with the even last
digit, `Tie.up` the larger one.

## Why the search always ends with an answer

Every binary64 number is a decimal itself, with some hundred digits at worst.  So `search` falls
back on the exact value, and its result reads back whatever the search did.  That the search never
needs more than seventeen digits is a fact about the format that nothing here depends on.
-/

namespace DocPipe

-- Powers are those of the core library, whatever algebra is in scope; hence the typed exponents.
attribute [local instance (high)] instPowNat

/-- What to do with a value exactly between two decimals that both read back. -/
inductive Tie where
  | toEven
  | up
  deriving DecidableEq, Repr

namespace Shortest

/-- How many decimal digits a whole number has. -/
def digitCount (n : Nat) : Nat := (Nat.toDigits 10 n).length

/-- The place of the leading digit of a value of `units` units: zero for a value from 1 to 10. -/
def leadingPlace (units : Nat) : Int :=
  digitCount (units * 10 ^ (400 : Nat) / 2 ^ (1074 : Nat)) - 401

/-- A value of `units` units divided by `10 ^ place`, as a fraction. -/
def scaled (units : Nat) (place : Int) : Nat × Nat :=
  if 0 ≤ place then (units, 2 ^ (1074 : Nat) * 10 ^ place.toNat)
  else (units * 10 ^ (-place).toNat, 2 ^ (1074 : Nat))

/-- Whether `digits * 10 ^ place` reads back as the number of the given rank. -/
def readsBack (rank digits : Nat) (place : Int) : Bool :=
  (Decimal.toBinary64 ⟨false, digits, place⟩).rank == rank

/-- Of the two neighbours `low` and `low + 1` of `n / d`, the nearer one. -/
def nearer (tie : Tie) (n d low : Nat) : Nat :=
  let twice := 2 * (n - low * d)
  if twice < d then low
  else if d < twice then low + 1
  else match tie with
    | .toEven => low + low % 2
    | .up => low + 1

/-- The decimal with its last digit at `place` that reads back as the number of the given rank, if
there is one; the nearest if there are two. -/
def atPlace (tie : Tie) (rank : Nat) (place : Int) : Option Nat :=
  let (n, d) := scaled (Binary64.units rank) place
  let low := n / d
  if readsBack rank low place then
    if readsBack rank (low + 1) place then some (nearer tie n d low) else some low
  else if readsBack rank (low + 1) place then some (low + 1)
  else none

/-- Moves the zeros at the end of the digits into the exponent. -/
def stripZeros (digits : Nat) (exponent : Int) : Nat × Int :=
  if h : digits ≠ 0 ∧ digits % 10 = 0 then stripZeros (digits / 10) (exponent + 1)
  else (digits, exponent)
termination_by digits
decreasing_by omega

/-- The decimal with the fewest digits, at most seventeen, that reads back as the number of the
given rank; the exact value if there is none. -/
def search (tie : Tie) (rank : Nat) : Nat × Int :=
  let units := Binary64.units rank
  let leading := leadingPlace units
  let found := (List.range 17).findSome? fun (i : Nat) =>
    (atPlace tie rank (leading - i)).map fun digits => (digits, leading - i)
  found.getD (units * 5 ^ (1074 : Nat), -1074)

/-- The digits and the exponent of the shortest decimal that reads back as the finite positive
number of the given rank. -/
def shortest (tie : Tie) (rank : Nat) : Nat × Int :=
  let found := search tie rank
  stripZeros found.1 found.2

end Shortest
end DocPipe
