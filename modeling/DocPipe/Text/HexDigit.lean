/-!
# Hexadecimal digits

Escapes in strings name characters by hexadecimal digits, in letters of either case.
-/

namespace DocPipe
namespace Text

/-- The value of a hexadecimal digit. -/
def hexValue? (c : Char) : Option Nat :=
  if '0' ≤ c ∧ c ≤ '9' then some (c.toNat - 48)
  else if 'a' ≤ c ∧ c ≤ 'f' then some (c.toNat - 87)
  else if 'A' ≤ c ∧ c ≤ 'F' then some (c.toNat - 55)
  else none

/-- The number that a row of digits in a base denotes, read from the left; some character that is no
digit, or too large a one, makes it none.  No digits denote zero. -/
def numberIn? (base : Nat) (cs : List Char) : Option Nat :=
  cs.foldlM (fun n c => (hexValue? c).bind fun d =>
    if d < base then some (base * n + d) else none) 0

@[simp] theorem numberIn?_nil (base : Nat) : numberIn? base [] = some 0 := rfl

end Text
end DocPipe
