/-!
# Character classes given by ranges

A property of characters is published as a list of ranges of code points.  The modules beside this
one hold such lists; this one says what it means to be in one of them.
-/

namespace DocPipe
namespace Text

/-- Whether the code point of `c` lies in one of the ranges, both ends included. -/
def inRanges (ranges : Array (Nat × Nat)) (c : Char) : Bool :=
  ranges.any fun r => r.1 ≤ c.toNat && c.toNat ≤ r.2

end Text
end DocPipe
