import DocPipe.Text.Ranges

/-!
# Characters that are passed over when shown

The `Default_Ignorable_Code_Point` property: what a display leaves out unless it has a special use
for it.  Most of these are format characters or marks, but the Hangul fillers are letters, and the
general category alone would let them through.  Nothing of them is seen inside quotes, so a quoted
text spells them out.
-/

namespace DocPipe
namespace Text

/-- The ranges of the `Default_Ignorable_Code_Point` property. -/
def defaultIgnorableRanges : Array (Nat × Nat) := #[
  (0xAD, 0xAD), (0x34F, 0x34F), (0x61C, 0x61C), (0x115F, 0x1160), (0x17B4, 0x17B5),
  (0x180B, 0x180F), (0x200B, 0x200F), (0x202A, 0x202E), (0x2060, 0x206F), (0x3164, 0x3164),
  (0xFE00, 0xFE0F), (0xFEFF, 0xFEFF), (0xFFA0, 0xFFA0), (0xFFF0, 0xFFF8), (0x1BCA0, 0x1BCA3),
  (0x1D173, 0x1D17A), (0xE0000, 0xE0FFF)]

/-- Whether `c` is left out by a display that has no special use for it. -/
def isDefaultIgnorable (c : Char) : Bool := inRanges defaultIgnorableRanges c

end Text
end DocPipe
