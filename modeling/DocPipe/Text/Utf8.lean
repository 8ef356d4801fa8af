/-!
# Reading bytes as text

Text arrives as bytes, and not every row of bytes is text in UTF-8.  The first byte of a character
tells how many follow; each of them carries six bits.  The byte behind the first is further limited,
so that no character has two forms and surrogates have none.

A row of bytes that is no text is refused at the first character that cannot be read.  Either a byte
is wrong, and then the refusal says how many bytes did belong together, or the bytes end too early.
-/

namespace DocPipe
namespace Text

/-- Why bytes are no text: where the first character that cannot be read begins, and how many of its
bytes belong together, if another byte is to blame. -/
structure Utf8Error where
  index : Nat
  length : Option Nat
  deriving DecidableEq, Repr

/-- The refusal in words. -/
def Utf8Error.message (e : Utf8Error) : String :=
  match e.length with
  | some n =>
    "invalid utf-8 sequence of " ++ toString n ++ " bytes from index " ++ toString e.index
  | none => "incomplete utf-8 byte sequence from index " ++ toString e.index

/-- How many bytes follow the first one of a character, and the bits that it carries itself. -/
def leadByte? (byte : Nat) : Option (Nat × Nat) :=
  if byte < 0x80 then some (0, byte)
  else if 0xC2 ≤ byte ∧ byte < 0xE0 then some (1, byte - 0xC0)
  else if 0xE0 ≤ byte ∧ byte < 0xF0 then some (2, byte - 0xE0)
  else if 0xF0 ≤ byte ∧ byte < 0xF5 then some (3, byte - 0xF0)
  else none

/-- The least and the greatest byte that may stand behind a first byte. -/
def secondByteRange (lead : Nat) : Nat × Nat :=
  if lead = 0xE0 then (0xA0, 0xBF)
  else if lead = 0xED then (0x80, 0x9F)
  else if lead = 0xF0 then (0x90, 0xBF)
  else if lead = 0xF4 then (0x80, 0x8F)
  else (0x80, 0xBF)

/-- Reads the `n` bytes that follow, of which the first lies in a range, and adds their bits to
those read before.  A refusal counts the bytes that belong together, of which `seen` have been
read. -/
def followingBytes (seen bits : Nat) (range : Nat × Nat) :
    Nat → List UInt8 → Except (Option Nat) Nat
  | 0, _ => .ok bits
  | _ + 1, [] => .error none
  | n + 1, b :: bytes =>
    if range.1 ≤ b.toNat ∧ b.toNat ≤ range.2 then
      followingBytes (seen + 1) (64 * bits + b.toNat % 64) (0x80, 0xBF) n bytes
    else .error (some seen)

/-- The code point of the character that begins with `lead`, and how many bytes follow it. -/
def charAt (lead : UInt8) (bytes : List UInt8) : Except (Option Nat) (Nat × Nat) :=
  match leadByte? lead.toNat with
  | none => .error (some 1)
  | some (n, bits) =>
    (followingBytes 1 bits (secondByteRange lead.toNat) n bytes).map (·, n)

/-- Reads the characters behind the first `index` bytes; those read before come in reverse. -/
def decodeFrom (index : Nat) (text : List Char) (bytes : List UInt8) :
    Except Utf8Error (List Char) :=
  match bytes with
  | [] => .ok text.reverse
  | lead :: rest =>
    match charAt lead rest with
    | .error length => .error ⟨index, length⟩
    | .ok (codePoint, n) => decodeFrom (index + n + 1) (Char.ofNat codePoint :: text) (rest.drop n)
termination_by bytes.length
decreasing_by simp only [List.length_cons, List.length_drop]; omega

/-- The text that bytes denote. -/
def decodeUtf8 (bytes : List UInt8) : Except Utf8Error String :=
  (decodeFrom 0 [] bytes).map String.ofList

@[simp] theorem decodeUtf8_nil : decodeUtf8 [] = .ok "" := by
  simp [decodeUtf8, decodeFrom, Except.map]

end Text
end DocPipe
