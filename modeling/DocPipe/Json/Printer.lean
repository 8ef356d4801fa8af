import DocPipe.Value.Basic

/-!
# Writing JSON

The compact form: no blanks, fields in their order, and in strings only what has to be escaped.
That is the quote, the backslash, and the controls below U+0020, of which five have short escapes.
-/

namespace DocPipe
namespace Json

/-- A control character as `\u` and four hexadecimal digits. -/
def controlEscape (c : Char) : List Char :=
  ['\\', 'u', '0', '0', Nat.digitChar (c.toNat / 16), Nat.digitChar (c.toNat % 16)]

/-- One character inside a string. -/
def escape (c : Char) : List Char :=
  if c = '"' then ['\\', '"']
  else if c = '\\' then ['\\', '\\']
  else if c = '\x08' then ['\\', 'b']
  else if c = '\x0c' then ['\\', 'f']
  else if c = '\n' then ['\\', 'n']
  else if c = '\r' then ['\\', 'r']
  else if c = '\t' then ['\\', 't']
  else if c.toNat < 0x20 then controlEscape c
  else [c]

/-- A string with its quotes. -/
def printString (s : String) : List Char := '"' :: (s.toList.flatMap escape ++ ['"'])

/-- Texts with commas between them. -/
def commaSeparated : List (List Char) → List Char
  | [] => []
  | [t] => t
  | t :: ts => t ++ ',' :: commaSeparated ts

mutual

/-- A value in compact form. -/
def print : Value → List Char
  | .null => ['n', 'u', 'l', 'l']
  | .bool true => ['t', 'r', 'u', 'e']
  | .bool false => ['f', 'a', 'l', 's', 'e']
  | .number n => n.jsonText
  | .string s => printString s
  | .array items => '[' :: (commaSeparated (printItems items) ++ [']'])
  | .object fields => '\x7b' :: (commaSeparated (printFields fields) ++ ['\x7d'])

/-- Each item of a list in compact form. -/
def printItems : List Value → List (List Char)
  | [] => []
  | v :: vs => print v :: printItems vs

/-- Each field of an object in compact form. -/
def printFields : List (String × Value) → List (List Char)
  | [] => []
  | (k, v) :: rest => (printString k ++ ':' :: print v) :: printFields rest

end

@[simp] theorem commaSeparated_nil : commaSeparated [] = [] := rfl

@[simp] theorem commaSeparated_singleton (t : List Char) : commaSeparated [t] = t := rfl

@[simp] theorem printItems_eq_map (vs : List Value) : printItems vs = vs.map print := by
  induction vs with
  | nil => rfl
  | cons v vs ih => simp [printItems, ih]

@[simp] theorem printFields_eq_map (fs : List (String × Value)) :
    printFields fs = fs.map fun p => printString p.1 ++ ':' :: print p.2 := by
  induction fs with
  | nil => rfl
  | cons p fs ih => obtain ⟨k, v⟩ := p; simp [printFields, ih]

end Json

/-- The JSON text of a value. -/
def Value.toJson (v : Value) : String := String.ofList (Json.print v)

end DocPipe
