import DocPipe.Json.Numeral
import DocPipe.Json.Printer
import DocPipe.Text.HexDigit

/-!
# Reading JSON

The reader is strict: double quotes, no comments, no comma before a closing bracket, nothing behind
the value.  Every refusal names the first byte at which the text stopped being the beginning of a
JSON text, or the end of the text when more was expected.

## How it recurses

Lists and objects may nest to a fixed depth, so `readValue` recurses on the *room* that is left: how
many more brackets may be opened.  A list or an object is then a loop that is handed the reader for
the next depth.  Each turn of the loop consumes at least one character, so the loop counts down from
the length of the text, and cannot run out before the text does.
-/

namespace DocPipe
namespace Json

/-- The blanks between the tokens of JSON. -/
def isJsonBlank (c : Char) : Bool := c == ' ' || c == '\n' || c == '\t' || c == '\r'

/-- The text from its first character that is not blank. -/
def skipBlanks (cs : List Char) : List Char := cs.dropWhile isJsonBlank

/-! ## Strings -/

/-- The number that four hexadecimal digits at the start of the text form.  The escape takes up four
bytes whatever they hold. -/
def hexEscape (cs : List Char) : Except Fault Nat :=
  match Text.numberIn? 16 (cs.take 4), cs.drop 3 with
  | some n, _ :: _ => .ok n
  | _, _ => if byteCount cs < 4 then refuse .endInString [] 0 else refuse .badEscape cs 4

/-- The character that a pair of surrogates stands for. -/
def joinSurrogates (high low : Nat) : Char :=
  Char.ofNat ((high - 0xD800) * 0x400 + (low - 0xDC00) + 0x10000)

/-- The low surrogate that has to follow the high one `high`, at the start of the text; with the
character that the pair stands for and the length of what was read. -/
def lowSurrogate (high : Nat) (cs : List Char) : Except Fault (Char × Nat) :=
  match cs with
  | [] => refuse .endInString [] 0
  | '\\' :: [] => refuse .endInString [] 0
  | '\\' :: 'u' :: rest =>
    match hexEscape rest with
    | .error f => .error f
    | .ok low =>
      if 0xDC00 ≤ low ∧ low ≤ 0xDFFF then .ok (joinSurrogates high low, 6)
      else refuse .loneSurrogate (rest.drop 4) 0
  | '\\' :: rest => refuse .unfinishedSurrogate rest 1
  | _ => refuse .unfinishedSurrogate cs 1

/-- The character that the escape at the start of the text stands for, and the length of the escape
behind its backslash. -/
def readEscape (cs : List Char) : Except Fault (Char × Nat) :=
  match cs with
  | [] => refuse .endInString [] 0
  | '"' :: _ => .ok ('"', 1)
  | '\\' :: _ => .ok ('\\', 1)
  | '/' :: _ => .ok ('/', 1)
  | 'b' :: _ => .ok ('\x08', 1)
  | 'f' :: _ => .ok ('\x0c', 1)
  | 'n' :: _ => .ok ('\n', 1)
  | 'r' :: _ => .ok ('\r', 1)
  | 't' :: _ => .ok ('\t', 1)
  | 'u' :: rest =>
    match hexEscape rest with
    | .error f => .error f
    | .ok n =>
      if 0xDC00 ≤ n ∧ n ≤ 0xDFFF then refuse .loneSurrogate (rest.drop 4) 0
      else if 0xD800 ≤ n ∧ n ≤ 0xDBFF then
        (lowSurrogate n (rest.drop 4)).map fun p => (p.1, 5 + p.2)
      else .ok (Char.ofNat n, 5)
  | _ => refuse .badEscape cs 1

/-- Reads a string behind its opening quote. -/
def readString (cs : List Char) : Step (List Char) :=
  match cs with
  | [] => refuse .endInString [] 0
  | c :: rest =>
    if c = '"' then .ok ([], rest)
    else if c = '\\' then
      match readEscape rest with
      | .error f => .error f
      | .ok (d, length) => (readString (rest.drop length)).map fun p => (d :: p.1, p.2)
    else if c.toNat < 0x20 then refuse .controlInString rest 0
    else (readString rest).map fun p => (c :: p.1, p.2)
termination_by cs.length
decreasing_by all_goals simp only [List.length_cons, List.length_drop]; omega

/-! ## Values -/

/-- Reads the letters that have to follow the first letter of a word such as `null`. -/
def readWord (value : Value) : List Char → List Char → Step Value
  | [], cs => .ok (value, cs)
  | _ :: _, [] => refuse .endInValue [] 0
  | w :: ws, c :: cs => if c = w then readWord value ws cs else refuse .unknownWord (c :: cs) 1

/-- Reads the items of a list up to its closing bracket.  `read` reads one item; `first` says that
none has been read yet. -/
def readItems (read : List Char → Step Value) : Nat → Bool → List Char → Step (List Value)
  | 0, _, _ => refuse .endInList [] 0
  | fuel + 1, first, cs =>
    let next (cs : List Char) : Step (List Value) :=
      match read cs with
      | .error f => .error f
      | .ok (v, rest) => (readItems read fuel false rest).map fun p => (v :: p.1, p.2)
    match skipBlanks cs with
    | [] => refuse .endInList [] 0
    | c :: rest =>
      if c = ']' then .ok ([], rest)
      else if first then next (c :: rest)
      else if c = ',' then
        match skipBlanks rest with
        | [] => refuse .endInValue [] 0
        | ']' :: tail => refuse .trailingComma (']' :: tail) 1
        | tail => next tail
      else refuse .expectedListEnd (c :: rest) 1

/-- Reads one field of an object behind the opening quote of its key. -/
def readField (read : List Char → Step Value) (cs : List Char) : Step (String × Value) :=
  match readString cs with
  | .error f => .error f
  | .ok (key, rest) =>
    match skipBlanks rest with
    | [] => refuse .endInObject [] 0
    | ':' :: rest => (read rest).map fun p => ((String.ofList key, p.1), p.2)
    | rest => refuse .expectedColon rest 1

/-- Reads the fields of an object up to its closing brace.  `read` reads one value; `first` says
that no field has been read yet. -/
def readFields (read : List Char → Step Value) :
    Nat → Bool → List Char → Step (List (String × Value))
  | 0, _, _ => refuse .endInObject [] 0
  | fuel + 1, first, cs =>
    let next (cs : List Char) : Step (List (String × Value)) :=
      match readField read cs with
      | .error f => .error f
      | .ok (field, rest) => (readFields read fuel false rest).map fun p => (field :: p.1, p.2)
    match skipBlanks cs with
    | [] => refuse .endInObject [] 0
    | c :: rest =>
      if c = '\x7d' then .ok ([], rest)
      else if first then
        if c = '"' then next rest else refuse .keyNotString (c :: rest) 1
      else if c = ',' then
        match skipBlanks rest with
        | [] => refuse .endInValue [] 0
        | '"' :: tail => next tail
        | d :: tail =>
          refuse (if d = '\x7d' then .trailingComma else .keyNotString) (d :: tail) 1
      else refuse .expectedObjectEnd (c :: rest) 1

/-- Reads a value.  At most `room` brackets may be open inside one another; `size` is at least the
length of the text. -/
def readValue (size : Nat) (room : Nat) (cs : List Char) : Step Value :=
  match skipBlanks cs with
  | [] => refuse .endInValue [] 0
  | c :: rest =>
    if c = 'n' then readWord .null ['u', 'l', 'l'] rest
    else if c = 't' then readWord (.bool true) ['r', 'u', 'e'] rest
    else if c = 'f' then readWord (.bool false) ['a', 'l', 's', 'e'] rest
    else if c = '-' then (readNumber false rest).map fun p => (.number p.1, p.2)
    else if c.isDigit then (readNumber true (c :: rest)).map fun p => (.number p.1, p.2)
    else if c = '"' then (readString rest).map fun p => (.string (String.ofList p.1), p.2)
    else if c = '[' then
      match room with
      | 0 => refuse .tooDeep (c :: rest) 1
      | room + 1 =>
        (readItems (readValue size room) size true rest).map fun p => (.array p.1, p.2)
    else if c = '\x7b' then
      match room with
      | 0 => refuse .tooDeep (c :: rest) 1
      | room + 1 =>
        (readFields (readValue size room) size true rest).map fun p =>
          (.object (Fields.ofPairs p.1), p.2)
    else refuse .expectedValue (c :: rest) 1

/-- How many brackets may be open inside one another. -/
def maxDepth : Nat := 127

/-- Reads a text that holds one value and blanks around it. -/
def readText (text : List Char) : Except Fault Value :=
  match readValue (text.length + 1) maxDepth text with
  | .error f => .error f
  | .ok (v, rest) =>
    match skipBlanks rest with
    | [] => .ok v
    | rest => refuse .trailingText rest 1

/-- The value that a JSON text stands for. -/
def read (text : String) : Except Error Value :=
  (readText text.toList).mapError (·.locate text.toList)

end Json
end DocPipe
