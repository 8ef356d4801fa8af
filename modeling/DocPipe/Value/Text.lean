import DocPipe.Json.Printer

/-!
# Values as plain text

Lines and filters see values as plain text.  A scalar has a text of its own: a string is its own
text, without quotes, and a number is written plainly.  Null has none, which is why a filter can
tell it from the empty string.

A line has to show something for every value, so `Value.text` extends this: null is nothing, and a
list or an object is its JSON.
-/

namespace DocPipe
namespace Value

/-- The text of a truth value. -/
def boolText (b : Bool) : String := if b then "true" else "false"

/-- The text of a string, a number or a truth value. -/
def scalarText? : Value → Option String
  | .string s => some s
  | .number n => some (String.ofList n.plainText)
  | .bool b => some (boolText b)
  | .null | .array _ | .object _ => none

/-- The text that stands for a value in a line. -/
def text (v : Value) : String :=
  match v with
  | .null => ""
  | .array _ | .object _ => v.toJson
  | v => v.scalarText?.getD ""

@[simp] theorem scalarText?_null : scalarText? .null = none := rfl

@[simp] theorem text_null : text .null = "" := rfl

/-- The text of a scalar is its text in a line. -/
theorem text_of_scalarText? {v : Value} {t : String} (h : v.scalarText? = some t) :
    v.text = t := by
  cases v <;> simp_all [scalarText?, text]

end Value
end DocPipe
