import DocPipe.Path.Lookup
import DocPipe.Template.Placeholder
import DocPipe.Value.Text

/-!
# Filling templates in

A template is filled in for one item at a time.  A key is a path into the item, with three words
that mean something else: `index` is the number of the item, a point is the item itself, and so is
`value` when the item is neither a list nor an object.

Filling in never fails.  A key that leads nowhere, or to null, leaves its placeholder empty, and the
expansion records it as unresolved.
-/

namespace DocPipe
namespace Template

/-- The text that takes the place of a value.  Null leaves none. -/
def shownText? (v : Value) : Option String := if v.isNull then none else some v.text

/-- The text for a key, if it leads to one. -/
def textOf? (item : Value) (index : Nat) (key : String) : Option String :=
  if key = "index" then some (toString index)
  else if key = "." ∨ (key = "value" ∧ item.isPrimitive) then shownText? item
  else if key = "" then none
  else (Path.resolveText key item).bind shownText?

/-- A template that has been filled in, and the keys that left their placeholders empty. -/
structure Expansion where
  text : String
  unresolved : List String
  deriving DecidableEq, Repr

/-- What has been filled in so far, and where the last placeholder has ended. -/
structure Filling where
  last : Nat := 0
  text : String := ""
  unresolved : List String := []

/-- Fills in one placeholder, and the text in front of it. -/
def Filling.next (template : List Char) (item : Value) (index : Nat) (f : Filling)
    (p : Placeholder) : Filling :=
  let text := f.text ++ between template f.last p.start
  match textOf? item index p.key with
  | some value => { last := p.stop, text := text ++ value, unresolved := f.unresolved }
  | none => { last := p.stop, text, unresolved := f.unresolved ++ [p.key] }

/-- Behind the last placeholder the text stays as it is. -/
def Filling.finish (template : List Char) (f : Filling) : Expansion where
  text := f.text ++ String.ofList (template.drop f.last)
  unresolved := f.unresolved

/-- Fills a template in for an item. -/
def expand (template : String) (item : Value) (index : Nat) : Expansion :=
  let cs := template.toList
  ((placeholdersFrom 0 cs).foldl (Filling.next cs item index) {}).finish cs

@[simp] theorem shownText?_null : shownText? .null = none := rfl

end Template
end DocPipe
