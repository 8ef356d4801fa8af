import DocPipe.Path.Parser
import DocPipe.Template.Placeholder

/-!
# Checking templates

Filling in takes every text as it is, which hides mistakes.  Checking a template finds three of
them: a placeholder without a key, a key that is no path and so leads nowhere in any item, and two
opening braces behind the last placeholder that were probably meant to begin another one.

A template without such mistakes is a row of parts.  The first mistake ends the check.
-/

namespace DocPipe
namespace Template

/-- A part of a template. -/
inductive Part where
  | literal (text : String)
  | placeholder (key : String)
  deriving DecidableEq, Repr

/-- A mistake in a template. -/
inductive TemplateError where
  | emptyPlaceholder
  | unclosedPlaceholder
  | invalidKey (key : String) (cause : PathError)
  deriving DecidableEq, Repr

/-- The mistake in words. -/
def TemplateError.message : TemplateError → String
  | .emptyPlaceholder => "empty placeholder '\x7b\x7b\x7d\x7d'"
  | .unclosedPlaceholder => "unclosed placeholder (missing '\x7d\x7d')"
  | .invalidKey key cause =>
    "invalid placeholder key " ++ Text.quoted key ++ ": " ++ cause.message

/-- Whether a key is one of the words that are not looked up as paths. -/
def isReserved (key : String) : Bool := key == "index" || key == "." || key == "value"

/-- What is wrong with a key, if anything is. -/
def keyError? (key : String) : Option TemplateError :=
  if key = "" then some .emptyPlaceholder
  else if isReserved key then none
  else match Path.parse key with
    | .ok _ => none
    | .error cause => some (.invalidKey key cause)

/-- The parts that have been found so far, and where the last placeholder has ended. -/
structure Splitting where
  last : Nat := 0
  parts : List Part := []

/-- Adds one placeholder, and the text in front of it if there is any. -/
def Splitting.next (template : List Char) (s : Splitting) (p : Placeholder) :
    Except TemplateError Splitting :=
  let parts :=
    if s.last < p.start then s.parts ++ [.literal (between template s.last p.start)] else s.parts
  match keyError? p.key with
  | some e => .error e
  | none => .ok { last := p.stop, parts := parts ++ [.placeholder p.key] }

/-- Adds the text behind the last placeholder, unless it looks like the beginning of another. -/
def Splitting.finish (template : List Char) (s : Splitting) : Except TemplateError (List Part) :=
  let rest := template.drop s.last
  if (Text.cutPair? '\x7b' rest).isSome then .error .unclosedPlaceholder
  else if rest = [] then .ok s.parts
  else .ok (s.parts ++ [.literal (String.ofList rest)])

/-- The parts of a template that has no mistakes. -/
def parse (template : String) : Except TemplateError (List Part) :=
  let cs := template.toList
  ((placeholdersFrom 0 cs).foldlM (Splitting.next cs) {}).bind (Splitting.finish cs)

end Template
end DocPipe
