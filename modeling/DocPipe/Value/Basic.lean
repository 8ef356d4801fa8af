import DocPipe.Number.Basic

/-!
# Documents

A document is a tree of lists and objects over four kinds of scalars, whatever format it was written
in.  The fields of an object keep the order in which they were first written, since they are printed
in that order again; a key that is written twice keeps its first place and its last value.
-/

namespace DocPipe

/-- A document, or any part of one. -/
inductive Value where
  | null
  | bool (b : Bool)
  | number (n : Number)
  | string (s : String)
  | array (items : List Value)
  | object (fields : List (String × Value))
  deriving Repr, BEq, Inhabited

/-- The fields of an object, in order. -/
abbrev Fields := List (String × Value)

namespace Fields

/-- Sets the value of a key: in place if the key is there, at the end if it is not. -/
def put (fields : Fields) (key : String) (value : Value) : Fields :=
  match fields with
  | [] => [(key, value)]
  | (k, v) :: rest => if k = key then (k, value) :: rest else (k, v) :: put rest key value

/-- The fields that result from setting the given ones in turn. -/
def ofPairs (pairs : List (String × Value)) : Fields :=
  pairs.foldl (fun fields p => put fields p.1 p.2) []

@[simp] theorem put_nil (key : String) (value : Value) : put [] key value = [(key, value)] := rfl

end Fields

namespace Value

/-- Whether a value is neither a list nor an object. -/
def isPrimitive : Value → Bool
  | .array _ | .object _ => false
  | _ => true

/-- Whether a value is null. -/
def isNull : Value → Bool
  | .null => true
  | _ => false

/-- The value of a key, when the value is an object that has it. -/
def field? (v : Value) (key : String) : Option Value :=
  match v with
  | .object fields => fields.lookup key
  | _ => none

/-- The items of a list, when the value is one. -/
def items? : Value → Option (List Value)
  | .array items => some items
  | _ => none

/-- The item at a position, when the value is a list that is long enough. -/
def item? (v : Value) (i : Nat) : Option Value := v.items?.bind (·[i]?)

end Value
end DocPipe
