import DocPipe.Yaml.Error
import DocPipe.Yaml.Node
import DocPipe.Yaml.Token

/-!
# Reading the nodes of a document

    document := directive* "---" node? "..."? | node "..."?
    node     := reference | property* (scalar | collection)?

Wherever a node may stand, it may also be missing, if the token that comes next says that the
collection goes on without it.

Collections may nest to a fixed depth.  `readNode` recurses on the room that is left, and hands each
collection the reader for the next depth.  A collection is then a loop over its entries, each of
which takes at least one token.
-/

namespace DocPipe
namespace Yaml

/-- How deep collections may nest. -/
def maxDepth : Nat := 128

/-- What is left of the tokens, and what the tokens in front have declared. -/
structure Source where
  tokens : List Token
  /-- A bound on the number of tokens. -/
  size : Nat
  /-- What the handles of tags stand for. -/
  handles : List (String × Tag)
  /-- The anchors that have been named, and the number that each name stands for now. -/
  anchors : List (String × Nat)
  deriving Repr

/-- Reading from a source. -/
abbrev Reading := StateT Source (Except Error)

namespace Source

/-- The next token, which stays. -/
def peek : Reading (Option Token) := do return (← get).tokens.head?

/-- Goes past the next token. -/
def advance : Reading Unit := modify fun s => { s with tokens := s.tokens.tail }

/-- Goes past the next token if it is the given one, and says whether it was. -/
def accept (token : Token) : Reading Bool := do
  if (← peek) = some token then advance; return true
  else return false

/-- Whether the next token is one of the given ones. -/
def isNext (tokens : List Token) : Reading Bool := do
  return (← peek).any tokens.contains

/-- Refuses the next token. -/
def refuse {α : Type} (wanted : String) : Reading α := throw (.unexpectedToken wanted)

/-- Gives a name to the node that begins here.  The number counts the names in use, so a name that
is used again can take up the number of the next new one. -/
def nameAnchor (name : String) : Reading Nat := do
  let anchors := (← get).anchors
  let number := anchors.length
  let others := anchors.filter (·.1 != name)
  modify fun s => { s with anchors := (name, number) :: others }
  return number

/-- The number that a name stands for. -/
def anchorNumber (name : String) : Reading Nat := do
  match (← get).anchors.lookup name with
  | some number => return number
  | none => throw (.unknownAnchor name)

/-- The tag that a handle and a suffix stand for. -/
def resolveTag (handle : String) (suffix : Tag) : Reading Tag := do
  if handle.isEmpty then return suffix
  match (← get).handles.lookup handle with
  | some stem => return stem.append suffix
  | none => throw (.undeclaredHandle handle)

/-- The tag here, if there is one. -/
def readTag : Reading (Option Tag) := do
  match ← peek with
  | some (.tag handle suffix) =>
    advance
    return some (← resolveTag handle suffix)
  | _ => return none

/-- The number of the anchor here, if there is one. -/
def readAnchor : Reading (Option Nat) := do
  match ← peek with
  | some (.anchor name) =>
    advance
    return some (← nameAnchor name)
  | _ => return none

/-- The properties here, in either order. -/
def readProperties : Reading Properties := do
  match ← readAnchor with
  | some anchor => return ⟨some anchor, ← readTag⟩
  | none =>
    let tag ← readTag
    return ⟨← readAnchor, tag⟩

/-! ## Collections

Each loop is handed a reader for the nodes inside, and keeps what it has read in reverse. -/

/-- A node, unless one of the given tokens comes next. -/
def nodeUnless (tokens : List Token) (node : Reading Node) : Reading Node := do
  if (← isNext tokens) then return .missing {} else node

/-- The items of a block sequence, up to its end. -/
def blockItems (node : Reading Node) (items : List Node) : Nat → Reading (List Node)
  | 0 => refuse "'-' indicator"
  | fuel + 1 => do
    if ← accept .blockEntry then
      let item ← nodeUnless [.blockEntry, .blockEnd] node
      blockItems node (item :: items) fuel
    else if ← accept .blockEnd then return items.reverse
    else refuse "'-' indicator"

/-- The items of a sequence that is not indented further than the mapping it is a value of.  It ends
where there are no more dashes. -/
def unindentedItems (node : Reading Node) (items : List Node) : Nat → Reading (List Node)
  | 0 => return items.reverse
  | fuel + 1 => do
    if ← accept .blockEntry then
      let item ← nodeUnless [.blockEntry, .key, .value, .blockEnd] node
      unindentedItems node (item :: items) fuel
    else return items.reverse

/-- The entries of a block mapping, up to its end. -/
def blockEntries (node : Reading Node) (entries : List (Node × Node)) :
    Nat → Reading (List (Node × Node))
  | 0 => refuse "key"
  | fuel + 1 => do
    let absent := [Token.key, .value, .blockEnd]
    if ← accept .key then
      let key ← nodeUnless absent node
      let value ← if ← accept .value then nodeUnless absent node else pure (.missing {})
      blockEntries node ((key, value) :: entries) fuel
    else if ← accept .blockEnd then return entries.reverse
    else refuse "key"

/-- The key and the value of an entry that stands alone in a flow sequence, behind the mark for the
key.  Where the key is missing, the token that shows it is taken up as well. -/
def lonelyEntry (node : Reading Node) : Reading Node := do
  let key ←
    if ← isNext [.value, .flowEntry, .flowSequenceEnd] then
      advance
      pure (.missing {})
    else node
  let value ←
    if ← accept .value then nodeUnless [.flowEntry, .flowSequenceEnd] node
    else pure (.missing {})
  return .mapping {} [(key, value)]

/-- Goes past the comma behind an entry; there is none in front of the first one. -/
def readComma (first : Bool) (wanted : String) : Reading Unit := do
  if first then return
  if !(← accept .flowEntry) then refuse wanted

/-- The items of a flow sequence, up to its end. -/
def flowItems (node : Reading Node) (items : List Node) : Nat → Reading (List Node)
  | 0 => refuse "',' or ']'"
  | fuel + 1 => do
    if ← accept .flowSequenceEnd then return items.reverse
    readComma items.isEmpty "',' or ']'"
    if ← accept .flowSequenceEnd then return items.reverse
    let item ← if ← accept .key then lonelyEntry node else node
    flowItems node (item :: items) fuel

/-- The entry of a flow mapping.  Without the mark for a key, it is a key alone. -/
def flowEntry (node : Reading Node) : Reading (Node × Node) := do
  if ← accept .key then
    let key ← nodeUnless [.value, .flowEntry, .flowMappingEnd] node
    if ← accept .value then return (key, ← nodeUnless [.flowEntry, .flowMappingEnd] node)
    return (key, .missing {})
  return (← node, .missing {})

/-- The entries of a flow mapping, up to its end. -/
def flowEntries (node : Reading Node) (entries : List (Node × Node)) :
    Nat → Reading (List (Node × Node))
  | 0 => refuse "',' or '\x7d'"
  | fuel + 1 => do
    if ← accept .flowMappingEnd then return entries.reverse
    readComma entries.isEmpty "',' or '\x7d'"
    if ← accept .flowMappingEnd then return entries.reverse
    flowEntries node ((← flowEntry node) :: entries) fuel

/-! ## Nodes -/

/-- Where a node stands: whether block collections may stand there, and whether a sequence may that
is not indented. -/
structure Position where
  block : Bool
  unindented : Bool

/-- The collection that a token begins, if it begins one there; `node` reads the nodes inside. -/
def collection? (node : Position → Reading Node) (properties : Properties) (position : Position)
    (size : Nat) : Token → Option (Reading Node)
  | .blockSequenceStart =>
    if position.block then some do
      advance
      return .sequence properties (← blockItems (node ⟨true, false⟩) [] size)
    else none
  | .blockMappingStart =>
    if position.block then some do
      advance
      return .mapping properties (← blockEntries (node ⟨true, true⟩) [] size)
    else none
  | .blockEntry =>
    if position.unindented then some do
      return .sequence properties (← unindentedItems (node ⟨true, false⟩) [] size)
    else none
  | .flowSequenceStart => some do
      advance
      return .sequence properties (← flowItems (node ⟨false, false⟩) [] size)
  | .flowMappingStart => some do
      advance
      return .mapping properties (← flowEntries (node ⟨false, false⟩) [] size)
  | _ => none

/-- The node whose properties have been read. -/
def readContent (node : Position → Reading Node) (properties : Properties) (position : Position) :
    Reading Node := do
  let next ← peek
  match next with
  | some (.scalar text plain) =>
    advance
    return .scalar properties text plain
  | _ =>
    match next.bind (collection? node properties position (← get).size) with
    | some collection => collection
    | none =>
      if properties = {} then refuse "node content" else return .missing properties

/-- The node here; `node` reads the nodes inside. -/
def readNodeWith (node : Position → Reading Node) (position : Position) : Reading Node := do
  match ← peek with
  | some (.reference name) =>
    advance
    return .reference (← anchorNumber name)
  | _ =>
    let properties ← readProperties
    readContent node properties position

/-- The node here; `room` is how deep nodes may still nest. -/
def readNode : Nat → Position → Reading Node
  | 0 => fun _ => throw .tooDeep
  | room + 1 => readNodeWith (readNode room)

/-! ## Documents -/

/-- Declares the handle of a tag, which may be done once. -/
def declareHandle (handle : String) (stem : Tag) : Reading Unit := do
  if ((← get).handles.lookup handle).isSome then throw .repeatedDirective
  modify fun s => { s with handles := (handle, stem) :: s.handles }

/-- The handles that need not be declared. -/
def standardHandles : List (String × Tag) := [("!", .ofText "!"), ("!!", .commonStem)]

/-- The directives here, and the standard handles behind those that they declare. -/
def readDirectives (hasVersion : Bool) : Nat → Reading Unit
  | 0 => return ()
  | fuel + 1 => do
    match ← peek with
    | some (.versionDirective major minor) =>
      if hasVersion then throw .repeatedDirective
      if major != 1 || !(minor == 1 || minor == 2) then throw .unsupportedVersion
      advance
      readDirectives true fuel
    | some (.tagDirective handle stem) =>
      declareHandle handle stem
      advance
      readDirectives hasVersion fuel
    | _ => modify fun s => { s with handles := s.handles ++ standardHandles }

/-- Whether a token begins a document explicitly. -/
def startsDocument : Token → Bool
  | .versionDirective _ _ | .tagDirective _ _ | .documentStart => true
  | _ => false

/-- The root of a document that begins with its first node. -/
def readBareDocument : Reading Node := do
  modify fun s => { s with handles := standardHandles }
  readNode (maxDepth + 1) ⟨true, false⟩

/-- The root of a document that begins with directives or a marker. -/
def readMarkedDocument : Reading Node := do
  readDirectives false (← get).size
  if !(← accept .documentStart) then refuse "<document start>"
  match ← peek with
  | none => return .missing {}
  | some token =>
    if token = .documentEnd || startsDocument token then return .missing {}
    else readNode (maxDepth + 1) ⟨true, false⟩

/-- Goes past the markers of the end of a document. -/
def skipDocumentEnds : Nat → Reading Unit
  | 0 => return ()
  | fuel + 1 => do if ← accept .documentEnd then skipDocumentEnds fuel

/-- The root of the only document.  A text without tokens is a document whose root is missing. -/
def readDocument : Reading Node := do
  match ← peek with
  | none => return .missing {}
  | some token =>
    let root ← if startsDocument token then readMarkedDocument else readBareDocument
    skipDocumentEnds (← get).size
    match ← peek with
    | none => return root
    | some token =>
      if startsDocument token then throw .moreThanOneDocument else refuse "<document start>"

end Source

/-- The root of the document that a row of tokens spells. -/
def Node.ofTokens (tokens : List Token) : Except Error Node :=
  (Source.readDocument.run ⟨tokens, tokens.length + 1, [], []⟩).map Prod.fst

end Yaml
end DocPipe
