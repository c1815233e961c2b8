import DriftPatch.Yaml.Node.Basic
import DriftPatch.Yaml.Token.Lexer

/-!
# From tokens to nodes

A stream holds one document at most: directives, an optional start mark,
one node, optional end marks. A node is led by its tag and its anchor, in
either order. Between the marks of a collection a place for a node may be
left empty.

Nodes are read from left to right, and tokens only as they are needed.
Reading stops at the first token that does not fit, whatever comes behind
it. Collections within one another are followed however deep they lie.
-/

namespace DriftPatch.Yaml

/-- **The state of reading nodes.** -/
structure Reader where
  /-- The tokens to come. -/
  lexer : Lexer
  /-- What the shorthands of tags stand for. -/
  handles : List (Text × Text) := []
  /-- The nodes that have a name. -/
  anchors : List (Text × Nat) := []
  /-- The nodes read. A collection that is being read is there, without
  its parts. -/
  nodes : Nodes := #[]

/-- What reads part of a document. -/
abbrev Reads := StateT Reader (Except Fault)

namespace Reader

/-- The next token. -/
def peek : Reads Token := do
  let r ← get
  let lexer ← r.lexer.ready
  set { r with lexer }
  return lexer.next

/-- Passes over the next token. -/
def skip : Reads Unit := do
  modify fun r => { r with lexer := r.lexer.take }

/-- Whether the next token is one of some. -/
def isAt (ts : List Token) : Reads Bool := do
  return ts.contains (← peek)

/-- Passes over the next token if it is the one given, and says whether
it is. -/
def skipIf (t : Token) : Reads Bool := do
  if (← peek) = t then
    skip
    return true
  else return false

/-- Refuses what stands here. -/
def refuse {α : Type} : Reads α :=
  throw .malformed

/-- Passes over the next token, which has to be the one given. -/
def expect (t : Token) : Reads Unit := do
  if !(← skipIf t) then refuse

/-- A new node, under a name if it has one. -/
def add (name : Option Text) (node : Node) : Reads Nat := do
  let r ← get
  let n := r.nodes.size
  let anchors :=
    match name with
    | some name => (name, n) :: r.anchors
    | none => r.anchors
  set { r with nodes := r.nodes.push node, anchors }
  return n

/-- Gives a node its parts. -/
def complete (n : Nat) (content : Node.Content) : Reads Unit :=
  modify fun r =>
    { r with nodes := r.nodes.replace n { r.nodes.node n with content } }

/-- The node of an empty place. -/
def addEmpty : Reads Nat :=
  add none .empty

end Reader

open Reader

/-- What leads a node: its tag, in full, and its name. -/
structure Properties where
  /-- The tag as written. -/
  tag : Option Text := none
  /-- The name given to the node. -/
  anchor : Option Text := none

namespace Properties

/-- The full text of a tag. -/
def resolve (handle : Option Text) (suffix : Text) : Reads Text := do
  match handle with
  | none => return suffix
  | some handle =>
    match (← get).handles.lookup handle with
    | some start => return start ++ suffix
    | none => refuse

/-- The tag and the anchor before a node, in either order. -/
def read : Reads Properties := do
  match ← peek with
  | .anchor name =>
    skip
    match ← peek with
    | .tag handle suffix =>
      skip
      return { tag := ← resolve handle suffix, anchor := some name }
    | _ => return { anchor := some name }
  | .tag handle suffix =>
    skip
    match ← peek with
    | .anchor name =>
      skip
      return { tag := ← resolve handle suffix, anchor := some name }
    | _ => return { tag := ← resolve handle suffix }
  | _ => return {}

/-- A name is given to one node only. -/
def checkAnchor (p : Properties) : Reads Unit := do
  match p.anchor with
  | none => return
  | some name => if ((← get).anchors.lookup name).isSome then refuse

/-- Whether the tag is a single exclamation mark, which leaves the kind
to the form of the node. -/
def isNonSpecific (p : Properties) : Bool :=
  p.tag == some ['!']

/-- The kind of a scalar. -/
def scalarTag (p : Properties) (plain : Bool) (content : Written) : Tag :=
  if p.isNonSpecific then Tag.ofPlain content.face
  else
    match p.tag with
    | some tag => Tag.ofText tag
    | none => if plain then Tag.ofPlain content.face else .str

/-- The kind of a collection, which is `usual` where no tag says
otherwise. -/
def collectionTag (p : Properties) (usual : Tag) : Tag :=
  if p.isNonSpecific then usual
  else
    match p.tag with
    | some tag => Tag.ofText tag
    | none => usual

/-- The scalar that these properties lead. -/
def addScalar (p : Properties) (plain : Bool) (content : Written) : Reads Nat := do
  p.checkAnchor
  add p.anchor { tag := p.scalarTag plain content, content := .scalar content }

/-- The list that these properties lead, whose items `items` reads. -/
def addSequence (p : Properties) (items : Reads (List Nat)) : Reads Nat := do
  p.checkAnchor
  let n ← add p.anchor { tag := p.collectionTag .seq, content := .sequence [] }
  complete n (.sequence (← items))
  return n

/-- The mapping that these properties lead, whose entries `entries`
reads. -/
def addMapping (p : Properties) (entries : Reads (List (Nat × Nat))) : Reads Nat := do
  p.checkAnchor
  let n ← add p.anchor { tag := p.collectionTag .map, content := .mapping [] }
  complete n (.mapping (← entries))
  return n

/-- The empty scalar that these properties lead. It needs a tag or an
anchor to be seen. -/
def addEmptyScalar (p : Properties) : Reads Nat :=
  if p.tag.isSome ∨ p.anchor.isSome then p.addScalar true (.text []) else refuse

end Properties

/-- Where a node stands. -/
structure Place where
  /-- Whether indented collections may start here. -/
  block : Bool
  /-- Whether a list may be indented no more than its key. -/
  underKey : Bool := false

namespace Place

/-- A place within brackets or braces. -/
def inFlow : Place :=
  { block := false }

/-- A place in an indented list. -/
def inBlock : Place :=
  { block := true }

/-- A place for the key or the value of an indented mapping. -/
def inEntry : Place :=
  { block := true, underKey := true }

end Place

mutual

/-- A node. -/
def readNode : Nat → Place → Reads Nat
  | 0, _ => refuse
  | fuel + 1, place => do
    match ← peek with
    | .alias name =>
      skip
      match (← get).anchors.lookup name with
      | some n => return n
      | none => refuse
    | _ =>
      let p ← Properties.read
      match ← peek with
      | .blockEntry =>
        if place.underKey then p.addSequence (readIndentless fuel) else p.addEmptyScalar
      | .scalar content plain =>
        skip
        p.addScalar plain content
      | .flowSequenceStart =>
        p.addSequence do
          skip
          readFlowItems fuel true
      | .flowMappingStart =>
        p.addMapping do
          skip
          readFlowEntries fuel true
      | .blockSequenceStart =>
        if place.block then
          p.addSequence do
            skip
            readBlockItems fuel
        else p.addEmptyScalar
      | .blockMappingStart =>
        if place.block then
          p.addMapping do
            skip
            readBlockEntries fuel
        else p.addEmptyScalar
      | _ => p.addEmptyScalar

/-- The node at a place that may be empty: it is before the tokens
`ends`. -/
def readPlace : Nat → Place → List Token → Reads Nat
  | 0, _, _ => refuse
  | fuel + 1, place, ends => do
    if ← isAt ends then addEmpty else readNode fuel place

/-- The items of an indented list. -/
def readBlockItems : Nat → Reads (List Nat)
  | 0 => refuse
  | fuel + 1 => do
    if ← skipIf .blockEntry then
      let item ← readPlace fuel .inBlock [.blockEntry, .blockEnd]
      return item :: (← readBlockItems fuel)
    else
      expect .blockEnd
      return []

/-- The items of a list that is indented no more than its key. -/
def readIndentless : Nat → Reads (List Nat)
  | 0 => refuse
  | fuel + 1 => do
    if ← skipIf .blockEntry then
      let item ← readPlace fuel .inBlock [.blockEntry, .key, .value, .blockEnd]
      return item :: (← readIndentless fuel)
    else return []

/-- The entries of an indented mapping. Each one starts with its key,
which may be empty; the value may be missing. -/
def readBlockEntries : Nat → Reads (List (Nat × Nat))
  | 0 => refuse
  | fuel + 1 => do
    let ends := [.key, .value, .blockEnd]
    if ← skipIf .key then
      let key ← readPlace fuel .inEntry ends
      let value ←
        if ← skipIf .value then readPlace fuel .inEntry ends else addEmpty
      return (key, value) :: (← readBlockEntries fuel)
    else
      expect .blockEnd
      return []

/-- The key and the value of an entry within brackets or braces, which
`close` closes. -/
def readFlowEntry : Nat → Token → Reads (Nat × Nat)
  | 0, _ => refuse
  | fuel + 1, close => do
    let key ← readPlace fuel .inFlow [.value, .flowEntry, close]
    let value ←
      if ← skipIf .value then readPlace fuel .inFlow [.flowEntry, close]
      else addEmpty
    return (key, value)

/-- The items of a list in brackets. An item may be a mapping of one
entry. -/
def readFlowItems : Nat → Bool → Reads (List Nat)
  | 0, _ => refuse
  | fuel + 1, first => do
    if ← skipIf .flowSequenceEnd then return []
    else
      if !first then expect .flowEntry
      if ← skipIf .flowSequenceEnd then return []
      else
        let item ←
          if ← isAt [.key] then
            Properties.addMapping {} do
              skip
              return [← readFlowEntry fuel .flowSequenceEnd]
          else readNode fuel .inFlow
        return item :: (← readFlowItems fuel false)

/-- The entries of a mapping in braces. -/
def readFlowEntries : Nat → Bool → Reads (List (Nat × Nat))
  | 0, _ => refuse
  | fuel + 1, first => do
    if ← skipIf .flowMappingEnd then return []
    else
      if !first then expect .flowEntry
      if ← skipIf .flowMappingEnd then return []
      else
        let entry ←
          if ← skipIf .key then readFlowEntry fuel .flowMappingEnd
          else pure (← readNode fuel .inFlow, ← addEmpty)
        return entry :: (← readFlowEntries fuel false)

end

/-! ## Documents -/

namespace Reader

/-- Passes over the directives before a document, and gives what
shorthands they introduce. There is at most one version, and it is 1. -/
def readDirectives : Nat → Bool → List (Text × Text) → Reads (List (Text × Text))
  | 0, _, handles => return handles
  | fuel + 1, versioned, handles => do
    match ← peek with
    | .versionDirective major =>
      skip
      if versioned ∨ major ≠ 1 then refuse else readDirectives fuel true handles
    | .tagDirective handle start =>
      skip
      if (handles.lookup handle).isSome then refuse
      else readDirectives fuel versioned ((handle, start) :: handles)
    | .otherDirective =>
      skip
      readDirectives fuel versioned handles
    | _ => return handles

/-- The shorthands that every document knows. -/
def standardHandles : List (Text × Text) :=
  [(['!'], ['!']), (['!', '!'], Tag.standard)]

/-- Passes over the end marks of a document. Nothing may follow, and a
second document is refused once its directives have been read. -/
def readEnd : Nat → Reads Unit
  | 0 => refuse
  | fuel + 1 => do
    if ← skipIf .documentEnd then readEnd fuel
    else if ← isAt [.streamEnd] then return
    else
      let _ ← readDirectives fuel false []
      let _ ← peek
      refuse

/-- Whether a token stands before a document rather than in it. -/
def isBeforeDocument : Token → Bool
  | .versionDirective _ | .tagDirective _ _ | .otherDirective | .documentStart => true
  | _ => false

/-- The node of a document that starts with a mark. -/
def readMarked (fuel : Nat) : Reads Nat := do
  let handles ← readDirectives fuel false []
  expect .documentStart
  modify fun r => { r with handles := handles ++ standardHandles }
  let token ← peek
  if isBeforeDocument token || token == .documentEnd || token == .streamEnd then addEmpty
  else readNode fuel .inBlock

/-- The node of a document, if there is one. -/
def readDocument (fuel : Nat) : Reads (Option Nat) := do
  let token ← peek
  if token = .streamEnd then return none
  else
    let root ←
      if isBeforeDocument token then readMarked fuel
      else
        modify fun r => { r with handles := standardHandles }
        readNode fuel .inBlock
    readEnd fuel
    return some root

end Reader

/-- **The nodes of a document** and the one that it is, if there is one.
A character makes no more than four tokens, and a token takes no more
than four steps. -/
def Nodes.ofCursor (c : Cursor) : Except Fault (Nodes × Option Nat) := do
  let fuel := 16 * c.size + 16
  let (root, r) ← (Reader.readDocument fuel).run { lexer := Lexer.atStart c }
  return (r.nodes, root)

end DriftPatch.Yaml
