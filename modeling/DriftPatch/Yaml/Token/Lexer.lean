import DriftPatch.Yaml.Token.Block
import DriftPatch.Yaml.Token.Name

/-!
# From text to tokens

Most tokens are told by their first character. Three things need memory:
the indents of the open collections, the depth of brackets and braces,
and the places where a key may have started.

A key on one line is not announced: it shows by the colon behind it. So
wherever one may start its place is noted, one place for each depth of
brackets, and when the colon comes the tokens that start the key are put
in there. A place is forgotten when its line ends, and after 1024
characters; if the layout required a key there, that is a mistake.

Tokens are read no further ahead than that takes: the next token is known
as soon as it cannot start a key any more (`Lexer.ready`). So what is
wrong further on is not met before what stands here has been used.
-/

namespace DriftPatch.Yaml

/-- A place where a key may have started. -/
structure KeyPlace where
  /-- The number of tokens before it, from the start of the document. -/
  tokens : Nat
  /-- Whether the layout requires a key here. -/
  required : Bool
  /-- Where it stands. -/
  place : Cursor

/-- **The state of reading tokens.** -/
structure Lexer where
  /-- What remains of the text. -/
  cursor : Cursor
  /-- The tokens read and not yet taken, in order. -/
  waiting : List Token := []
  /-- How many tokens have been taken. -/
  taken : Nat := 0
  /-- Whether the end of the text has been read. -/
  finished : Bool := false
  /-- The depth of brackets and braces. -/
  depth : Nat := 0
  /-- The indent of the innermost indented collection. -/
  indent : Int := -1
  /-- The indents of the collections around it. -/
  outerIndents : List Int := []
  /-- Whether a key may start here. -/
  keyAllowed : Bool := true
  /-- The places where a key may have started, by the depth of
  brackets. -/
  places : List (Nat × KeyPlace) := []

namespace Lexer

/-- The state with another token read. -/
def push (s : Lexer) (t : Token) : Lexer :=
  { s with waiting := s.waiting ++ [t] }

/-- How many tokens have been read. -/
def count (s : Lexer) : Nat :=
  s.taken + s.waiting.length

/-- The state with a token put in after the first `count` ones of the
document. -/
def putIn (s : Lexer) (count : Nat) (t : Token) : Lexer :=
  let earlier := count - s.taken
  { s with waiting := s.waiting.take earlier ++ t :: s.waiting.drop earlier }

/-- The state with a one-character token read. -/
def pushChar (s : Lexer) (t : Token) : Lexer :=
  { s.push t with cursor := s.cursor.next }

/-! ## Places of keys -/

/-- Whether the place of a key is out of reach of the cursor. -/
def isStale (s : Lexer) (p : KeyPlace) : Bool :=
  p.place.line != s.cursor.line || 1024 < s.cursor.index - p.place.index

/-- The state with the places forgotten that are out of reach. -/
def forgetStale (s : Lexer) : Except Fault Lexer :=
  if s.places.any fun (_, p) => s.isStale p && p.required then .error .malformed
  else .ok { s with places := s.places.filter fun (_, p) => !s.isStale p }

/-- The state with the place at this depth forgotten. -/
def forgetPlace (s : Lexer) : Except Fault Lexer :=
  if (s.places.lookup s.depth).any (·.required) then .error .malformed
  else .ok { s with places := s.places.filter fun (depth, _) => depth != s.depth }

/-- The state with this place noted, if a key may start here. -/
def notePlace (s : Lexer) : Except Fault Lexer := do
  if s.keyAllowed then
    let required := s.depth == 0 && s.indent == (s.cursor.column : Int)
    let s ← s.forgetPlace
    return { s with places := (s.depth, ⟨s.count, required, s.cursor⟩) :: s.places }
  else return s

/-! ## Indents -/

/-- The state with the collections closed that are indented more than a
column, innermost first. -/
def unwindTo (column : Int) : List Int → Lexer → Lexer
  | outer :: rest, s =>
    if s.depth = 0 ∧ column < s.indent then
      unwindTo column rest { s.push .blockEnd with indent := outer, outerIndents := rest }
    else s
  | [], s => s

/-- The state with the collections closed that are indented more than a
column. -/
def unwind (s : Lexer) (column : Int) : Lexer :=
  unwindTo column s.outerIndents s

/-- The state with an indented collection opened at a column, if it is
indented more than the one around it, and whether it is. -/
def openIndent (s : Lexer) (column : Nat) : Lexer × Bool :=
  if s.indent < column then
    ({ s with indent := column, outerIndents := s.indent :: s.outerIndents }, true)
  else (s, false)

/-! ## Reading one token -/

/-- The cursor at the next token, and whether a line ends before it. -/
def toNextToken : Nat → Bool → Cursor → Cursor × Bool
  | 0, crossed, c => (c, crossed)
  | fuel + 1, crossed, c =>
    let c := c.skipComment
    if c.peek.any isBreak then toNextToken fuel true c.takeBreak.2 else (c, crossed)

/-- The state at the next token: behind blanks, comments and line ends. A
key may start after the end of a line, except within brackets. -/
def skipToToken (s : Lexer) : Lexer :=
  let c := s.cursor
  let c := if c.index = 0 ∧ c.peek = some '\ufeff' then c.next else c
  let (c, crossed) := toNextToken (c.size + 1) false c
  { s with cursor := c, keyAllowed := s.keyAllowed || (crossed && s.depth == 0) }

/-- The end of the text. -/
def atEnd (s : Lexer) : Except Fault Lexer := do
  let s ← (s.unwind (-1)).forgetPlace
  return { s.push .streamEnd with keyAllowed := false, places := [], finished := true }

/-- A directive. -/
def directive (s : Lexer) : Except Fault Lexer := do
  let s ← (s.unwind (-1)).forgetPlace
  let (token, cursor) ← Name.scanDirective s.cursor
  return { s.push token with cursor, keyAllowed := false }

/-- The boundary of a document. -/
def boundary (s : Lexer) (t : Token) : Except Fault Lexer := do
  let s ← (s.unwind (-1)).forgetPlace
  return { s.push t with cursor := s.cursor.skip 3, keyAllowed := false }

/-- An opening bracket or brace. -/
def openFlow (s : Lexer) (t : Token) : Except Fault Lexer := do
  let s ← s.notePlace
  return { s.pushChar t with depth := s.depth + 1, keyAllowed := true }

/-- A closing bracket or brace. -/
def closeFlow (s : Lexer) (t : Token) : Except Fault Lexer := do
  let s ← s.forgetPlace
  return { s.pushChar t with depth := s.depth - 1, keyAllowed := false }

/-- A comma within brackets. -/
def flowEntry (s : Lexer) : Except Fault Lexer := do
  let s ← s.forgetPlace
  return { s.pushChar .flowEntry with keyAllowed := true }

/-- The state with a collection opened by an indicator at the cursor,
which outside brackets may only stand where a key may. -/
def openByIndicator (s : Lexer) (start : Token) : Except Fault Lexer :=
  if s.depth != 0 then .ok s
  else if !s.keyAllowed then .error .malformed
  else
    let (s, opened) := s.openIndent s.cursor.column
    .ok (if opened then s.push start else s)

/-- The dash of an item. -/
def blockEntry (s : Lexer) : Except Fault Lexer := do
  let s ← s.openByIndicator .blockSequenceStart
  let s ← s.forgetPlace
  return { s.pushChar .blockEntry with keyAllowed := true }

/-- The question mark of a key. -/
def explicitKey (s : Lexer) : Except Fault Lexer := do
  let s ← s.openByIndicator .blockMappingStart
  let s ← s.forgetPlace
  return { s.pushChar .key with keyAllowed := s.depth == 0 }

/-- The colon of a value. It makes a key of what was noted at this
depth; where nothing was noted it belongs to a key announced by a
question mark. -/
def value (s : Lexer) : Except Fault Lexer := do
  match s.places.lookup s.depth with
  | some p =>
    let s := { s with places := s.places.filter fun (depth, _) => depth != s.depth }
    let s := s.putIn p.tokens .key
    let s :=
      if s.depth = 0 then
        let (s, opened) := s.openIndent p.place.column
        if opened then s.putIn p.tokens .blockMappingStart else s
      else s
    return { s.pushChar .value with keyAllowed := false }
  | none =>
    let s ← s.openByIndicator .blockMappingStart
    let s ← s.forgetPlace
    return { s.pushChar .value with keyAllowed := s.depth == 0 }

/-- A token that may start a key, read by `scan`. -/
def keyToken (s : Lexer) (scan : Cursor → Except Fault (Token × Cursor)) :
    Except Fault Lexer := do
  let s ← s.notePlace
  let (token, cursor) ← scan s.cursor
  return { s.push token with cursor, keyAllowed := false }

/-- A scalar within quotes. -/
def quoted (s : Lexer) : Except Fault Lexer :=
  s.keyToken fun c => do
    let (content, c) ← Quoted.scan c
    return (.scalar content false, c)

/-- A scalar indented as a block. -/
def block (s : Lexer) : Except Fault Lexer := do
  let s ← s.forgetPlace
  let (content, cursor) ← Block.scan s.indent s.cursor
  return { s.push (.scalar (.text content) false) with cursor, keyAllowed := true }

/-- A plain scalar. A key may start behind it if a line ends there. -/
def plain (s : Lexer) : Except Fault Lexer := do
  let s ← s.notePlace
  let (content, crossed, cursor) ←
    Plain.scan (s.depth != 0) (s.indent + 1) false s.cursor
  return { s.push (.scalar (.text content) true) with cursor, keyAllowed := crossed }

/-- Whether a character cannot start a plain scalar by itself. -/
def isIndicator (c : Char) : Bool :=
  isSeparator c || ['-', '?', ':', ',', '[', ']', '\x7b', '\x7d', '#', '&', '*', '!', '|',
    '>', '\'', '"', '%', '@', '\x60'].contains c

/-- Whether a plain scalar may start with a character that is followed by
the rest of the text at the cursor. -/
def startsPlain (s : Lexer) (char : Char) : Bool :=
  let beforeText := s.cursor.second.any fun c => !isSeparator c
  !isIndicator char
    || (beforeText && (char == '-' || (s.depth == 0 && (char == '?' || char == ':'))))

/-- The text does not break off before it is clear what kind of token
starts with a character. -/
def mustTellKind (s : Lexer) (char : Char) : Except Fault Unit := do
  if s.cursor.column = 0 ∧ (char = '-' ∨ char = '.') then s.cursor.mustTellBoundary char
  if char = '-' ∨ (s.depth = 0 ∧ (char = '?' ∨ char = ':')) then s.cursor.mustHold 2

/-- The next token, by its first character. -/
def readToken (s : Lexer) (char : Char) : Except Fault Lexer :=
  let atStart := s.cursor.column == 0
  let aside := s.cursor.second.all isSeparator
  let inFlow := s.depth != 0
  if char = '%' ∧ atStart then s.directive
  else if atStart ∧ s.cursor.atBoundary '-' then s.boundary .documentStart
  else if atStart ∧ s.cursor.atBoundary '.' then s.boundary .documentEnd
  else if char = '[' then s.openFlow .flowSequenceStart
  else if char = '\x7b' then s.openFlow .flowMappingStart
  else if char = ']' then s.closeFlow .flowSequenceEnd
  else if char = '\x7d' then s.closeFlow .flowMappingEnd
  else if char = ',' then s.flowEntry
  else if char = '-' ∧ aside then s.blockEntry
  else if char = '?' ∧ (inFlow ∨ aside) then s.explicitKey
  else if char = ':' ∧ (inFlow ∨ aside) then s.value
  else if char = '*' then
    s.keyToken fun c => return ((← Name.scanAnchor c).map .alias id)
  else if char = '&' then
    s.keyToken fun c => return ((← Name.scanAnchor c).map .anchor id)
  else if char = '!' then s.keyToken Name.scanTag
  else if char = '|' ∧ !inFlow then s.block
  else if char = '>' ∧ !inFlow then s.block
  else if char = '\'' ∨ char = '"' then s.quoted
  else do
    if isIndicator char then s.cursor.mustHold 2
    if s.startsPlain char then s.plain else throw .malformed

/-- The state with the next token read. Where the text breaks off, what
stands in front of the break is not complete. -/
def step (s : Lexer) : Except Fault Lexer := do
  let s := s.skipToToken
  s.cursor.mustHold 1
  let s ← s.forgetStale
  let s := s.unwind s.cursor.column
  match s.cursor.peek with
  | none => s.atEnd
  | some char =>
    s.mustTellKind char
    let s ← s.readToken char
    s.cursor.mustHold 1
    return s

/-- Whether more has to be read before the next token is known: it is not
read yet, or a key may start with it. -/
def needsMore (s : Lexer) : Bool :=
  !s.finished && (s.waiting.isEmpty || s.places.any fun (_, p) => p.tokens == s.taken)

/-- The state with tokens read until the next one is known. Every token
takes at least one character. -/
def readyWithin : Nat → Lexer → Except Fault Lexer
  | 0, s => .ok s
  | fuel + 1, s => do
    let s ← if s.finished || s.waiting.isEmpty then pure s else s.forgetStale
    if s.needsMore then readyWithin fuel (← s.step) else return s

/-- The state in which the next token is known. -/
def ready (s : Lexer) : Except Fault Lexer :=
  readyWithin (s.cursor.size + 2) s

/-- The next token, in a state in which it is known. -/
def next (s : Lexer) : Token :=
  s.waiting.headD .streamEnd

/-- The state behind the next token. -/
def take (s : Lexer) : Lexer :=
  { s with waiting := s.waiting.tail, taken := s.taken + 1 }

/-- The state at the start of a text. -/
def atStart (c : Cursor) : Lexer :=
  { cursor := c }

end Lexer

end DriftPatch.Yaml
