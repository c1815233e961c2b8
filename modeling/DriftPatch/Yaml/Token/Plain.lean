import DriftPatch.Yaml.Token.Basic

/-!
# Plain scalars

A scalar without quotes reaches as far as nothing in it looks like
structure: up to a colon followed by a blank, a comment after a space, an
indicator of a flow collection if it stands within one, or a line that is
indented less than the scalar may be. Line ends within it are folded into
spaces. Tabs end it.
-/

namespace DriftPatch.Yaml.Plain

/-- Whether a character ends a plain scalar within a flow collection. -/
def isFlowIndicator (c : Char) : Bool :=
  c == ',' || c == '?' || c == '[' || c == ']' || c == '\x7b' || c == '\x7d'

/-- Whether a colon before the given character ends a plain scalar. -/
def endsKey (inFlow : Bool) : Option Char → Bool
  | none => true
  | some c => isSeparator c || (inFlow && c != '?' && isFlowIndicator c)

/-- The part of a plain scalar up to the next blank. -/
def run (inFlow : Bool) : Text → Text
  | [] => []
  | c :: rest =>
    if isSeparator c || (c == ':' && endsKey inFlow rest.head?)
        || (inFlow && isFlowIndicator c) then []
    else c :: run inFlow rest

/-- The line breaks after the first one of a fold, last one first, with the
spaces that indent the lines dropped; nothing where a document boundary
follows. -/
def moreBreaks : Nat → Text → Cursor → Except Fault (Option Text × Cursor)
  | 0, breaks, c => .ok (some breaks, c)
  | fuel + 1, breaks, c =>
    match c.peek with
    | none => .ok (some breaks, c)
    | some char =>
      if char = ' ' then moreBreaks fuel breaks c.next
      else if isBreak char then do
        let (taken, c) := c.takeBreak
        if ← c.atDocumentBoundary then return (none, c)
        moreBreaks fuel (taken ++ breaks) c
      else .ok (some breaks, c)

/-- What the line breaks between two parts of a scalar are folded to: one
break becomes a space and the first of several disappears. -/
def fold (first more : Text) : Text :=
  if first = ['\n'] then (if more = [] then [' '] else more) else first ++ more

/-- What stands between two parts of a plain scalar, whether a line ends
there, and the cursor behind it. -/
def gap (c : Cursor) : Except Fault (Text × Bool × Cursor) := do
  let (spaces, c) := c.takeWhile (· == ' ')
  if c.peek.any isBreak then
    let (first, c) := c.takeBreak
    if ← c.atDocumentBoundary then return ([], true, c)
    match ← moreBreaks (c.size + 1) [] c with
    | (none, c) => return ([], true, c)
    | (some more, c) => return (fold first more.reverse, true, c)
  else return (spaces, false, c)

/-- The rest of a plain scalar whose first parts are `done`, last
character first, and are followed by `between`. -/
def parts (inFlow : Bool) (indent : Int) :
    Nat → (done between : Text) → Bool → Cursor → Except Fault (Text × Bool × Cursor)
  | 0, done, _, crossed, c => .ok (done, crossed, c)
  | fuel + 1, done, between, crossed, c => do
    if c.peek = some '#' then return (done, crossed, c)
    let part := run inFlow c.rest
    let behind := c.skip part.length
    if behind.peek = some ':' then behind.mustHold 2
    if part = [] then return (done, crossed, c)
    let done := part.reverseAux (between.reverseAux done)
    let (between, crossed, c) ← gap behind
    if between = [] ∨ c.peek = some '#' ∨ (!inFlow ∧ (c.column : Int) < indent) then
      return (done, crossed, c)
    parts inFlow indent fuel done between crossed c

/-- **A plain scalar**, whether a line ends behind it, and the cursor
behind it. -/
def scan (inFlow : Bool) (indent : Int) (crossed : Bool) (c : Cursor) :
    Except Fault (Text × Bool × Cursor) := do
  let (done, crossed, c) ← parts inFlow indent (c.size + 1) [] [] crossed c
  return (done.reverse, crossed, c)

end DriftPatch.Yaml.Plain
