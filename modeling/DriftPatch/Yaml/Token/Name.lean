import DriftPatch.Text.Numeral
import DriftPatch.Yaml.Token.Basic
import DriftPatch.Yaml.Token.Quoted

/-!
# Names, tags and directives

Anchors and references carry a name of letters, digits, dashes and
underscores. A tag is written in full between angles, or as a shorthand
between exclamation marks with the rest of the tag behind it. A line that
starts with a percent sign is a directive for the document to come.
-/

namespace DriftPatch.Yaml.Name

/-- Whether a character may occur in a name. -/
def isNameChar (c : Char) : Bool :=
  ('0' ≤ c && c ≤ '9') || ('A' ≤ c && c ≤ 'Z') || ('a' ≤ c && c ≤ 'z')
    || c == '-' || c == '_'

/-- Whether a character may occur in the written form of a tag. -/
def isTagChar (c : Char) : Bool :=
  isNameChar c || [';', '/', '?', ':', '@', '&', '=', '+', '$', ',', '.', '!', '~', '*',
    '\'', '(', ')', '[', ']', '%'].contains c

/-- Whether a name may end before a character. -/
def endsName (c : Char) : Bool :=
  isSeparator c || ['?', ':', ',', ']', '\x7d', '%', '@', '\x60'].contains c

/-- The name of an anchor or a reference; the cursor stands at the
indicator before it. -/
def scanAnchor (c : Cursor) : Except Fault (Text × Cursor) :=
  let (name, c) := c.next.takeWhile isNameChar
  if name = [] ∨ !c.atEndOr endsName then .error c.refusal else .ok (name, c)

/-! ## Tags -/

/-- The bytes written by percent signs and two digits each, and the
cursor behind them. -/
def escapedBytes : Nat → Cursor → Except Fault (List UInt8 × Cursor)
  | 0, c => .ok ([], c)
  | fuel + 1, c =>
    if c.peek = some '%' then do
      let code ← Quoted.hexNumber 2 c.next
      let (bytes, c) ← escapedBytes fuel (c.skip 3)
      return (UInt8.ofNat code :: bytes, c)
    else .ok ([], c)

/-- The written form of a tag, with its escapes resolved. -/
def tagText : Nat → Text → Cursor → Except Fault (Text × Cursor)
  | 0, done, c => .ok (done, c)
  | fuel + 1, done, c =>
    let (plain, c) := c.takeWhile fun char => isTagChar char && char != '%'
    let done := done ++ plain
    if c.peek = some '%' then do
      let (bytes, c) ← escapedBytes (c.size + 1) c
      c.mustHold 1
      match String.fromUTF8? ⟨bytes.toArray⟩ with
      | none => .error .malformed
      | some s => tagText fuel (done ++ s.toList) c
    else .ok (done, c)

/-- The written form of a tag, which must not be missing. -/
def scanTagText (c : Cursor) : Except Fault (Text × Cursor) := do
  if c.peek.any isTagChar then tagText (c.size + 1) [] c else .error c.refusal

/-- The shorthand of a tag: an exclamation mark, or a name between two of
them. -/
def scanHandle (c : Cursor) : Except Fault (Text × Cursor) :=
  if c.peek = some '!' then
    if c.second = some ' ' then .ok (['!'], c.next)
    else
      let (name, c) := c.next.takeWhile isNameChar
      if c.peek = some '!' then .ok (['!'] ++ name ++ ['!'], c.next) else .error c.refusal
  else .error c.refusal

/-- A tag; the cursor stands at its exclamation mark. -/
def scanTag (c : Cursor) : Except Fault (Token × Cursor) := do
  let (token, c) ←
    match c.second with
    | some '<' => do
      let (suffix, c) ← scanTagText (c.skip 2)
      if c.peek = some '>' then pure (Token.tag none suffix, c.next)
      else .error c.refusal
    | second =>
      if second.all isSeparator then pure (Token.tag none ['!'], c.next)
      else do
        let behind := c.next.skipWhile fun char => !isSpaceOrBreak char && char != '!'
        behind.mustHold 1
        let (handle, c) ← if behind.peek = some '!' then scanHandle c else .ok (['!'], c.next)
        let (suffix, c) ← scanTagText c
        pure (Token.tag (some handle) suffix, c)
  if c.atEndOr isSpaceOrBreak then return (token, c) else .error c.refusal

/-! ## Directives -/

/-- A number in a directive. -/
def scanNumber (c : Cursor) : Except Fault (Nat × Cursor) := do
  let (digits, c) := c.takeWhile Text.isAsciiDigit
  c.mustHold 1
  if digits = [] then throw .malformed
  match Numeral.read digits with
  | .ok n => return (n, c)
  | .error .tooLong => throw .badValue

/-- The major number of the version in a directive. -/
def scanVersion (c : Cursor) : Except Fault (Token × Cursor) := do
  let (major, c) ← scanNumber (c.skipWhile (· == ' '))
  if c.peek = some '.' then
    let (_, c) ← scanNumber c.next
    if c.atEndOr isSpaceOrBreak then return (.versionDirective major, c)
    else .error c.refusal
  else .error c.refusal

/-- The shorthand that a directive introduces and what it stands for. -/
def scanShorthand (c : Cursor) : Except Fault (Token × Cursor) := do
  let (handle, c) ← scanHandle (c.skipWhile (· == ' '))
  if c.peek = some ' ' then
    let (start, c) ← scanTagText (c.skipWhile (· == ' '))
    if c.atEndOr isSpaceOrBreak then return (.tagDirective handle start, c)
    else .error c.refusal
  else .error c.refusal

/-- A directive; the cursor stands at its percent sign. -/
def scanDirective (c : Cursor) : Except Fault (Token × Cursor) := do
  let (name, c) := c.next.takeWhile isNameChar
  if name = [] ∨ !c.atEndOr isSpaceOrBreak then .error c.refusal
  else
    let (token, c) ←
      if name = ['Y', 'A', 'M', 'L'] then scanVersion c
      else if name = ['T', 'A', 'G'] then scanShorthand c
      else .ok (.otherDirective, c.skipLine)
    return (token, ← c.finishLine)

end DriftPatch.Yaml.Name
