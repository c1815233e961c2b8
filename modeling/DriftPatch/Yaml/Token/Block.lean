import DriftPatch.Yaml.Token.Plain

/-!
# Block scalars

A scalar that is written as a block of indented lines, after a bar or an
angle. After a bar the lines stay as they are; after an angle they are
folded, except around lines that are indented further. A sign says
whether the line ends at the end of the block stay, and a digit how far
the block is indented; without one the first line that is not empty
decides.
-/

namespace DriftPatch.Yaml.Block

/-- What stands behind the bar or the angle. -/
structure Style where
  /-- Whether all line ends at the end stay, or none; without a sign, one
  stays. -/
  keep : Option Bool := none
  /-- By how much the block is indented, where that is said. -/
  increment : Option Nat := none

/-- Whether the line ends at the end stay, by the sign at the cursor. -/
def sign? (c : Cursor) : Option Bool :=
  match c.peek with
  | some '+' => some true
  | some '-' => some false
  | _ => none

/-- The digit at the cursor. -/
def digit? (c : Cursor) : Option Nat :=
  c.peek.bind fun char =>
    if '0' ≤ char ∧ char ≤ '9' then some (char.toNat - '0'.toNat) else none

/-- The sign and the digit behind the bar or the angle, in either
order. -/
def style (c : Cursor) : Except Fault (Style × Cursor) := do
  let (keep, increment, c) :=
    match sign? c with
    | some keep =>
      match digit? c.next with
      | some n => (some keep, some n, c.skip 2)
      | none => (some keep, none, c.next)
    | none =>
      match digit? c with
      | some n =>
        match sign? c.next with
        | some keep => (some keep, some n, c.skip 2)
        | none => (none, some n, c.next)
      | none => (none, none, c)
  if increment = some 0 ∨ !c.atEndOr isSpaceOrBreak then .error .malformed
  else return ({ keep, increment }, c)

/-- The line breaks at the front of a block whose indent is not known, last
one first, and the largest indent met among them. -/
def leadingBreaks : Nat → (breaks : Text) → (widest : Nat) → Cursor → Text × Nat × Cursor
  | 0, breaks, widest, c => (breaks, widest, c)
  | fuel + 1, breaks, widest, c =>
    match c.peek with
    | none => (breaks, widest, c)
    | some char =>
      if char = ' ' then
        leadingBreaks fuel breaks (max widest c.next.column) c.next
      else if isBreak char then
        let (taken, c) := c.takeBreak
        leadingBreaks fuel (taken ++ breaks) widest c
      else (breaks, widest, c)

/-- The cursor behind spaces, as far as the indent of the block. -/
def skipIndent (indent : Nat) : Nat → Cursor → Cursor
  | 0, c => c
  | fuel + 1, c =>
    if c.column < indent ∧ c.peek = some ' ' then skipIndent indent fuel c.next else c

/-- The line breaks between two lines of a block, last one first, with the
indent of the lines dropped. -/
def breaksBetween (indent : Nat) : Nat → Text → Cursor → Text × Cursor
  | 0, breaks, c => (breaks, c)
  | fuel + 1, breaks, c =>
    let c := skipIndent indent indent c
    if c.peek.any isBreak then
      let (taken, c) := c.takeBreak
      breaksBetween indent fuel (taken ++ breaks) c
    else (breaks, c)

/-- Whether a line of the block goes on at the cursor. -/
def continues (indent : Nat) (c : Cursor) : Bool :=
  c.column == indent && c.peek.isSome

/-- Whether the line at the cursor starts with a blank. -/
def startsBlank (c : Cursor) : Bool :=
  c.peek.any fun char => char == ' ' || char == '\t'

/-- The text of a block from the cursor on, behind what has been read, the
last line end, and the line breaks behind it, each of them last character
first. The breaks before the cursor come first. -/
def blockLines (folded : Bool) (indent : Nat) :
    Nat → (done breaks : Text) → Cursor → Text × Text × Text × Cursor
  | 0, done, breaks, c => (done, [], breaks, c)
  | fuel + 1, done, breaks, c =>
    let indented := startsBlank c
    let (line, c) := c.takeWhile fun char => !isBreak char
    let done := line.reverseAux (breaks ++ done)
    let (ending, c) := c.takeBreak
    let (breaks, c) := breaksBetween indent (c.size + 1) [] c
    if continues indent c then
      let joint :=
        if folded && ending == ['\n'] && !indented && !startsBlank c then
          (if breaks = [] then [' '] else [])
        else ending
      blockLines folded indent fuel (joint ++ done) breaks c
    else (done, ending, breaks, c)

/-- **A block scalar** and the cursor behind it; the cursor stands at the
bar or the angle, in a collection with the given indent. -/
def scan (outer : Int) (c : Cursor) : Except Fault (Text × Cursor) := do
  let folded := c.peek = some '>'
  let (style, c) ← style c.next
  let c ← c.finishLine
  let least := max 1 (outer + 1).toNat
  let fuel := c.size + 1
  let (breaks, indent, c) :=
    match style.increment with
    | none =>
      let (breaks, widest, c) := leadingBreaks fuel [] 0 c
      (breaks, max least widest, c)
    | some n =>
      let (breaks, c) := breaksBetween (least + n - 1) fuel [] c
      (breaks, least + n - 1, c)
  let (content, ending, breaks, c) :=
    if continues indent c then blockLines folded indent fuel [] breaks c
    else ([], [], breaks, c)
  return (match style.keep with
    | none => (ending ++ content).reverse
    | some true => (breaks ++ ending ++ content).reverse
    | some false => content.reverse, c)

end DriftPatch.Yaml.Block
