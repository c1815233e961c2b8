import DriftPatch.Text.Basic

/-!
# A place in a document

The layout of a YAML document matters: a **cursor** is what remains of
the text together with the line and the column it starts at. Lines end at
a line feed, at a next-line character, and at the two Unicode separators;
a byte order mark takes no column.

A text may break off because the rest of its file cannot be read. Where a
text goes wrong by ending too early, that is then what is wrong with it
(`Cursor.refusal`).
-/

namespace DriftPatch.Yaml

/-- **Why a document cannot be read.** Nearly every mistake is of one
kind; the others concern values in a form that promises a meaning they do
not have. -/
inductive Fault where
  /-- The text is no YAML, or holds something other than plain values. -/
  | malformed
  /-- A number or date of the right form that means nothing. -/
  | badValue
  /-- A word marked as a truth value that is none. -/
  | badWord
  /-- An empty text marked as a number. -/
  | emptyNumber
  /-- A text marked as a date that is none. -/
  | badDate
  /-- A mapping marked as a date. -/
  | notDate
  /-- A number beyond those that can be worked with. -/
  | tooLarge
  /-- Mappings that stand for scalars and lead to one another without end. -/
  | tooDeep
  /-- The bytes of the document are no text. -/
  | undecodable
  deriving DecidableEq, Repr

/-- Whether a character ends a line. -/
def isBreak (c : Char) : Bool :=
  c == '\n' || c == '\u0085' || c == '\u2028' || c == '\u2029'

/-- Whether a character is a space, a tab or the end of a line. -/
def isSeparator (c : Char) : Bool :=
  c == ' ' || c == '\t' || isBreak c

/-- Whether a character is a space or the end of a line. -/
def isSpaceOrBreak (c : Char) : Bool :=
  c == ' ' || isBreak c

/-- **What remains of a document**, and where. Columns and lines count
from zero. -/
structure Cursor where
  /-- The remaining text. -/
  rest : Text
  /-- The length of the whole text, which bounds every way through it. -/
  size : Nat
  /-- How many characters have been passed. -/
  index : Nat := 0
  /-- The number of the line. -/
  line : Nat := 0
  /-- The column within the line. -/
  column : Nat := 0
  /-- What is wrong behind the remaining text, if it breaks off there. -/
  after : Option Fault := none
  deriving Repr

namespace Cursor

/-- The cursor at the start of a text, behind which there is possibly
something wrong. -/
def atStart (t : Text) (after : Option Fault) : Cursor :=
  { rest := t, size := t.length, after }

/-- The cursor behind the next character. -/
def next (c : Cursor) : Cursor :=
  match c.rest with
  | [] => c
  | char :: rest =>
    if isBreak char then
      { c with rest, index := c.index + 1, line := c.line + 1, column := 0 }
    else
      let width := if char = '\ufeff' then 0 else 1
      { c with rest, index := c.index + 1, column := c.column + width }

/-- The cursor behind a number of characters. -/
def skip (c : Cursor) : Nat → Cursor
  | 0 => c
  | n + 1 => c.next.skip n

/-- The next character, if there is one. -/
def peek (c : Cursor) : Option Char :=
  c.rest.head?

/-- The character after the next, if there is one. -/
def second (c : Cursor) : Option Char :=
  c.rest.tail.head?

/-- The characters for which `p` holds, and the cursor behind them. -/
def takeWhile (p : Char → Bool) (c : Cursor) : Text × Cursor :=
  let taken := c.rest.takeWhile p
  (taken, c.skip taken.length)

/-- The cursor behind the characters for which `p` holds. -/
def skipWhile (p : Char → Bool) (c : Cursor) : Cursor :=
  (c.takeWhile p).2

/-- The cursor at the end of the line. -/
def skipLine (c : Cursor) : Cursor :=
  c.skipWhile fun char => !isBreak char

/-- Whether the next character satisfies `p`, or there is none. -/
def atEndOr (p : Char → Bool) (c : Cursor) : Bool :=
  c.peek.all p

/-- What is wrong where the text does not go on as it should. -/
def refusal (c : Cursor) : Fault :=
  match c.rest with
  | [] => c.after.getD .malformed
  | _ => .malformed

/-- The text does not break off within the next `count` characters. It may
end there. -/
def mustHold (c : Cursor) (count : Nat) : Except Fault Unit :=
  match c.after with
  | none => .ok ()
  | some fault => if (c.rest.take count).length < count then .error fault else .ok ()

/-- The line break at the cursor and the cursor behind it. The ordinary
breaks count as line feeds; where there is none the text is empty. -/
def takeBreak (c : Cursor) : Text × Cursor :=
  match c.peek with
  | some '\u2028' => (['\u2028'], c.next)
  | some '\u2029' => (['\u2029'], c.next)
  | some char => if isBreak char then (['\n'], c.next) else ([], c)
  | none => ([], c)

/-- Whether the three dashes or dots that bound documents stand here,
on their own. -/
def atBoundary (mark : Char) (c : Cursor) : Bool :=
  match c.rest with
  | x :: y :: z :: rest => x == mark && y == mark && z == mark && rest.head?.all isSeparator
  | _ => false

/-- The text does not break off before it is clear whether three marks
that bound documents stand here. -/
def mustTellBoundary (mark : Char) (c : Cursor) : Except Fault Unit :=
  c.mustHold (if c.rest.take 3 == [mark, mark, mark] then 4 else 3)

/-- Whether either boundary of documents stands here. -/
def atDocumentBoundary (c : Cursor) : Except Fault Bool := do
  c.mustTellBoundary '-'
  c.mustTellBoundary '.'
  return c.atBoundary '-' || c.atBoundary '.'

/-- The cursor behind spaces and comments up to the end of the line. -/
def skipComment (c : Cursor) : Cursor :=
  let c := c.skipWhile (· == ' ')
  if c.peek = some '#' then c.skipLine else c

/-- The cursor behind the rest of a line that holds nothing but spaces
and a comment. -/
def finishLine (c : Cursor) : Except Fault Cursor :=
  let c := c.skipComment
  if c.atEndOr isBreak then .ok c.takeBreak.2 else .error c.refusal

end Cursor

end DriftPatch.Yaml
