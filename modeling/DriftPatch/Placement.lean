import DriftPatch.Hunk
import DriftPatch.Text.Blank

/-!
# Placing a hunk in a text

The text to change may have drifted from the one a hunk was made for.
Three strategies look for the lines to remove, and the first that finds
them places the hunk.

* **Positional**: the lines stand where the header says, blanks at their
  ends aside. A header may or may not count the context before the change
  into its line number, so both places are tried.
* **Substring**: the lines, joined, occur in the text as they are. The
  first occurrence is replaced, wherever in the text it is.
* **Normalized**: the lines stand somewhere, blanks at their ends aside.
  What replaces them takes on the indent found there.

A hunk that removes nothing is placed by its position alone. A hunk that
cannot be placed leaves the text as it was; the failure shows the first
of the lines that were looked for.
-/

namespace DriftPatch

/-- **How a hunk was located.** -/
inductive Strategy where
  /-- By the line number of its header. -/
  | positional
  /-- By its lines, joined, as they are. -/
  | substring
  /-- By its lines, blanks at their ends aside. -/
  | normalized
  deriving DecidableEq, Repr

/-- How much of the lines looked for a failure shows. -/
structure Excerpt where
  /-- How many lines; a negative number counts from the end. -/
  lines : Int := 3
  /-- How many characters of a line; nothing is cut unless it is
  positive. -/
  width : Int := 120
  deriving DecidableEq, Repr

/-- **A hunk that could not be placed.** -/
structure Failure where
  /-- The first of the lines looked for, cut to measure. -/
  expected : List Line := []
  /-- The name of the hunk. -/
  hunkId : HunkId
  /-- The place of the hunk in its list, where there is one. -/
  hunkIndex : Option Nat := none
  deriving DecidableEq, Repr

/-- **What came of applying hunks to a text.** -/
structure Outcome where
  /-- The text afterwards. -/
  content : Text
  /-- How the hunks were located, in order. -/
  strategies : List Strategy := []
  /-- The hunk that could not be placed, if there is one. -/
  failure : Option Failure := none
  deriving DecidableEq, Repr

/-- The sentence that reports the failure. -/
def Failure.message (f : Failure) : Text :=
  "Could not locate code to replace. Expected:\n".toList ++ Text.ofLines f.expected
    ++ ['.', '.', '.']

namespace Outcome

/-- Whether every hunk was placed. -/
def ok (o : Outcome) : Bool :=
  o.failure.isNone

/-- How the last hunk that was placed was located. -/
def strategy (o : Outcome) : Option Strategy :=
  o.strategies.getLast?

end Outcome

/-! ## Windows of lines -/

/-- Whether two lists of lines agree when blanks at the ends of lines are
set aside. -/
def sameStripped (ls ms : List Line) : Bool :=
  ls.map Text.strip == ms.map Text.strip

/-- The `width` lines of a text from the one with index `start` on. -/
def window (lines : List Line) (start width : Nat) : List Line :=
  (lines.drop start).take width

/-- Whether the lines `wanted` stand at an index of a text, blanks at the
ends of lines aside. They have to fit between its ends. -/
def standsAt (wanted lines : List Line) (start : Int) : Bool :=
  decide (0 ≤ start) && decide (start + wanted.length ≤ lines.length)
    && sameStripped (window lines start.toNat wanted.length) wanted

/-- The text in which `width` lines from an index on are replaced. -/
def splice (lines : List Line) (start width : Nat) (replacement : List Line) : Text :=
  Text.ofLines (lines.take start ++ replacement ++ lines.drop (start + width))

namespace Hunk

/-! ## The three strategies -/

/-- The indices at which a hunk may stand by its header, when hunks
placed before it have shifted the text by `offset` lines. The second one
lies behind the context. A hunk that removes nothing stands at the top of
the text at the earliest. -/
def anchors (h : Hunk) (offset : Int) : List Int :=
  let anchor := h.oldStart - 1 + offset
  if h.oldLines = [] then [max anchor 0]
  else if h.contextBefore = [] then [anchor]
  else [anchor, anchor + h.contextBefore.length]

/-- The text with the hunk placed by its header. -/
def placePositional? (h : Hunk) (offset : Int) (lines : List Line) : Option Text :=
  ((h.anchors offset).find? (standsAt h.oldLines lines)).map fun start =>
    splice lines start.toNat h.oldLines.length h.newLines

/-- The text with the hunk placed at the first occurrence of its
lines. -/
def placeSubstring? (h : Hunk) (content : Text) : Option Text :=
  let needle := Text.ofLines h.oldLines
  if needle = [] then none
  else (Text.cut? needle content).map fun (head, rest) =>
    head ++ Text.ofLines h.newLines ++ rest

/-- A line with another indent. -/
def reindent (indent : Text) (line : Line) : Line :=
  indent ++ line.stripLeft

/-- The text with the hunk placed at the first lines that agree with the
lines removed, blanks aside. -/
def placeNormalized? (h : Hunk) (lines : List Line) : Option Text :=
  if h.oldLines = [] then none
  else
    ((List.range lines.length).find? fun start : Nat =>
        standsAt h.oldLines lines (start : Int)).map fun start =>
      let indent := Text.indent (lines[start]?.getD [])
      splice lines start h.oldLines.length (h.newLines.map (reindent indent))

/-- The text with the hunk placed, and how, by the first strategy that
finds a place. -/
def place? (h : Hunk) (offset : Int) (content : Text) : Option (Strategy × Text) :=
  match h.placePositional? offset content.lines with
  | some text => some (.positional, text)
  | none =>
    match h.placeSubstring? content with
    | some text => some (.substring, text)
    | none => (h.placeNormalized? content.lines).map (.normalized, ·)

end Hunk

/-! ## The result -/

namespace Excerpt

/-- The first lines of a list, as many as `count` says. A negative count
leaves that many lines out at the end. -/
def firstLines (count : Int) (ls : List Line) : List Line :=
  if 0 ≤ count then ls.take count.toNat else ls.take (ls.length - count.natAbs)

/-- A line of at most `width` characters, as far as three dots leave room
for that: the end of a longer line gives way to them. -/
def truncate (width : Int) (line : Line) : Line :=
  if width ≤ 0 ∨ line.length ≤ width then line
  else line.take (width - 3).toNat ++ ['.', '.', '.']

/-- The part of some lines that is shown. -/
def of (e : Excerpt) (ls : List Line) : List Line :=
  (firstLines e.lines ls).map (truncate e.width)

end Excerpt

namespace Hunk

/-- The report that a hunk could not be placed. -/
def failure (h : Hunk) (excerpt : Excerpt) : Failure :=
  { expected := excerpt.of h.oldLines, hunkId := h.id }

/-- **Applying a hunk** to a text that was shifted by `offset` lines. A
hunk that changes nothing always succeeds and needs no place. -/
def applyTo (h : Hunk) (excerpt : Excerpt) (offset : Int) (content : Text) : Outcome :=
  if h.hasBody then
    match h.place? offset content with
    | some (strategy, text) => { content := text, strategies := [strategy] }
    | none => { content, failure := some (h.failure excerpt) }
  else { content }

end Hunk

end DriftPatch
