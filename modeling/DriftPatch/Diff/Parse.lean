import DriftPatch.Diff.Header
import DriftPatch.Diff.Path

/-!
# Reading diff text

Diff text is read line by line, and a line's first character says what it
is: a hunk header, a line removed, a line added, a line of context, or
nothing that concerns a diff. A hunk reaches from its header to the next
one; what stands before the first header belongs to no hunk.

Within a hunk the lines removed and the lines added are collected in
order. A line of context belongs before the change as long as no line was
removed or added, and after it from then on. A line that is quite empty
counts as an empty line of context.

Every text can be read, except one with a header that has a number of
too many digits.
-/

namespace DriftPatch

/-- **A line of diff text**, by what it means. -/
inductive DiffLine where
  /-- The header of a hunk. -/
  | header (header : Header)
  /-- A line of the old text that the new one lacks. -/
  | removed (line : Line)
  /-- A line of the new text that the old one lacks. -/
  | added (line : Line)
  /-- A line of both texts. -/
  | context (line : Line)
  /-- Anything else. -/
  | other
  deriving DecidableEq, Repr

/-- The body of a hunk: what stands between its header and the next. -/
structure HunkBody where
  /-- The lines removed. -/
  oldLines : List Line := []
  /-- The lines added. -/
  newLines : List Line := []
  /-- The context before the first changed line. -/
  contextBefore : List Line := []
  /-- The context after it. -/
  contextAfter : List Line := []
  deriving DecidableEq, Repr

namespace DiffLine

/-- What a line that is no header means. -/
def ofBody : Line → DiffLine
  | '-' :: line => .removed line
  | '+' :: line => .added line
  | ' ' :: line => .context line
  | [] => .context []
  | _ => .other

/-- What a line of diff text means. -/
def read (line : Line) : Except Numeral.Error DiffLine :=
  match Header.written? line with
  | some written => written.read.map .header
  | none => .ok (ofBody line)

end DiffLine

namespace HunkBody

/-- The body with all of its context after the change, as it is once a
changed line stands in front. -/
def behindChange (b : HunkBody) : HunkBody :=
  { b with contextBefore := [], contextAfter := b.contextBefore ++ b.contextAfter }

/-- The body with a line removed in front. -/
def consRemoved (line : Line) (b : HunkBody) : HunkBody :=
  { b.behindChange with oldLines := line :: b.oldLines }

/-- The body with a line added in front. -/
def consAdded (line : Line) (b : HunkBody) : HunkBody :=
  { b.behindChange with newLines := line :: b.newLines }

/-- The body with a line of context in front. -/
def consContext (line : Line) (b : HunkBody) : HunkBody :=
  { b with contextBefore := line :: b.contextBefore }

/-- The hunk with a given header and body. -/
def toHunk (header : Header) (b : HunkBody) : Hunk where
  oldStart := header.oldStart
  oldCount := header.oldCount
  newStart := header.newStart
  newCount := header.newCount
  oldLines := b.oldLines
  newLines := b.newLines
  contextBefore := b.contextBefore
  contextAfter := b.contextAfter

end HunkBody

namespace Diff

/-- The lines of diff text: carriage returns before line feeds do not
count, and neither does an empty line at the very end. -/
def textLines (text : Text) : List Line :=
  let lines := (Text.foldLineEnds text).lines
  if lines.getLast? = some [] then lines.dropLast else lines

/-- The body that stands before the first header, and the hunks from
there on. -/
def gather : List DiffLine → HunkBody × List Hunk
  | [] => ({}, [])
  | line :: rest =>
    let (body, hunks) := gather rest
    match line with
    | .header header => ({}, body.toHunk header :: hunks)
    | .removed line => (body.consRemoved line, hunks)
    | .added line => (body.consAdded line, hunks)
    | .context line => (body.consContext line, hunks)
    | .other => (body, hunks)

/-- **The hunks of diff text**, in order. -/
def parseHunks (text : Text) : Except Numeral.Error (List Hunk) := do
  let lines ← (textLines text).mapM DiffLine.read
  return (gather lines).2

/-- **The diff that a text describes.** A text without a header describes
an empty diff. -/
def parse (text : Text) : Except Numeral.Error Diff := do
  let hunks ← parseHunks text
  let path := extractPath text
  return { filePath := path, hunks, language := Language.detect [] path }

end Diff

end DriftPatch
