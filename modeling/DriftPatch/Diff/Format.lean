import DriftPatch.Diff.Basic
import DriftPatch.Text.Numeral

/-!
# Writing diffs as text

A diff is written as two lines that name the file, then hunk by hunk a
header, the context before the change, the lines removed, the lines
added, and the context after it. The lines are joined by line feeds, and
none follows the last.

Writing fails only where a header would need a number of too many
digits.
-/

namespace DriftPatch

namespace Hunk

/-- The header line of a hunk, with both counts. -/
def headerLine (h : Hunk) : Except Numeral.Error Line := do
  let oldStart ← Numeral.write h.oldStart
  let oldCount ← Numeral.write h.oldCount
  let newStart ← Numeral.write h.newStart
  let newCount ← Numeral.write h.newCount
  return ['@', '@', ' ', '-'] ++ oldStart ++ [','] ++ oldCount
    ++ [' ', '+'] ++ newStart ++ [','] ++ newCount ++ [' ', '@', '@']

/-- The lines under the header: each one marked by its first
character. -/
def bodyLines (h : Hunk) : List Line :=
  h.contextBefore.map (' ' :: ·) ++ h.oldLines.map ('-' :: ·)
    ++ h.newLines.map ('+' :: ·) ++ h.contextAfter.map (' ' :: ·)

/-- The lines of a hunk. -/
def formatLines (h : Hunk) : Except Numeral.Error (List Line) := do
  return (← h.headerLine) :: h.bodyLines

end Hunk

namespace Diff

/-- The two lines that name the file of a diff. -/
def fileLines (path : Text) : List Line :=
  [['-', '-', '-', ' ', 'a', '/'] ++ path, ['+', '+', '+', ' ', 'b', '/'] ++ path]

/-- **The text of a diff.** -/
def format (d : Diff) : Except Numeral.Error Text := do
  let hunks ← d.hunks.mapM Hunk.formatLines
  return Text.ofLines (fileLines d.filePath ++ hunks.flatten)

end Diff

end DriftPatch
