import DriftPatch.Hunk
import DriftPatch.Language

/-!
# Diffs

A **diff** is the patch of one file: the file's path, its hunks in order,
and the language under which to show it. A diff that was found by
comparing two texts also carries both of them; one that was read from
diff text has no texts to carry and leaves them empty.
-/

namespace DriftPatch

/-- The path of a diff that names none. -/
def Diff.unknownPath : Text := "unknown".toList

/-- **The patch of one file.** -/
structure Diff where
  /-- The path of the file. -/
  filePath : Text := Diff.unknownPath
  /-- The changes, in order. -/
  hunks : List Hunk := []
  /-- The text before the change, where it is known. -/
  oldContent : Text := []
  /-- The text after the change, where it is known. -/
  newContent : Text := []
  /-- The language tag of the file. -/
  language : Text := Language.plainText
  deriving DecidableEq, Repr

/-- How much a diff changes, in numbers. -/
structure DiffStats where
  /-- The number of hunks. -/
  hunks : Int := 0
  /-- The number of lines added. -/
  additions : Int := 0
  /-- The number of lines removed. -/
  deletions : Int := 0
  deriving DecidableEq, Repr

namespace Diff

/-- How many lines the diff adds. -/
def additions (d : Diff) : Nat :=
  (d.hunks.flatMap (·.newLines)).length

/-- How many lines the diff removes. -/
def deletions (d : Diff) : Nat :=
  (d.hunks.flatMap (·.oldLines)).length

/-- Whether the diff changes nothing at all. -/
def isEmpty (d : Diff) : Bool :=
  d.hunks.isEmpty

/-- The diff in numbers. -/
def stats (d : Diff) : DiffStats :=
  { hunks := d.hunks.length, additions := d.additions, deletions := d.deletions }

/-- The diff with its hunks unnamed. -/
def anonymous (d : Diff) : Diff :=
  { d with hunks := d.hunks.map Hunk.anonymous }

end Diff

end DriftPatch
