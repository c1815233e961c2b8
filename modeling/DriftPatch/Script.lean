import DriftPatch.Text.Basic

/-!
# Edit scripts

An **edit script** says how one list of lines becomes another: it keeps
lines and, between them, replaces runs of lines by others. Every script
has two readings, the lines it starts from and the lines it ends with
(`Script.before`, `Script.after`).

`Script.between` finds a script greedily. It keeps lines as long as the
two lists agree. Where they part it removes old lines until one of them
is the next new line; if none is, it removes all that is left and adds
all that is left. The script is not the shortest one, but it always leads
from the first list to the second.
-/

namespace DriftPatch

/-- **A step of an edit script.** -/
inductive Step where
  /-- A line of both texts. -/
  | keep (line : Line)
  /-- Lines of the old text, and the lines of the new one that stand in
  their place. -/
  | replace (removed added : List Line)
  deriving DecidableEq, Repr

/-- An edit script: its steps in order. -/
abbrev Script := List Step

namespace Script

/-- The lines a script starts from. -/
def before : Script → List Line
  | [] => []
  | .keep line :: rest => line :: before rest
  | .replace removed _ :: rest => removed ++ before rest

/-- The lines a script ends with. -/
def after : Script → List Line
  | [] => []
  | .keep line :: rest => line :: after rest
  | .replace _ added :: rest => added ++ after rest

/-- The lines at the front of `lines` that differ from the first line of
`other`. If `other` is empty these are all lines. -/
def untilHead (lines other : List Line) : List Line :=
  lines.takeWhile fun line => other.head? != some line

/-- The lines from the first one on that equals the first of `other`. -/
def fromHead (lines other : List Line) : List Line :=
  lines.dropWhile fun line => other.head? != some line

theorem untilHead_append_fromHead (lines other : List Line) :
    untilHead lines other ++ fromHead lines other = lines :=
  List.takeWhile_append_dropWhile

theorem length_fromHead (lines other : List Line) :
    (untilHead lines other).length + (fromHead lines other).length = lines.length := by
  rw [← List.length_append, untilHead_append_fromHead]

/-- Where two lists part, the greedy step consumes a line. -/
theorem length_fromHead_lt {old new : List Line} (h : old.head? ≠ new.head?) :
    (fromHead old new).length + (fromHead new (fromHead old new)).length
      < old.length + new.length := by
  have hold := length_fromHead old new
  have hnew := length_fromHead new (fromHead old new)
  suffices 0 < (untilHead old new).length
      + (untilHead new (fromHead old new)).length by omega
  cases old with
  | nil =>
    cases new with
    | nil => simp at h
    | cons b new => simp [untilHead, fromHead]
  | cons a old =>
    have hne : (new.head? != some a) = true := by simpa using Ne.symm h
    simp only [untilHead, List.takeWhile_cons, hne, if_true, List.length_cons]
    omega

/-- **The greedy script** from the lines `old` to the lines `new`. -/
def between (old new : List Line) : Script :=
  if _parted : old.head? ≠ new.head? then
    .replace (untilHead old new) (untilHead new (fromHead old new))
      :: between (fromHead old new) (fromHead new (fromHead old new))
  else
    match old, new with
    | line :: old, _ :: new => .keep line :: between old new
    | _, _ => []
termination_by old.length + new.length
decreasing_by
  · exact length_fromHead_lt _parted
  · simp only [List.length_cons]; omega

end Script

end DriftPatch
