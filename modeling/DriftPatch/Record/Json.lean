import DriftPatch.Journal

/-!
# Writing records

Hunks, diffs, edits and events as JSON, field by field in a fixed order.
A field without a value is written as null.
-/

namespace DriftPatch

/-- A hunk. -/
def Hunk.toJson (labels : Labels) (h : Hunk) : Json :=
  .object [
    ("id".toList, .text (labels.ofHunk h.id)),
    ("old_start".toList, .int h.oldStart),
    ("old_count".toList, .int h.oldCount),
    ("new_start".toList, .int h.newStart),
    ("new_count".toList, .int h.newCount),
    ("old_lines".toList, Json.texts h.oldLines),
    ("new_lines".toList, Json.texts h.newLines),
    ("context_before".toList, Json.texts h.contextBefore),
    ("context_after".toList, Json.texts h.contextAfter)]

/-- A diff in numbers. -/
def DiffStats.toJson (s : DiffStats) : Json :=
  .object [
    ("hunks".toList, .int s.hunks),
    ("additions".toList, .int s.additions),
    ("deletions".toList, .int s.deletions)]

/-- A diff. -/
def Diff.toJson (labels : Labels) (d : Diff) : Json :=
  .object [
    ("file_path".toList, .text d.filePath),
    ("hunks".toList, .list (d.hunks.map (·.toJson labels))),
    ("old_content".toList, .text d.oldContent),
    ("new_content".toList, .text d.newContent),
    ("language".toList, .text d.language)]

/-- An edit. -/
def Edit.toJson (labels : Labels) (e : Edit) : Json :=
  .object [
    ("id".toList, .text (labels.ofEdit e.id)),
    ("file_path".toList, .text e.filePath),
    ("diff".toList, e.diff.toJson labels),
    ("status".toList, .text e.status.word),
    ("error".toList, Json.ofOption .text e.error),
    ("result".toList, Json.ofOption .text e.result),
    ("timestamp".toList, .text (labels.ofTimestamp e.timestamp))]

/-- An event, with the fields that are absent. -/
def Event.toJson (labels : Labels) (e : Event) : Json :=
  .object (e.fields labels)

end DriftPatch
