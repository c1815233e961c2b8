import DriftPatch.Journal
import DriftPatch.Record.Field

/-!
# Checking records

Hunks, diffs, edits and events as they come from outside. Every field has
a name and a kind, and nearly every one may be missing; fields of other
names are not allowed.
-/

namespace DriftPatch

/-- A name of a hunk. -/
def HunkId.check (v : Value) : Checked HunkId :=
  (Field.text v).map .named

/-- A name of an edit. -/
def EditId.check (v : Value) : Checked EditId :=
  (Field.text v).map .named

/-- Whether a text is a time as records write it: date and time of day by
universal time. -/
def Timestamp.isWritten (t : Text) : Bool :=
  t.length == 20 &&
    (t.zip "0000-00-00T00:00:00Z".toList).all fun (c, form) =>
      if form = '0' then Text.isAsciiDigit c else c == form

/-- A time. -/
def Timestamp.check : Value → Checked Timestamp
  | .text t => if isWritten t then .valid (.given t) else .fail .badTime
  | _ => .fail .notTime

/-- **A hunk.** -/
def Hunk.check : Value → Checked Hunk :=
  Field.record
    ["id", "old_start", "old_count", "new_start", "new_count", "old_lines", "new_lines",
     "context_before", "context_after"] fun es =>
    Hunk.mk
      <$> Field.withDefault .unnamed HunkId.check es "id"
      <*> Field.withDefault 1 Field.int es "old_start"
      <*> Field.withDefault 0 Field.int es "old_count"
      <*> Field.withDefault 1 Field.int es "new_start"
      <*> Field.withDefault 0 Field.int es "new_count"
      <*> Field.withDefault [] (Field.list Field.text) es "old_lines"
      <*> Field.withDefault [] (Field.list Field.text) es "new_lines"
      <*> Field.withDefault [] (Field.list Field.text) es "context_before"
      <*> Field.withDefault [] (Field.list Field.text) es "context_after"

/-- **A diff in numbers.** -/
def DiffStats.check : Value → Checked DiffStats :=
  Field.record ["hunks", "additions", "deletions"] fun es =>
    DiffStats.mk
      <$> Field.withDefault 0 Field.int es "hunks"
      <*> Field.withDefault 0 Field.int es "additions"
      <*> Field.withDefault 0 Field.int es "deletions"

/-- **A diff.** -/
def Diff.check : Value → Checked Diff :=
  Field.record ["file_path", "hunks", "old_content", "new_content", "language"] fun es =>
    Diff.mk
      <$> Field.withDefault Diff.unknownPath Field.text es "file_path"
      <*> Field.withDefault [] (Field.list Hunk.check) es "hunks"
      <*> Field.withDefault [] Field.text es "old_content"
      <*> Field.withDefault [] Field.text es "new_content"
      <*> Field.withDefault Language.plainText Field.text es "language"

/-- **An edit.** One without a name gets the first number. -/
def Edit.check : Value → Checked Edit :=
  Field.record ["id", "file_path", "diff", "status", "error", "result", "timestamp"] fun es =>
    Edit.mk
      <$> Field.withDefault (.issued 0) EditId.check es "id"
      <*> Field.required Field.text es "file_path"
      <*> Field.required Diff.check es "diff"
      <*> Field.withDefault .pending (Field.word Status.ofWord?) es "status"
      <*> Field.withDefault none (Field.optional Field.text) es "error"
      <*> Field.withDefault none (Field.optional Field.text) es "result"
      <*> Field.withDefault .now Timestamp.check es "timestamp"

/-- What a new edit is made from: a path, and a diff, which is absent if
it could not be read. -/
def Edit.draft (filePath : Value) (diff : Option Diff) : Checked (Text × Diff) :=
  Prod.mk
    <$> (Field.text filePath).under (.field "file_path".toList)
    <*> (match diff with
      | some d => Checked.valid d
      | none => (Checked.fail .notRecord).under (.field "diff".toList))

namespace Event

/-- The names of the fields of an event besides its kind. -/
def fieldNames : List String :=
  ["timestamp", "edit_id", "file_path", "status", "hunks", "additions", "deletions",
   "strategies", "hunk_id", "hunk_index", "expected", "dropped"]

/-- The fields of an event of a given kind. -/
def checkFields (kind : Checked EventKind) (es : Field.Entries) : Checked Event :=
  Event.mk
    <$> kind
    <*> Field.withDefault .now Timestamp.check es "timestamp"
    <*> Field.withDefault none (Field.optional EditId.check) es "edit_id"
    <*> Field.withDefault none (Field.optional Field.text) es "file_path"
    <*> Field.withDefault none (Field.optional (Field.word Status.ofWord?)) es "status"
    <*> Field.withDefault none (Field.optional Field.int) es "hunks"
    <*> Field.withDefault none (Field.optional Field.int) es "additions"
    <*> Field.withDefault none (Field.optional Field.int) es "deletions"
    <*> Field.withDefault none (Field.optional (Field.fixedList Field.text)) es "strategies"
    <*> Field.withDefault none (Field.optional HunkId.check) es "hunk_id"
    <*> Field.withDefault none (Field.optional Field.int) es "hunk_index"
    <*> Field.withDefault none (Field.optional (Field.fixedList Field.text)) es "expected"
    <*> Field.withDefault none (Field.optional Field.int) es "dropped"

/-- **An event.** -/
def check : Value → Checked Event :=
  Field.record ("event" :: fieldNames) fun es =>
    checkFields (Field.required (Field.word EventKind.ofWord?) es "event") es

/-- An event of a given kind from its other fields. -/
def ofFields (kind : EventKind) : Value → Checked Event :=
  Field.record fieldNames (checkFields (.valid kind))

/-- An event that happened to an edit, from its other fields. -/
def ofEditFields (kind : EventKind) (e : Edit) (v : Value) : Checked Event :=
  (ofFields kind v).map fun event =>
    { event with editId := some e.id, filePath := some e.filePath, status := some e.status }

end Event

end DriftPatch
