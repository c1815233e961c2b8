import DriftPatch.Labels
import DriftPatch.Replay
import DriftPatch.Value.Json

/-!
# The journal of edits

What happens to edits is reported as a stream of **events**, one for each
transition, and each is written as one line of JSON. An event has a kind
and a time, and of its other fields those that say something about it;
the rest are left out of the line.

A journal has a level, and events count as information: above that level
nothing is reported. The level meant is the one in effect. A journal may be
given none of its own, and the one in effect is then that of the journal
around it.
-/

namespace DriftPatch

/-- **How important a report is.** A level is a number, and the usual
levels have names. -/
structure Level where
  /-- The larger the number the more important. -/
  rank : Int
  deriving DecidableEq, Repr

namespace Level

/-- Of no importance. A journal for which this level is in effect gets
everything; one that is merely given it has no level of its own. -/
def unset : Level := ⟨0⟩

/-- Of use when looking for mistakes. -/
def debug : Level := ⟨10⟩

/-- Of general interest. -/
def info : Level := ⟨20⟩

/-- Perhaps a mistake. -/
def warning : Level := ⟨30⟩

/-- A mistake. -/
def error : Level := ⟨40⟩

/-- The end of the program. -/
def critical : Level := ⟨50⟩

/-- Whether reports of a level pass a threshold. -/
def passes (level threshold : Level) : Bool :=
  decide (threshold.rank ≤ level.rank)

/-- The words for the levels. Two of them have a second word. -/
def words : List (Text × Level) :=
  [("NOTSET".toList, unset), ("DEBUG".toList, debug), ("INFO".toList, info),
   ("WARNING".toList, warning), ("WARN".toList, warning), ("ERROR".toList, error),
   ("CRITICAL".toList, critical), ("FATAL".toList, critical)]

/-- The level that a word means. -/
def ofWord? (w : Text) : Option Level :=
  words.lookup w

end Level

/-- The word for a strategy. -/
def Strategy.word : Strategy → Text
  | .positional => "positional".toList
  | .substring => "substring".toList
  | .normalized => "normalized".toList

/-- **The transitions that are reported.** -/
inductive EventKind where
  /-- An edit came in. -/
  | submitted
  /-- An edit was applied. -/
  | applied
  /-- An edit could not be applied. -/
  | failed
  /-- An edit was turned down. -/
  | rejected
  /-- All edits were forgotten. -/
  | cleared
  deriving DecidableEq, Repr

namespace EventKind

/-- Every kind. -/
def all : List EventKind := [.submitted, .applied, .failed, .rejected, .cleared]

/-- The word for a kind. -/
def word : EventKind → Text
  | .submitted => "edit_submitted".toList
  | .applied => "edit_applied".toList
  | .failed => "edit_failed".toList
  | .rejected => "edit_rejected".toList
  | .cleared => "edits_cleared".toList

/-- The kind that a word means. -/
def ofWord? (w : Text) : Option EventKind :=
  all.find? (·.word == w)

end EventKind

/-- **An event.** The fields that do not apply to it are absent. -/
structure Event where
  /-- What happened. -/
  kind : EventKind
  /-- When it happened. -/
  timestamp : Timestamp := .now
  /-- The edit it happened to. -/
  editId : Option EditId := none
  /-- The file of the edit. -/
  filePath : Option Text := none
  /-- The status of the edit afterwards. -/
  status : Option Status := none
  /-- The number of hunks in the edit. -/
  hunks : Option Int := none
  /-- The number of lines it adds. -/
  additions : Option Int := none
  /-- The number of lines it removes. -/
  deletions : Option Int := none
  /-- How its hunks were located. -/
  strategies : Option (List Text) := none
  /-- The hunk that could not be placed. -/
  hunkId : Option HunkId := none
  /-- The place of that hunk in the edit. -/
  hunkIndex : Option Int := none
  /-- The first of the lines looked for. -/
  expected : Option (List Text) := none
  /-- How many edits were forgotten. -/
  dropped : Option Int := none
  deriving DecidableEq, Repr

namespace Event

/-- An event that happened to an edit, which is already in its new
status. -/
def about (kind : EventKind) (e : Edit) : Event :=
  { kind, editId := some e.id, filePath := some e.filePath, status := some e.status }

/-- An edit came in. -/
def ofSubmit (e : Edit) : Event :=
  let stats := e.diff.stats
  { about .submitted e with
    hunks := some stats.hunks
    additions := some stats.additions
    deletions := some stats.deletions }

/-- An edit was applied, its hunks located in some way each. -/
def ofApply (e : Edit) (strategies : List Strategy) : Event :=
  { about .applied e with strategies := some (strategies.map (·.word)) }

/-- An edit could not be applied. -/
def ofFailure (e : Edit) (failure : Failure) : Event :=
  { about .failed e with
    hunkId := some failure.hunkId
    hunkIndex := failure.hunkIndex.map fun (n : Nat) => (n : Int)
    expected := some failure.expected }

/-- An edit was turned down. -/
def ofReject (e : Edit) : Event :=
  about .rejected e

/-- All edits were forgotten. -/
def ofClear (dropped : Nat) : Event :=
  { kind := .cleared, dropped := some (dropped : Int) }

/-- The fields of an event in the order in which they are written, those
that are absent included. -/
def fields (labels : Labels) (e : Event) : List (Text × Json) :=
  [("event".toList, .text e.kind.word),
   ("timestamp".toList, .text (labels.ofTimestamp e.timestamp)),
   ("edit_id".toList, Json.ofOption (fun id => .text (labels.ofEdit id)) e.editId),
   ("file_path".toList, Json.ofOption .text e.filePath),
   ("status".toList, Json.ofOption (fun status => .text status.word) e.status),
   ("hunks".toList, Json.ofOption .int e.hunks),
   ("additions".toList, Json.ofOption .int e.additions),
   ("deletions".toList, Json.ofOption .int e.deletions),
   ("strategies".toList, Json.ofOption Json.texts e.strategies),
   ("hunk_id".toList, Json.ofOption (fun id => .text (labels.ofHunk id)) e.hunkId),
   ("hunk_index".toList, Json.ofOption .int e.hunkIndex),
   ("expected".toList, Json.ofOption Json.texts e.expected),
   ("dropped".toList, Json.ofOption .int e.dropped)]

/-- **The line of an event**: its fields, without those that are
absent. -/
def line (labels : Labels) (e : Event) : Text :=
  (Json.object (Json.present (e.fields labels))).compact

/-- The lines that a journal gets for an event, the level in effect being
given. -/
def report (labels : Labels) (threshold : Level) (e : Event) : List Text :=
  if Level.info.passes threshold then [e.line labels] else []

end Event

end DriftPatch
