import DriftPatch.Diff.Basic

/-!
# Edits

An **edit** is a diff on its way into a file. It waits, is applied or
fails or is rejected, and carries what came of it: the text it made, or
the report of its failure.
-/

namespace DriftPatch

/-- **How far an edit has come.** -/
inductive Status where
  /-- It waits to be applied. -/
  | pending
  /-- It is being applied. -/
  | applying
  /-- It was applied. -/
  | applied
  /-- One of its hunks could not be placed. -/
  | failed
  /-- It was turned down. -/
  | rejected
  deriving DecidableEq, Repr

/-- What an edit is called: its number among those a session has issued,
or a name from outside. -/
inductive EditId where
  /-- The number that a session issued. -/
  | issued (n : Nat)
  /-- A name from outside. -/
  | named (name : Text)
  deriving DecidableEq, Repr

/-- When something happened: now, or at a time given from outside. -/
inductive Timestamp where
  /-- The time at which the record is made. -/
  | now
  /-- A time from outside, as it was written. -/
  | given (written : Text)
  deriving DecidableEq, Repr

/-- **An edit.** -/
structure Edit where
  /-- What the edit is called. -/
  id : EditId
  /-- The path of the file to change. -/
  filePath : Text
  /-- The change. -/
  diff : Diff
  /-- How far the edit has come. -/
  status : Status := .pending
  /-- The report of its failure, if it failed. -/
  error : Option Text := none
  /-- The text it made, if it was applied. -/
  result : Option Text := none
  /-- When it was made. -/
  timestamp : Timestamp := .now
  deriving DecidableEq, Repr

/-- Whether a status is final. -/
def Status.isTerminal : Status → Bool
  | .applied | .failed | .rejected => true
  | .pending | .applying => false

/-- Whether nothing more is to come of an edit. -/
def Edit.isTerminal (e : Edit) : Bool :=
  e.status.isTerminal

/-! ## The words for them -/

namespace Status

/-- Every status. -/
def all : List Status := [.pending, .applying, .applied, .failed, .rejected]

/-- The word for a status. -/
def word : Status → Text
  | .pending => "pending".toList
  | .applying => "applying".toList
  | .applied => "applied".toList
  | .failed => "failed".toList
  | .rejected => "rejected".toList

/-- The status that a word means. -/
def ofWord? (w : Text) : Option Status :=
  all.find? (·.word == w)

end Status

/-- The word for what a hunk does. -/
def ChangeType.word : ChangeType → Text
  | .add => "add".toList
  | .delete => "delete".toList
  | .modify => "modify".toList

end DriftPatch
