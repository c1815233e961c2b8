import DriftPatch.Text.Basic

/-!
# Hunks

A **hunk** is one contiguous change: lines removed, lines added in their
place, and the unchanged lines shown around them. Its header says where
the change lies in the old and in the new text and how many lines each
side has.

The two counts are what a header claims. Hunks that come from outside may
claim anything, so what a hunk does is read off its lines.
-/

namespace DriftPatch

/-- What a hunk is called. The hunks that are read from diff text or
found by comparing texts have no name yet. -/
inductive HunkId where
  /-- No name was given. -/
  | unnamed
  /-- The name that came with the hunk. -/
  | named (name : Text)
  deriving DecidableEq, Repr

/-- **A hunk.** Line numbers start from 1. -/
structure Hunk where
  /-- What the hunk is called. -/
  id : HunkId := .unnamed
  /-- The line of the old text at which the hunk claims to start. -/
  oldStart : Int := 1
  /-- The number of old lines that the header claims. -/
  oldCount : Int := 0
  /-- The line of the new text at which the hunk claims to start. -/
  newStart : Int := 1
  /-- The number of new lines that the header claims. -/
  newCount : Int := 0
  /-- The lines removed. -/
  oldLines : List Line := []
  /-- The lines added. -/
  newLines : List Line := []
  /-- The unchanged lines shown before the change. -/
  contextBefore : List Line := []
  /-- The unchanged lines shown after the first changed line. -/
  contextAfter : List Line := []
  deriving DecidableEq, Repr

/-- What a hunk does, coarsely. -/
inductive ChangeType where
  /-- It removes nothing. -/
  | add
  /-- It removes lines and adds none. -/
  | delete
  /-- It removes lines and adds others. -/
  | modify
  deriving DecidableEq, Repr

namespace Hunk

/-- What the hunk does, coarsely. A hunk that changes nothing counts as
an addition. -/
def changeType (h : Hunk) : ChangeType :=
  if h.oldLines = [] then .add else if h.newLines = [] then .delete else .modify

/-- By how many lines the hunk lengthens a text. -/
def lineDelta (h : Hunk) : Int :=
  (h.newLines.length : Int) - h.oldLines.length

/-- Whether the hunk removes or adds anything. -/
def hasBody (h : Hunk) : Bool :=
  !h.oldLines.isEmpty || !h.newLines.isEmpty

theorem hasBody_iff {h : Hunk} : h.hasBody = true ↔ h.oldLines ≠ [] ∨ h.newLines ≠ [] := by
  unfold hasBody
  rw [Bool.or_eq_true]
  simp

/-- The hunk without its name. -/
def anonymous (h : Hunk) : Hunk :=
  { h with id := .unnamed }

end Hunk

end DriftPatch
