import DriftPatch.Placement
import DriftPatch.Table

/-!
# Settings

What the user can choose: how much context generated hunks show, how much
of the missing lines a failure shows, whether edits are reported, and
which languages file extensions mean. However much context is asked for,
`Settings.maxContextLines` lines are shown at most.
-/

namespace DriftPatch

/-- The most lines of context that are shown. -/
def Settings.maxContextLines : Nat := 10

/-- **What the user can choose.** -/
structure Settings where
  /-- The lines of context before each generated hunk. -/
  contextLines : Nat := 3
  /-- How many of the missing lines a failure shows. -/
  previewLines : Int := 3
  /-- How many characters of each it shows. -/
  previewWidth : Int := 120
  /-- Whether the transitions of edits are reported. -/
  telemetry : Bool := true
  /-- The languages of file extensions, over the built-in ones. -/
  languages : Table Text Text := []
  /-- There is never more context than the limit. -/
  contextLines_le : contextLines ≤ Settings.maxContextLines := by decide

namespace Settings

/-- The lines of context for a number asked for: none where it is
negative, and at most the limit. -/
def clampContext (asked : Int) : Nat :=
  min maxContextLines asked.toNat

theorem clampContext_le (asked : Int) : clampContext asked ≤ maxContextLines :=
  Nat.min_le_left _ _

/-- The settings with another number of context lines asked for. -/
def withContext (s : Settings) (asked : Int) : Settings :=
  { s with contextLines := clampContext asked, contextLines_le := clampContext_le asked }

/-- How much of the missing lines a failure shows. -/
def excerpt (s : Settings) : Excerpt :=
  { lines := s.previewLines, width := s.previewWidth }

/-- The settings of a user who chooses nothing. -/
def standard : Settings := {}

instance : Inhabited Settings := ⟨standard⟩

end Settings

end DriftPatch
