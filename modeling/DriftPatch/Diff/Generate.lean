import DriftPatch.Diff.Basic
import DriftPatch.Script
import DriftPatch.Settings.Basic

/-!
# Diffs between texts

Two texts are compared line by line. Every replacement in the script from
the lines of one to the lines of the other becomes a hunk, which shows as
context the old lines before it and none after it.
-/

namespace DriftPatch

/-- The hunks of the replacements in a script that goes on after the old
lines `passed` and `reached` new ones. Each shows up to `context` of the
old lines before it. -/
def Script.hunksAfter (context : Nat) (passed : List Line) (reached : Nat) : Script → List Hunk
  | [] => []
  | .keep line :: rest => hunksAfter context (passed ++ [line]) (reached + 1) rest
  | .replace removed added :: rest =>
    { oldStart := passed.length + 1
      oldCount := removed.length
      newStart := reached + 1
      newCount := added.length
      oldLines := removed
      newLines := added
      contextBefore := passed.drop (passed.length - context) }
      :: hunksAfter context (passed ++ removed) (reached + added.length) rest

/-- The hunks that turn the lines `old` into the lines `new`, each with
up to `context` lines of context before it and none after. -/
def generateHunks (context : Int) (old new : List Line) : List Hunk :=
  (Script.between old new).hunksAfter context.toNat [] 0

/-- **The diff between two texts** of the file at a path. -/
def Diff.generate (settings : Settings) (old new path : Text) : Diff where
  filePath := path
  hunks := generateHunks settings.contextLines old.lines new.lines
  oldContent := old
  newContent := new
  language := Language.detect settings.languages path

end DriftPatch
