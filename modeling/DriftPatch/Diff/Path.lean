import DriftPatch.Diff.Basic
import DriftPatch.Text.Blank

/-!
# The path that a diff names

A line `--- a/path` or `+++ b/path` names a file: after the three marks
come blanks, then the path, which may be led by `a/` or `b/`. The path of
a diff is the first one named that is neither empty nor the null device.

The blanks after the marks may run on over line ends. Where nothing but
blanks follows the marks on their own line, the path is looked for in the
lines below, and the lines run over are not looked at again.
-/

namespace DriftPatch.Diff

/-- The path that stands for a file that does not exist. -/
def nullDevice : Text := "/dev/null".toList

/-- What follows the three marks of a file header. -/
def afterMarks? (line : Line) : Option Text :=
  (Text.after? ['-', '-', '-'] line).or (Text.after? ['+', '+', '+'] line)

/-- A path as a file header gives it, less the `a/` or `b/` that leads
it. These two are a path themselves where nothing follows them. -/
def unprefixed : Text → Text
  | 'a' :: '/' :: c :: rest => c :: rest
  | 'b' :: '/' :: c :: rest => c :: rest
  | path => path

/-- The paths named in a list of lines, in order. The flag says that the
blanks after an earlier header are still running. -/
def namedPaths : Bool → List Line → List Text
  | _, [] => []
  | true, line :: rest =>
    if line.all Text.isBlank then namedPaths true rest
    else Text.strip (unprefixed line.stripLeft) :: namedPaths false rest
  | false, line :: rest =>
    match afterMarks? line with
    | none => namedPaths false rest
    | some tail =>
      if tail.all Text.isBlank then namedPaths true rest
      else if tail.head?.any Text.isBlank then
        Text.strip (unprefixed tail.stripLeft) :: namedPaths false rest
      else namedPaths false rest

/-- **The path that a diff text names**, or `unknown`. -/
def extractPath (text : Text) : Text :=
  ((namedPaths false text.lines).find? fun path =>
    path != [] && path != nullDevice).getD unknownPath

end DriftPatch.Diff
