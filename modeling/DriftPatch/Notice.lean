import DriftPatch.Diff.Parse
import DriftPatch.Journal

/-!
# Notices

Beside the journal the program notes what it does in plain words, one
line at a time. A **notice** is such a line before it is worded: what was
seen, and in which part of the work.
-/

namespace DriftPatch

/-- **Something worth a line.** -/
inductive Notice where
  /-- A diff was to be read from something that is no text. -/
  | notText (kind : Text)
  /-- A diff text has no hunks. -/
  | noHunks (path : Text)
  /-- Two texts were compared. -/
  | compared (hunks : Nat) (path : Text) (additions deletions : Nat)
  /-- A hunk changes nothing. -/
  | noBody (hunk : HunkId)
  /-- A hunk was placed. -/
  | placed (hunk : HunkId) (strategy : Strategy)
  /-- A hunk could not be placed. -/
  | notPlaced (hunk : HunkId)
  /-- There is no edit of a name. -/
  | unknownEdit (edit : EditId)
  /-- An edit does not wait to be applied. -/
  | notPending (edit : EditId) (status : Status)
  /-- An edit could not be applied. -/
  | editFailed (edit : EditId) (path : Text) (hunkIndex : Option Nat)
  deriving DecidableEq, Repr

namespace Notice

/-- How important a notice is, in a word. Nearly all are of use only when
looking for mistakes. -/
def importance : Notice → Text
  | .editFailed .. => "INFO".toList
  | _ => "DEBUG".toList

/-- The part of the work that a notice comes from. -/
def source : Notice → Text
  | .notText _ | .noHunks _ => "patchengine.parser".toList
  | .compared .. => "patchengine.generator".toList
  | .noBody _ | .placed .. | .notPlaced _ => "patchengine.applier".toList
  | .unknownEdit _ | .notPending .. | .editFailed .. => "patchengine.lifecycle".toList

/-- How a hunk was located, in words. -/
def manner : Strategy → Text
  | .positional => "at stated position".toList
  | .substring => "by substring search".toList
  | .normalized => "by whitespace-normalised search".toList

/-- The wording of a notice. -/
def message (labels : Labels) : Notice → Text
  | .notText kind => "Refusing to parse non-text diff payload of type ".toList ++ kind
  | .noHunks path => "No hunk headers found in diff for ".toList ++ path
  | .compared hunks path additions deletions =>
    "Generated ".toList ++ Numeral.digits hunks ++ " hunk(s) for ".toList ++ path
      ++ " (+".toList ++ Numeral.digits additions ++ "/-".toList
      ++ Numeral.digits deletions ++ [')']
  | .noBody hunk =>
    "Hunk ".toList ++ labels.ofHunk hunk ++ " has no body; leaving text unchanged".toList
  | .placed hunk strategy =>
    "Hunk ".toList ++ labels.ofHunk hunk ++ " applied ".toList ++ manner strategy
  | .notPlaced hunk => "Hunk ".toList ++ labels.ofHunk hunk ++ " could not be located".toList
  | .unknownEdit edit => "Ignoring unknown edit id ".toList ++ labels.ofEdit edit
  | .notPending edit status =>
    "Ignoring edit ".toList ++ labels.ofEdit edit ++ " in state ".toList ++ status.word
  | .editFailed edit path hunkIndex =>
    "Edit ".toList ++ labels.ofEdit edit ++ " for ".toList ++ path
      ++ " failed at hunk ".toList
      ++ (match hunkIndex with
        | some n => Numeral.digits n
        | none => "None".toList)

/-- The line of a notice: its importance, where it comes from, and what it
says. -/
def line (labels : Labels) (n : Notice) : Text :=
  n.importance ++ [' '] ++ n.source ++ [':', ' '] ++ n.message labels

/-- The notice about a hunk and what came of it. -/
def ofHunk (h : Hunk) (o : Outcome) : Notice :=
  if !h.hasBody then .noBody h.id
  else
    match o.strategy with
    | some strategy => .placed h.id strategy
    | none => .notPlaced h.id

/-- The notices about a run of hunks. -/
def ofHunks (excerpt : Excerpt) (content : Text) (hunks : List Hunk) : List Notice :=
  (traceHunks excerpt 0 content hunks).map fun (h, o) => ofHunk h o

/-- The notices about a diff that was read from text. -/
def ofParse (d : Diff) : List Notice :=
  if d.isEmpty then [.noHunks d.filePath] else []

/-- The notice about a diff that was found by comparing texts. -/
def ofGenerate (d : Diff) : Notice :=
  .compared d.hunks.length d.filePath d.additions d.deletions

end Notice

end DriftPatch
