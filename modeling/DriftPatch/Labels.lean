import DriftPatch.Edit

/-!
# Labels

Hunks and edits may have no name of their own, and most times are simply
the present. Names and the present are made up where something is written
down, so whoever writes says what to write for them.
-/

namespace DriftPatch

/-- **How unnamed things are written.** -/
structure Labels where
  /-- The name of a hunk that has none. -/
  hunk : Text
  /-- The name of the edit with a given number. -/
  edit : Nat → Text
  /-- The present time. -/
  now : Text

namespace Labels

/-- The name of a hunk. -/
def ofHunk (l : Labels) : HunkId → Text
  | .unnamed => l.hunk
  | .named name => name

/-- The name of an edit. -/
def ofEdit (l : Labels) : EditId → Text
  | .issued n => l.edit n
  | .named name => name

/-- A time. -/
def ofTimestamp (l : Labels) : Timestamp → Text
  | .now => l.now
  | .given written => written

end Labels

end DriftPatch
