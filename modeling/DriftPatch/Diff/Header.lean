import DriftPatch.Text.Numeral

/-!
# Hunk headers

A hunk begins with a line such as `@@ -12,3 +14 @@`: two ranges of lines,
the old one and the new one, each a start and, after a comma, a count. A
count that is left out is 1. Anything may follow the second `@@`.

Whether a line is a header does not depend on the size of its numbers,
but reading the numbers does: `Header.Written` is the header as it
stands, digit by digit, and `Header.Written.read` is its meaning.
-/

namespace DriftPatch

/-- **The meaning of a hunk header**: where the hunk lies in the old and
in the new text, and how many lines it claims there. -/
structure Header where
  /-- The first old line. -/
  oldStart : Nat
  /-- The number of old lines. -/
  oldCount : Nat
  /-- The first new line. -/
  newStart : Nat
  /-- The number of new lines. -/
  newCount : Nat
  deriving DecidableEq, Repr

namespace Header

/-- A range of lines as a header writes it. -/
structure Range where
  /-- The digits of the first line. -/
  start : Text
  /-- The digits of the count, where there is one. -/
  count : Option Text
  deriving DecidableEq, Repr

/-- A header as it is written. -/
structure Written where
  /-- The range in the old text. -/
  old : Range
  /-- The range in the new text. -/
  new : Range
  deriving DecidableEq, Repr

/-- The digits at the front of a text, if there is at least one, and what
follows them. -/
def digits? (t : Text) : Option (Text × Text) :=
  match t.takeWhile Text.isDecimalDigit with
  | [] => none
  | digits => some (digits, t.dropWhile Text.isDecimalDigit)

/-- The range at the front of a text, and what follows it. A comma
belongs to the range only where digits follow. -/
def range? (t : Text) : Option (Range × Text) := do
  let (start, rest) ← digits? t
  match rest with
  | ',' :: more =>
    match digits? more with
    | some (count, rest) => some (⟨start, some count⟩, rest)
    | none => some (⟨start, none⟩, rest)
  | _ => some (⟨start, none⟩, rest)

/-- The header that a line is, if it is one. -/
def written? (line : Line) : Option Written := do
  let (old, rest) ← range? (← Text.after? ['@', '@', ' ', '-'] line)
  let (new, rest) ← range? (← Text.after? [' ', '+'] rest)
  let _ ← Text.after? [' ', '@', '@'] rest
  return ⟨old, new⟩

/-- The count of a range; a count that is left out is 1. -/
def Range.readCount (r : Range) : Except Numeral.Error Nat :=
  match r.count with
  | some digits => Numeral.read digits
  | none => .ok 1

/-- The meaning of a header, unless one of its numbers has too many
digits. -/
def Written.read (w : Written) : Except Numeral.Error Header := do
  let oldStart ← Numeral.read w.old.start
  let oldCount ← w.old.readCount
  let newStart ← Numeral.read w.new.start
  let newCount ← w.new.readCount
  return ⟨oldStart, oldCount, newStart, newCount⟩

end Header

end DriftPatch
