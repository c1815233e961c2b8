import DriftPatch.Yaml.Token.Plain

/-!
# Quoted scalars

Between apostrophes everything stands for itself, and two apostrophes for
one. Between quotation marks a backslash starts an escape: a letter for a
common control, two, four or eight hexadecimal digits for any character or
half of a character, or the end of a line, which is then passed over. Line
ends are folded as in plain scalars.
-/

namespace DriftPatch.Yaml.Quoted

/-- What a backslash and one character stand for. -/
def escapes : List (Char × Char) :=
  [('0', '\x00'), ('a', '\x07'), ('b', '\x08'), ('t', '\t'), ('\t', '\t'),
   ('n', '\n'), ('v', '\x0b'), ('f', '\x0c'), ('r', '\r'), ('e', '\x1b'),
   (' ', ' '), ('"', '"'), ('\\', '\\'), ('/', '/'), ('N', '\u0085'),
   ('_', '\u00a0'), ('L', '\u2028'), ('P', '\u2029')]

/-- How many hexadecimal digits follow a backslash and a letter. -/
def codeLengths : List (Char × Nat) :=
  [('x', 2), ('u', 4), ('U', 8)]

/-- The value of a hexadecimal digit. -/
def hexValue? (c : Char) : Option Nat :=
  if '0' ≤ c ∧ c ≤ '9' then some (c.toNat - '0'.toNat)
  else if 'a' ≤ c ∧ c ≤ 'f' then some (c.toNat - 'a'.toNat + 10)
  else if 'A' ≤ c ∧ c ≤ 'F' then some (c.toNat - 'A'.toNat + 10)
  else none

/-- The number written by a given count of hexadecimal digits at the
front of a text. -/
def hexNumber? (count : Nat) (t : Text) : Option Nat := do
  let digits ← (t.take count).mapM hexValue?
  if digits.length = count then some (digits.foldl (fun n d => 16 * n + d) 0) else none

/-- The number written by a given count of hexadecimal digits at the
cursor. -/
def hexNumber (count : Nat) (c : Cursor) : Except Fault Nat :=
  match hexNumber? count c.rest with
  | some n => .ok n
  | none => .error (c.skipWhile fun char => (hexValue? char).isSome).refusal

/-- The code that an escape may give: codes end at `0x10ffff`, and those
that take more than thirty-one bits are no numbers for a code at all. -/
def checkCode (code : Nat) : Except Fault Nat :=
  if 0x7fffffff < code then .error .tooLarge
  else if 0x10ffff < code then .error .badValue
  else .ok code

/-! ## Parts

What has been read is kept as codes, the last one first. -/

/-- The codes of a text, put behind those read. -/
def add (done : List Nat) (t : Text) : List Nat :=
  t.foldl (fun done char => char.toNat :: done) done

/-- The line breaks at the cursor behind those read, last one first, with
the blanks around them dropped. No document ends within quotes. -/
def moreBreaks : Nat → Text → Cursor → Except Fault (Text × Cursor)
  | 0, breaks, c => .ok (breaks, c)
  | fuel + 1, breaks, c => do
    if ← c.atDocumentBoundary then throw .malformed
    let c := c.skipWhile fun char => char == ' ' || char == '\t'
    if c.peek.any isBreak then
      let (taken, c) := c.takeBreak
      moreBreaks fuel (taken ++ breaks) c
    else return (breaks, c)

/-- The characters up to the next blank or the closing quote, behind those
read. -/
def part (double : Bool) : Nat → List Nat → Cursor → Except Fault (List Nat × Cursor)
  | 0, done, c => .ok (done, c)
  | fuel + 1, done, c =>
    match c.rest with
    | [] => .ok (done, c)
    | '\'' :: rest =>
      if double then part double fuel ('\''.toNat :: done) c.next
      else if rest.head? = some '\'' then part double fuel ('\''.toNat :: done) (c.skip 2)
      else .ok (done, c)
    | '"' :: _ =>
      if double then .ok (done, c) else part double fuel ('"'.toNat :: done) c.next
    | '\\' :: rest =>
      if !double then part double fuel ('\\'.toNat :: done) c.next
      else
        match rest with
        | [] => .error c.next.refusal
        | letter :: _ =>
          match escapes.lookup letter, codeLengths.lookup letter with
          | some char, _ => part double fuel (char.toNat :: done) (c.skip 2)
          | none, some count => do
            let code ← checkCode (← hexNumber count (c.skip 2))
            part double fuel (code :: done) (c.skip (2 + count))
          | none, none =>
            if isBreak letter then do
              let c := c.next.takeBreak.2
              let (breaks, c) ← moreBreaks (c.size + 1) [] c
              part double fuel (add done breaks.reverse) c
            else .error .malformed
    | char :: _ =>
      if isSeparator char then .ok (done, c) else part double fuel (char.toNat :: done) c.next

/-- The blanks at the cursor, folded if lines end among them. -/
def gap (c : Cursor) : Except Fault (Text × Cursor) := do
  let (blanks, c) := c.takeWhile fun char => char == ' ' || char == '\t'
  match c.peek with
  | none => .error c.refusal
  | some char =>
    if isBreak char then
      let (first, c) := c.takeBreak
      let (more, c) ← moreBreaks (c.size + 1) [] c
      return (Plain.fold first more.reverse, c)
    else return (blanks, c)

/-- The rest of a quoted scalar, behind what has been read. -/
def parts (double : Bool) : Nat → List Nat → Cursor → Except Fault (List Nat × Cursor)
  | 0, _, _ => .error .malformed
  | fuel + 1, done, c =>
    if c.peek = some (if double then '"' else '\'') then .ok (done, c.next)
    else do
      let (between, c) ← gap c
      let (done, c) ← part double (c.size + 1) (add done between) c
      parts double fuel done c

/-- **A quoted scalar** and the cursor behind it; the cursor stands at
the opening quote. -/
def scan (c : Cursor) : Except Fault (Written × Cursor) := do
  let double := c.peek = some '"'
  let c := c.next
  let (done, c) ← part double (c.size + 1) [] c
  let (done, c) ← parts double (c.size + 1) done c
  return (.ofCodes done.reverse, c)

end DriftPatch.Yaml.Quoted
