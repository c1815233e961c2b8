import DriftPatch.Text.Utf8

/-!
# The text of a file

A file holds UTF-8 text with line endings of any style, each of which counts
as a line feed. Its text is read in **blocks** of characters, and only when
it is its turn. So a byte that belongs to no character is met with the block
that it lies in; what comes before that block is read as if nothing were
wrong (`Text.frontOf`).

Blocks are cut from the characters of larger pieces of the file, whose size
is counted in bytes. Where the characters that are there do not suffice for
a block, the next piece is as large as they may take, by the bytes that a
character of the piece before took, but never smaller than `Text.pieceSize`.
-/

namespace DriftPatch.Text

/-- A text with every line ending, of whatever style, turned into a line
feed. -/
def universalLineEnds : Text → Text
  | '\r' :: '\n' :: rest => '\n' :: universalLineEnds rest
  | '\r' :: rest => '\n' :: universalLineEnds rest
  | c :: rest => c :: universalLineEnds rest
  | [] => []

/-- **The text of a file**, given by its bytes; nothing if they are no
UTF-8. -/
def ofFile? (bytes : ByteArray) : Option Text :=
  (String.fromUTF8? bytes).map fun s => universalLineEnds s.toList

/-- The least number of bytes of a piece. -/
def pieceSize : Nat := 8192

/-- **How far a file has been read.** -/
structure Reading where
  /-- The bytes not yet read. -/
  bytes : List UInt8
  /-- The bytes of a character that has only begun. -/
  unfinished : List UInt8 := []
  /-- The text so far. -/
  text : Text := []
  /-- The length of the last piece, in bytes and in characters. -/
  lastPiece : Nat × Nat := (0, 0)

namespace Reading

/-- The number of characters there are. A carriage return at the end does
not count before it is known what follows. -/
def count (r : Reading) : Nat :=
  let settled := if r.text.getLast? = some '\r' then r.text.dropLast else r.text
  (universalLineEnds settled).length

/-- The size of the next piece if some characters are missing. -/
def nextPiece (r : Reading) (missing : Nat) : Nat :=
  let (bytes, chars) := r.lastPiece
  max pieceSize (bytes * missing / chars)

/-- The file with the next piece read; nothing if it is no text. -/
def readPiece (r : Reading) (missing : Nat) : Option Reading := do
  let piece := r.bytes.take (r.nextPiece missing)
  let (chars, unfinished) ← Utf8.decode (r.unfinished ++ piece)
  if piece = [] ∧ unfinished ≠ [] then none
  let after :=
    { r with bytes := r.bytes.drop piece.length, unfinished, text := r.text ++ chars }
  return { after with lastPiece := (piece.length, after.count - r.count) }

/-- The text before the block of some size, the first one to be read being
given, in which something is no text. -/
def readable (size : Nat) : Nat → (block : Nat) → Reading → Text
  | 0, _, r => universalLineEnds r.text
  | fuel + 1, block, r =>
    let wanted := (block + 1) * size
    if wanted ≤ r.count then readable size fuel (block + 1) r
    else
      match r.readPiece (wanted - r.count) with
      | some r => readable size fuel block r
      | none => (universalLineEnds r.text).take (block * size)

end Reading

/-- **What can be read of a file that is no UTF-8**, in blocks of some size.
Each step reads a block or some bytes, so it ends. -/
def frontOf (size : Nat) (bytes : ByteArray) : Text :=
  Reading.readable size (2 * bytes.toList.length + 2) 0 { bytes := bytes.toList }

end DriftPatch.Text
