import DriftPatch.Yaml.Cursor

/-!
# The blocks of a document

A document is read in blocks of characters, and only when it is its turn.
So a character that may not stand in a document is met with the block that
it lies in: what comes before that block is read as if nothing were wrong,
and the text breaks off where the block begins.
-/

namespace DriftPatch.Yaml

/-- Whether a character may stand in a document. -/
def isAllowed (c : Char) : Bool :=
  let n := c.toNat
  n == 0x09 || n == 0x0a || n == 0x0d || (0x20 ≤ n && n ≤ 0x7e) || n == 0x85
    || (0xa0 ≤ n && n ≤ 0xd7ff) || (0xe000 ≤ n && n ≤ 0xfffd) || 0x10000 ≤ n

namespace Source

/-- How many characters a block has. -/
def blockSize : Nat := 4096

/-- The first character of the block that a character lies in. The first
two blocks are read at once. -/
def blockStart (index : Nat) : Nat :=
  if index < 2 * blockSize then 0 else index / blockSize * blockSize

/-- The cursor at the start of a text, behind which there is possibly
something wrong. -/
def ofText (t : Text) (after : Option Fault) : Cursor :=
  match t.findIdx? (!isAllowed ·) with
  | none => .atStart t after
  | some index => .atStart (t.take (blockStart index)) (some .malformed)

end Source

end DriftPatch.Yaml
