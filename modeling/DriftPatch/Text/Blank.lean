import DriftPatch.Text.Basic

/-!
# Blank characters

A character is **blank** if it separates words: the ASCII spaces and
separators, the no-break space, and the space, line and paragraph
separators of Unicode. The zero-width characters are not blank.

Two lines that differ only in the blanks at their ends are the same line
up to indentation; `Text.strip` is the form on which they agree.
-/

namespace DriftPatch.Text

/-- The twenty-nine blank characters. -/
def isBlank (c : Char) : Bool :=
  let n := c.toNat
  (0x09 ≤ n && n ≤ 0x0d) || (0x1c ≤ n && n ≤ 0x20) || n == 0x85 || n == 0xa0
    || n == 0x1680 || (0x2000 ≤ n && n ≤ 0x200a) || n == 0x2028 || n == 0x2029
    || n == 0x202f || n == 0x205f || n == 0x3000

/-- The text from its first character that is not blank. -/
def stripLeft (t : Text) : Text :=
  t.dropWhile isBlank

/-- The text up to its last character that is not blank. -/
def stripRight (t : Text) : Text :=
  (t.reverse.dropWhile isBlank).reverse

/-- The text between its first and its last character that is not
blank. -/
def strip (t : Text) : Text :=
  t.stripLeft.stripRight

/-- Whether a character may stand around a number: any blank but the four
separators of ASCII. -/
def isPadding (c : Char) : Bool :=
  isBlank c && !(0x1c ≤ c.toNat && c.toNat ≤ 0x1f)

/-- A text without the padding around it. -/
def unpadded (t : Text) : Text :=
  ((t.dropWhile isPadding).reverse.dropWhile isPadding).reverse

/-- The **indent** of a line: the blanks it begins with. -/
def indent (t : Text) : Text :=
  t.takeWhile isBlank

end DriftPatch.Text
