import DriftPatch.Text.PrintTable
import DriftPatch.Text.LowerCase
import DriftPatch.Text.Quoted

/-!
# Text as a literal

How a text is shown inside a displayed list or mapping: between
apostrophes, or between quotation marks if it holds an apostrophe and no
quotation mark. Characters that have a glyph stand for themselves;
backslashes, the mark around the text, and all other characters are
escaped. Raw bytes are shown in the same way after a `b`, and of them
only ASCII stands for itself.
-/

namespace DriftPatch.Text

/-- Whether a character has a glyph of its own. -/
def isPrintable (c : Char) : Bool :=
  !inRanges unprintableRanges c

/-- The mark to put around a text. -/
def literalMark (t : Text) : Char :=
  if t.contains '\'' && !t.contains '"' then '"' else '\''

/-- The escapes shared by characters and bytes. -/
def escape? (mark c : Char) : Option Text :=
  if c = mark ∨ c = '\\' then some ['\\', c]
  else if c = '\t' then some ['\\', 't']
  else if c = '\n' then some ['\\', 'n']
  else if c = '\r' then some ['\\', 'r']
  else none

/-- A character of a literal, in as few hexadecimal digits as there are
escapes for where it has no glyph. -/
def literalChar (mark c : Char) : Text :=
  match escape? mark c with
  | some t => t
  | none =>
    if isPrintable c then [c]
    else if c.toNat ≤ 0xff then ['\\', 'x'] ++ hexDigits 2 c.toNat
    else if c.toNat ≤ 0xffff then ['\\', 'u'] ++ hexDigits 4 c.toNat
    else ['\\', 'U'] ++ hexDigits 8 c.toNat

/-- **A text as a literal.** -/
def literal (t : Text) : Text :=
  let mark := literalMark t
  [mark] ++ t.flatMap (literalChar mark) ++ [mark]

/-- Raw bytes as a literal. -/
def literalBytes (bytes : List UInt8) : Text :=
  let chars := bytes.map fun b => Char.ofNat b.toNat
  let mark := literalMark chars
  let shown (c : Char) : Text :=
    (escape? mark c).getD <|
      if 0x20 ≤ c.toNat ∧ c.toNat < 0x7f then [c] else ['\\', 'x'] ++ hexDigits 2 c.toNat
  ['b', mark] ++ chars.flatMap shown ++ [mark]

end DriftPatch.Text
