import DriftPatch.Text.Basic

/-!
# Quoted text

The text of a JSON string: the quotation mark, the backslash and the
controls below the space are escaped, the common controls by a letter and
the others by four hexadecimal digits. Everything else stands for itself.
-/

namespace DriftPatch.Text

/-- A number in hexadecimal, in at least `width` digits. -/
def hexDigits (width n : Nat) : Text :=
  let digits := Nat.toDigits 16 n
  List.replicate (width - digits.length) '0' ++ digits

/-- A character within quotation marks. -/
def quoteChar (c : Char) : Text :=
  if c = '"' then ['\\', '"']
  else if c = '\\' then ['\\', '\\']
  else if c = '\n' then ['\\', 'n']
  else if c = '\r' then ['\\', 'r']
  else if c = '\t' then ['\\', 't']
  else if c.toNat = 0x08 then ['\\', 'b']
  else if c.toNat = 0x0c then ['\\', 'f']
  else if c.toNat < 0x20 then ['\\', 'u'] ++ hexDigits 4 c.toNat
  else [c]

/-- **A text in quotation marks.** -/
def quoted (t : Text) : Text :=
  ['"'] ++ t.flatMap quoteChar ++ ['"']

end DriftPatch.Text
