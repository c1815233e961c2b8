import DriftPatch.Decimal.Layout
import DriftPatch.Text.Halves
import DriftPatch.Value.Basic

/-!
# The text of a value

Tags and extensions may be written as any value, and count as the text
that shows it. A text shows as itself, and as a literal within a list or
a mapping. Numbers too long to be written show not at all: that is the
only way for `Value.display` to fail.
-/

namespace DriftPatch.Value

/-- Floating-point numbers are set in place from one ten-thousandth up to
ten thousand million million, whole ones with a zero after the point. -/
def floatLayout : Decimal.Layout where
  positionalFrom := -4
  positionalTo := 16
  wholeMark := ['.', '0']
  powerMark := 'e'
  powerDigits := 2
  infinity := ['i', 'n', 'f']
  notANumber := ['n', 'a', 'n']

/-- Items separated by commas, between two marks. -/
def bracketed (opening closing : Char) (items : List Text) : Text :=
  [opening] ++ [',', ' '].intercalate items ++ [closing]

mutual

/-- **A value as it is shown within another.** -/
def literal : Value → Except Numeral.Error Text
  | .null => .ok "None".toList
  | .bool b => .ok (if b then "True".toList else "False".toList)
  | .int n => Numeral.write n
  | .float x => .ok (floatLayout.write x)
  | .text t => .ok t.literal
  | .ragged codes => .ok (Text.literalCodes codes)
  | .bytes b => .ok (Text.literalBytes b)
  | .date d => .ok d.literal
  | .moment m => .ok m.literal
  | .list items => do return bracketed '[' ']' (← literals items)
  | .pair first second => do
    return bracketed '(' ')' [← literal first, ← literal second]
  | .set [] => .ok "set()".toList
  | .set members => do return bracketed '\x7b' '\x7d' (← literals members)
  | .mapping entries => do return bracketed '\x7b' '\x7d' (← entryLiterals entries)
  | .cycle isMapping =>
    .ok (if isMapping then ['\x7b', '.', '.', '.', '\x7d'] else ['[', '.', '.', '.', ']'])

/-- The values of a list as they are shown. -/
def literals : List Value → Except Numeral.Error (List Text)
  | [] => .ok []
  | v :: rest => do return (← literal v) :: (← literals rest)

/-- The entries of a mapping as they are shown. -/
def entryLiterals : List (Value × Value) → Except Numeral.Error (List Text)
  | [] => .ok []
  | (key, v) :: rest => do
    return ((← literal key) ++ [':', ' '] ++ (← literal v)) :: (← entryLiterals rest)

end

/-- **A value as it is shown on its own.** -/
def display : Value → Except Numeral.Error Text
  | .text t => .ok t
  | .ragged codes => .ok (Text.ofCodes codes)
  | .date d => .ok d.text
  | .moment m => .ok m.text
  | v => literal v

end DriftPatch.Value
