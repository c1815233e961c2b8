import DriftPatch.Text.Blank
import DriftPatch.Text.DigitTable

/-!
# Numbers written in base ten

A **numeral** is read digit by digit, and its digits may come from any
script of Unicode that writes numbers in base ten, mixed at will. It is
written with the ASCII digits.

Reading and writing both stop at `Numeral.maxDigits` digits. The bound is
on the digits written, so leading zeros count when a numeral is read.
-/

namespace DriftPatch

namespace Text

/-- The value of a decimal digit of any script. -/
def digitValue? (c : Char) : Option Nat :=
  decimalZeros.findSome? fun origin =>
    if origin ≤ c.toNat ∧ c.toNat < origin + 10 then some (c.toNat - origin) else none

/-- Whether a character is a decimal digit of some script. -/
def isDecimalDigit (c : Char) : Bool :=
  (digitValue? c).isSome

/-- Whether a character is one of the ten ASCII digits. -/
def isAsciiDigit (c : Char) : Bool :=
  '0' ≤ c && c ≤ '9'

end Text

namespace Numeral

/-- The longest numeral that is read or written. -/
def maxDigits : Nat := 4300

/-- Why a numeral is neither read nor written: it has more than
`maxDigits` digits. -/
inductive Error where
  /-- More than `maxDigits` digits. -/
  | tooLong
  deriving DecidableEq, Repr

/-- The number that a list of digits denotes. -/
def value (digits : Text) : Nat :=
  digits.foldl (fun n c => 10 * n + (Text.digitValue? c).getD 0) 0

/-- The number that a list of digits denotes, if there are few enough of
them. -/
def read (digits : Text) : Except Error Nat :=
  if digits.length ≤ maxDigits then .ok (value digits) else .error .tooLong

/-- The decimal digits of a natural number, without leading zeros. -/
def digits (n : Nat) : Text :=
  if n < 10 then [n.digitChar] else digits (n / 10) ++ [(n % 10).digitChar]

/-- The decimal digits of a natural number, with zeros in front to make
at least `width` digits. -/
def padded (width n : Nat) : Text :=
  List.replicate (width - (digits n).length) '0' ++ digits n

/-- The decimal digits of an integer, after a minus sign where it is
negative. -/
def ofInt (n : Int) : Text :=
  if n < 0 then '-' :: digits n.natAbs else digits n.natAbs

/-- The decimal digits of an integer, if there are few enough of them. -/
def write (n : Int) : Except Error Text :=
  if (digits n.natAbs).length ≤ maxDigits then .ok (ofInt n) else .error .tooLong

end Numeral

end DriftPatch
