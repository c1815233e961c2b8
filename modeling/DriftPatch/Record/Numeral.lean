import DriftPatch.Record.Checked
import DriftPatch.Text.Blank

/-!
# Whole numbers written as texts

The plain form of a whole number is a minus sign or none and digits
without needless zeros in front. A field also takes a number that is
written in more words: with padding around it, a plus sign, zeros in
front, a fraction of zeros, and underscores between its digits. Such a
text is first stripped of all that (`Field.plain?`).

A number in plain form that is too long is told apart from what is no
number at all; in any other form it is not.
-/

namespace DriftPatch.Field

/-- Whether a character is a digit that a number can start with. -/
def isLeadingDigit (c : Char) : Bool :=
  '1' ≤ c && c ≤ '9'

/-- Whether a text starts with a minus sign, and what follows it. -/
def splitMinus : Text → Bool × Text
  | '-' :: t => (true, t)
  | t => (false, t)

/-- The digits of a whole number at the front of a text: a zero on its
own, or digits of which the first is no zero. -/
def plainDigits : Text → Text
  | '0' :: _ => ['0']
  | t => t.takeWhile Text.isAsciiDigit

/-- The whole number that a text in plain form denotes. The number of its
digits is limited, and what comes behind a number that is too long does
not matter. -/
def readPlain (t : Text) : Except Complaint Int :=
  let (isNegative, number) := splitMinus t
  let digits := plainDigits number
  if Numeral.maxDigits < digits.length then .error .numeralTooLarge
  else if digits = [] ∨ digits.length < number.length then .error .badNumeral
  else
    let n : Int := Numeral.value digits
    .ok (if isNegative then -n else n)

/-! ## Other forms -/

/-- What is left of a number behind a zero, or an underscore, when the
zeros and underscores in front are dropped. One of them stays where
nothing else or a point follows. -/
def dropMoreZeros (last : Char) : Text → Option Text
  | [] => some [last]
  | c :: t =>
    if c = '0' ∨ c = '_' then dropMoreZeros c t
    else if c = '.' then some (last :: c :: t)
    else if c = '-' ∨ isLeadingDigit c then some (c :: t)
    else none

/-- A number without the zeros in front. -/
def dropZeros : Text → Option Text
  | [] => none
  | c :: t =>
    if c = '0' then dropMoreZeros c t
    else if c = '-' ∨ isLeadingDigit c then some (c :: t)
    else none

/-- A number that has no minus sign, without the plus sign in front. No
minus may follow it. -/
def dropPlus : Text → Option Text
  | '+' :: '-' :: _ => none
  | '+' :: t => some t
  | t => some t

/-- A number without a fraction of zeros. -/
def dropFraction (t : Text) : Text :=
  match t.dropWhile (· != '.') with
  | [] | [_] => t
  | _ :: fraction => if fraction.all (· == '0') then t.takeWhile (· != '.') else t

/-- A number without the single underscores between its digits. -/
def joinGroups (t : Text) : Text :=
  let groups := t.splitOn '_'
  if groups.all (· != []) then groups.flatten else t

/-- **The plain form of a number**, if the text has one of the other
forms. -/
def plain? (t : Text) : Option Text := do
  let (isNegative, number) := splitMinus t.unpadded
  let number ← dropZeros (← if isNegative then some number else dropPlus number)
  let number := joinGroups (dropFraction number)
  return if isNegative then '-' :: number else number

/-- **The whole number that a text denotes.** -/
def ofNumeral (t : Text) : Checked Int :=
  match readPlain t with
  | .ok n => .valid n
  | .error .numeralTooLarge => .fail .numeralTooLarge
  | .error _ =>
    match (plain? t).map readPlain with
    | some (.ok n) => .valid n
    | _ => .fail .badNumeral

end DriftPatch.Field
