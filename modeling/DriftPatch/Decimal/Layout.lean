import DriftPatch.Decimal.Shortest

/-!
# Layouts of floating-point numbers

The digits of a number are one thing and the way they are set another: a
**layout** says which numbers are written with all their places and which
with a power of ten.
-/

namespace DriftPatch.Decimal

/-- **How the digits of a number are set.** -/
structure Layout where
  /-- The least power of ten of a first digit that is set in place. -/
  positionalFrom : Int
  /-- The first power of ten of a first digit that is no longer set in
  place. -/
  positionalTo : Int
  /-- What follows the digits of a whole number set in place. -/
  wholeMark : Text
  /-- The mark before the power of ten. -/
  powerMark : Char
  /-- The least number of digits in the power of ten. -/
  powerDigits : Nat
  /-- The text of an infinity. -/
  infinity : Text
  /-- The text of what is not a number. -/
  notANumber : Text

namespace Layout

/-- Zeros to fill up a count of digits. -/
def zeros (count : Int) : Text :=
  List.replicate count.toNat '0'

/-- Digits set in place, when the first one stands for `10 ^ lead`. -/
def positional (l : Layout) (digits : Text) (lead : Int) : Text :=
  if lead < 0 then ['0', '.'] ++ zeros (-lead - 1) ++ digits
  else if (digits.length : Int) ≤ lead + 1 then
    digits ++ zeros (lead + 1 - digits.length) ++ l.wholeMark
  else digits.take (lead + 1).toNat ++ ['.'] ++ digits.drop (lead + 1).toNat

/-- Digits set as a number below ten and a power of ten. -/
def scientific (l : Layout) (digits : Text) (lead : Int) : Text :=
  let power := Numeral.digits lead.natAbs
  digits.take 1
    ++ (if digits.length ≤ 1 then [] else '.' :: digits.drop 1)
    ++ [l.powerMark, if lead < 0 then '-' else '+']
    ++ zeros (l.powerDigits - power.length) ++ power

/-- **The text of a number**: its shortest decimal, set as the layout
says. -/
def write (l : Layout) (x : Float) : Text :=
  let sign (negative : Bool) : Text := if negative then ['-'] else []
  match Binary.ofFloat x with
  | .nan => l.notANumber
  | .infinite negative => sign negative ++ l.infinity
  | .finite negative 0 _ => sign negative ++ l.positional ['0'] 0
  | .finite negative m q =>
    let (number, power) := shortest m q
    let digits := Numeral.digits number
    let lead := power + digits.length - 1
    -- Zeros at the end of the digits say nothing: the power counts them.
    let digits := (digits.reverse.dropWhile (· == '0')).reverse
    sign negative ++
      if l.positionalFrom ≤ lead && lead < l.positionalTo then l.positional digits lead
      else l.scientific digits lead

end Layout

end DriftPatch.Decimal
