/-!
# Floating-point numbers as exact numbers

A finite floating-point number is `m · 2 ^ q` for a natural number `m`
below `2 ^ 53`, up to sign. `Decimal.Binary.ofFloat` takes a number apart
in this way, and `Decimal.nearest` finds the number next to a decimal
fraction, a fraction half way between two going to the even one. Both
compute with natural numbers only.
-/

namespace DriftPatch.Decimal

/-- Two to a power. -/
def twoTo (n : Nat) : Nat :=
  Nat.pow 2 n

/-- Ten to a power. -/
def tenTo (n : Nat) : Nat :=
  Nat.pow 10 n

/-- **A floating-point number**, taken apart. -/
inductive Binary where
  /-- Not a number. -/
  | nan
  /-- An infinity. -/
  | infinite (negative : Bool)
  /-- The number `mantissa · 2 ^ exponent`, or its opposite. -/
  | finite (negative : Bool) (mantissa : Nat) (exponent : Int)
  deriving DecidableEq, Repr

/-- The exponent of the smallest positive number. -/
def minExponent : Int := -1074

/-- The number of bits in a full mantissa. -/
def mantissaBits : Nat := 53

/-- A floating-point number, taken apart by the fields of its word. -/
def Binary.ofFloat (x : Float) : Binary :=
  let word := x.toBits.toNat
  let negative := decide (twoTo 63 ≤ word)
  let field : Nat := word / twoTo 52 % twoTo 11
  let fraction := word % twoTo 52
  if field = 2047 then
    if fraction = 0 then .infinite negative else .nan
  else if field = 0 then .finite negative fraction minExponent
  else .finite negative (twoTo 52 + fraction) ((field : Int) - 1075)

/-- The quotient of two natural numbers, to the nearest one; a half goes
to the even neighbour. -/
def roundDiv (num den : Nat) : Nat :=
  let quotient := num / den
  let rest := 2 * (num % den)
  if rest < den ∨ (rest = den ∧ quotient % 2 = 0) then quotient else quotient + 1

/-- The fraction `num / den` times two to a power, as a fraction. -/
def scaleBinary (num den : Nat) (power : Int) : Nat × Nat :=
  if 0 ≤ power then (num * twoTo power.toNat, den) else (num, den * twoTo power.natAbs)

/-- The word of the floating-point number `mantissa · 2 ^ exponent`, for a
mantissa of at most 53 bits that is full unless the exponent is the least
one. Numbers beyond the largest become infinite. -/
def wordOf (mantissa : Nat) (exponent : Int) : Nat :=
  if mantissa < twoTo 52 then mantissa
  else if 971 < exponent then 2047 * twoTo 52
  else (exponent + 1075).toNat * twoTo 52 + (mantissa - twoTo 52)

/-- The word of the floating-point number nearest to a positive
fraction. -/
def nearestWord (num den : Nat) : Nat :=
  -- The first guess at the exponent may be one too small, never too large.
  let guess : Int := (num.log2 : Int) - den.log2 - mantissaBits
  let (n, d) := scaleBinary num den (-guess)
  let exponent := max minExponent (if n < twoTo mantissaBits * d then guess else guess + 1)
  let (n, d) := scaleBinary num den (-exponent)
  let mantissa := roundDiv n d
  if mantissa = twoTo mantissaBits then wordOf (twoTo 52) (exponent + 1)
  else wordOf mantissa exponent

/-- The floating-point number nearest to `digits · 10 ^ power`. -/
def nearest (digits : Nat) (power : Int) : Float :=
  -- Numbers far out of range are told by their size, which is bounded here
  -- from above and from below without computing the power of ten.
  let bits := digits.log2
  if digits = 0 ∨ bits / 3 + 1 + power < -330 then 0
  else if 310 < bits / 4 + power then Float.ofBits (UInt64.ofNat (2047 * twoTo 52))
  else
    let word :=
      if 0 ≤ power then nearestWord (digits * tenTo power.toNat) 1
      else nearestWord digits (tenTo power.natAbs)
    Float.ofBits (UInt64.ofNat word)

end DriftPatch.Decimal
