import DriftPatch.Decimal.Binary64
import DriftPatch.Text.Numeral

/-!
# The shortest decimal that reads back

Every decimal fraction in a certain interval around a floating-point
number is read as that number: the ends lie half way to its neighbours,
and belong to the interval where the mantissa is even. Of the decimals in
the interval, `Decimal.shortest` chooses one with the fewest digits, and
of those the nearest to the number; of two equally near ones the one with
the even last digit.

For each number of digits only the two multiples of a power of ten next
to the number have to be tried: if any multiple lies in the interval, so
does one of these.
-/

namespace DriftPatch.Decimal

/-- **The decimal fractions read as one number**: everything between
`low / den` and `high / den`, with `value / den` the number itself. -/
structure Interval where
  /-- The lower end. -/
  low : Nat
  /-- The number. -/
  value : Nat
  /-- The upper end. -/
  high : Nat
  /-- The denominator of the three. -/
  den : Nat
  /-- Whether the ends belong to the interval. -/
  closed : Bool

/-- The interval around the number `m · 2 ^ q`. Below a power of two the
neighbours are twice as close as above it. -/
def intervalOf (m : Nat) (q : Int) : Interval :=
  let below := if m = twoTo 52 ∧ minExponent < q then 1 else 2
  let scale := twoTo (q - 2).toNat
  { low := (4 * m - below) * scale
    value := 4 * m * scale
    high := (4 * m + 2) * scale
    den := twoTo (2 - q).toNat
    closed := m % 2 = 0 }

/-- The fraction `num / den` in units of `10 ^ power`, as a fraction. -/
def scaleDecimal (num den : Nat) (power : Int) : Nat × Nat :=
  if 0 ≤ power then (num, den * tenTo power.toNat) else (num * tenTo power.natAbs, den)

/-- Whether `n · 10 ^ power` lies in the interval. -/
def Interval.holds (i : Interval) (n : Nat) (power : Int) : Bool :=
  let (low, den) := scaleDecimal i.low i.den power
  let (high, _) := scaleDecimal i.high i.den power
  if i.closed then low ≤ n * den && n * den ≤ high else low < n * den && n * den < high

/-- Of the two multiples of `10 ^ power` next to the number, the nearest
one that lies in the interval. -/
def Interval.multiple? (i : Interval) (power : Int) : Option Nat :=
  let (value, den) := scaleDecimal i.value i.den power
  let near := roundDiv value den
  let far := if near * den ≤ value then near + 1 else near - 1
  if i.holds near power then some near else if i.holds far power then some far else none

/-- The power of ten of the first digit of the positive fraction
`num / den`. -/
def leadingPower (num den : Nat) : Int :=
  if den ≤ num then (Numeral.digits (num / den)).length - 1
  else
    let places := (Numeral.digits (den / num)).length
    if den ≤ num * tenTo (places - 1) then 1 - (places : Int) else -places

/-- **The shortest decimal** for the number `m · 2 ^ q` with `m` positive:
digits and a power of ten. Seventeen digits always suffice. -/
def shortest (m : Nat) (q : Int) : Nat × Int :=
  let i := intervalOf m q
  let lead := leadingPower i.value i.den
  ((List.range 17).findSome? fun n : Nat =>
    let power := lead - n
    (i.multiple? power).map (·, power)).getD (0, 0)

end DriftPatch.Decimal
