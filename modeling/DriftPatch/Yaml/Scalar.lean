import DriftPatch.Text.Blank
import DriftPatch.Text.Halves
import DriftPatch.Value.Basic
import DriftPatch.Yaml.Tag

/-!
# The values of scalars

What the text of a scalar denotes, given its kind. A kind that the form
of the scalar has shown nearly always has a value; a kind that the
document names may be given to any text, and then there may be none.
-/

namespace DriftPatch.Yaml.Scalar

/-- A text without its underscores, which only make numbers readable. -/
def dropLow (t : Text) : Text :=
  t.filter (· != '_')

/-- Whether a text starts with a minus sign. -/
def isNegative (t : Text) : Bool :=
  t.head? == some '-'

/-! ## Whole numbers -/

/-- The value of a digit in a base up to sixteen. -/
def digit? (base : Nat) (c : Char) : Option Nat :=
  let value :=
    match Text.digitValue? c with
    | some n => some n
    | none =>
      if 'a' ≤ c ∧ c ≤ 'f' then some (c.toNat - 'a'.toNat + 10)
      else if 'A' ≤ c ∧ c ≤ 'F' then some (c.toNat - 'A'.toNat + 10)
      else none
  value.filter (· < base)

/-- A text without the mark of its base in front. -/
def dropBaseMark (base : Nat) (t : Text) : Text :=
  match base, t with
  | 2, '0' :: 'b' :: rest | 2, '0' :: 'B' :: rest => rest
  | 8, '0' :: 'o' :: rest | 8, '0' :: 'O' :: rest => rest
  | 16, '0' :: 'x' :: rest | 16, '0' :: 'X' :: rest => rest
  | _, t => t

/-- The whole number that a text denotes in a base: blanks around it, a
sign, and the mark of the base may stand with its digits. In base ten
there is a limit to their number. -/
def readInt (base : Nat) (t : Text) : Except Fault Int :=
  let t := t.unpadded
  let digits := dropBaseMark base (Tag.unsigned t)
  if digits = [] ∨ (base = 10 ∧ Numeral.maxDigits < digits.length) then .error .badValue
  else
    match digits.mapM (digit? base) with
    | none => .error .badValue
    | some ds =>
      let n : Nat := ds.foldl (fun n d => base * n + d) 0
      .ok (if isNegative t then -(n : Int) else n)

/-- Numbers of base sixty, joined to one. -/
def joinSixty (ns : List Int) : Int :=
  ns.foldl (fun n d => 60 * n + d) 0

/-- The whole number that a scalar denotes. What comes after the sign
says in which base it is written. -/
def int (t : Text) : Except Fault Int := do
  let t := dropLow t
  if t = [] then .error .emptyNumber
  else
    let n ←
      match Tag.unsigned t with
      | [] => .error .emptyNumber
      | ['0'] => .ok 0
      | '0' :: 'b' :: rest => readInt 2 rest
      | '0' :: 'x' :: rest => readInt 16 rest
      | '0' :: rest => readInt 8 ('0' :: rest)
      | digits =>
        if digits.contains ':' then return joinSigned t (← (digits.splitOn ':').mapM (readInt 10))
        else readInt 10 digits
    return if isNegative t then -n else n
where
  /-- Numbers of base sixty, joined and signed. -/
  joinSigned (t : Text) (ns : List Int) : Int :=
    if isNegative t then -joinSixty ns else joinSixty ns

/-! ## Floating-point numbers -/

/-- The digits of a text in ASCII, if they are all digits. -/
def digits? (t : Text) : Option Text :=
  t.mapM fun c => (Text.digitValue? c).map Nat.digitChar

/-- The number that a decimal without a sign denotes: digits with at most
one point among them, and possibly a power of ten. -/
def decimal? (t : Text) : Option Float := do
  let isMark (c : Char) : Bool := c == 'e' || c == 'E'
  let number := t.takeWhile (!isMark ·)
  let whole ← digits? (number.takeWhile (· != '.'))
  let fraction ← digits? ((number.dropWhile (· != '.')).drop 1)
  if whole ++ fraction = [] then none
  else
    let power : Int ←
      match t.dropWhile (!isMark ·) with
      | [] => some 0
      | _ :: power => do
        let ds ← digits? (Tag.unsigned power)
        if ds = [] then none
        else
          let n : Int := Numeral.value ds
          some (if isNegative power then -n else n)
    return Decimal.nearest (Numeral.value (whole ++ fraction)) (power - fraction.length)

/-- Infinity. -/
def infinity : Float := 1.0 / 0.0

/-- What is not a number. -/
def notANumber : Float := 0.0 / 0.0

/-- The floating-point number that a text denotes. -/
def readFloat (t : Text) : Except Fault Float :=
  let t := t.unpadded
  let number := Tag.unsigned t
  let word := number.lower
  let magnitude :=
    if word = "inf".toList ∨ word = "infinity".toList then some infinity
    else if word = "nan".toList then some notANumber
    else decimal? number
  match magnitude with
  | none => .error .badValue
  | some x => .ok (if isNegative t then -x else x)

/-- The most numbers of base sixty that are joined to a floating-point
number: the weight of the next one is beyond the range of such numbers. -/
def maxSixtyParts : Nat := 174

/-- Numbers of base sixty, joined to one from the last on. -/
def joinSixtyFloat (xs : List Float) : Except Fault Float :=
  if maxSixtyParts < xs.length then .error .tooLarge
  else
    .ok (xs.reverse.foldl (fun (sum, base) x => (sum + x * Float.ofNat base, 60 * base))
      ((0.0 : Float), 1)).1

/-- Whether a scalar is the word for what is not a number. All such
scalars are one and the same value. -/
def isNotANumberWord (t : Text) : Bool :=
  Tag.unsigned (dropLow t).lower == ['.', 'n', 'a', 'n']

/-- The floating-point number that a scalar denotes. -/
def float (t : Text) : Except Fault Float := do
  let t := (dropLow t).lower
  if t = [] then .error .emptyNumber
  else
    let number := Tag.unsigned t
    let x ←
      if number = ['.', 'i', 'n', 'f'] then pure infinity
      else if isNotANumberWord t then return notANumber
      else if number.contains ':' then
        joinSixtyFloat (← (number.splitOn ':').mapM readFloat)
      else readFloat number
    return if isNegative t then -x else x

/-! ## Dates -/

/-- The millionths of a second that the digits of a fraction denote;
further digits do not count. -/
def microseconds (fraction : Text) : Nat :=
  Numeral.value ((fraction ++ List.replicate 6 '0').take 6)

/-- The date or the moment that a scalar denotes. -/
def timestamp (t : Text) : Except Fault Value :=
  match WrittenMoment.of? t with
  | none => .error .badDate
  | some w =>
    match Date.of? (Numeral.value w.year) (Numeral.value w.month) (Numeral.value w.day) with
    | none => .error .badValue
    | some date =>
      match w.time with
      | none => .ok (.date date)
      | some (hour, minute, second, fraction) =>
        match Moment.of? date (Numeral.value hour) (Numeral.value minute)
            (Numeral.value second) (microseconds fraction) w.offset with
        | some moment => .ok (.moment moment)
        | none => .error .badValue

/-! ## Bytes -/

/-- The value of a digit of base sixty-four. -/
def base64Value? (c : Char) : Option Nat :=
  if 'A' ≤ c ∧ c ≤ 'Z' then some (c.toNat - 'A'.toNat)
  else if 'a' ≤ c ∧ c ≤ 'z' then some (c.toNat - 'a'.toNat + 26)
  else if '0' ≤ c ∧ c ≤ '9' then some (c.toNat - '0'.toNat + 52)
  else if c = '+' then some 62
  else if c = '/' then some 63
  else none

/-- The bytes that digits of base sixty-four denote. Four digits make
three bytes; `place` is the number of digits of a group read, `left` what
is left of them, and `pads` the number of equality signs since the last
digit. A group may be filled up by such signs, which ends the text.
Characters that are no digits are passed over. -/
def base64 (place left pads : Nat) : Text → Option (List UInt8)
  | [] => if place = 0 then some [] else none
  | '=' :: rest =>
    if 2 ≤ place ∧ 4 ≤ place + (pads + 1) then some []
    else base64 place left (if 2 ≤ place then pads + 1 else pads) rest
  | c :: rest =>
    match base64Value? c with
    | none => base64 place left pads rest
    | some d =>
      match place with
      | 0 => base64 1 d 0 rest
      | 1 => (base64 2 (d % 16) 0 rest).map (UInt8.ofNat (left * 4 + d / 16) :: ·)
      | 2 => (base64 3 (d % 4) 0 rest).map (UInt8.ofNat (left * 16 + d / 4) :: ·)
      | _ => (base64 0 0 0 rest).map (UInt8.ofNat (left * 64 + d) :: ·)

/-- The bytes that a scalar denotes. -/
def binary (t : Text) : Except Fault (List UInt8) :=
  if t.all (·.toNat < 128) then
    match base64 0 0 0 t with
    | some bytes => .ok bytes
    | none => .error .malformed
  else .error .malformed

/-! ## Scalars of any kind -/

/-- **The value of a scalar** of a given kind. A scalar is no list and no
mapping. Only as a text it may hold halves of characters; for any other
kind they are characters without a meaning. -/
def value (tag : Tag) (w : Written) : Except Fault Value :=
  let t := w.face
  match tag with
  | .null => .ok .null
  | .bool =>
    match Tag.truthWords.lookup t.lower with
    | some b => .ok (.bool b)
    | none => .error .badWord
  | .int => (int t).map .int
  | .float => (float t).map .float
  | .timestamp => timestamp t
  | .binary => (binary t).map .bytes
  | .str =>
    match w with
    | .text t => .ok (.text t)
    | .ragged codes => .ok (.ragged codes)
  | .seq | .map | .set | .pairs | .merge | .value | .unknown => .error .malformed

end DriftPatch.Yaml.Scalar
