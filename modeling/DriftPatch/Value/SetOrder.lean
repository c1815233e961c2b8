import DriftPatch.Value.Basic

/-!
# The order of a set

A set shows its members in the order in which they lie in a **table**.
Each member has a hash, a word of 64 bits that values which are the same
key share. The hash leads to one place of the table after another, and
the member takes the first of them that is free.

Not every value has a hash that is the same from one run to the next. A
set with a member that has none keeps its members as they came.
-/

namespace DriftPatch.Value

/-! ## Hashes -/

/-- Numbers count modulo this prime. -/
def hashModulus : Nat :=
  Decimal.twoTo 61 - 1

/-- The hash of an infinity. -/
def infinityHash : Nat := 314159

/-- A hash from its sign and its amount. The hash that all bits would be
set in goes to its neighbour. -/
def signedHash (negative : Bool) (n : Nat) : UInt64 :=
  if negative then (if n = 1 then -2 else -(UInt64.ofNat n)) else UInt64.ofNat n

/-- The hash of a number. Two to the power of 61 is one, modulo the prime,
so fractions have a hash as well. -/
def Number.hash? : Number → Option UInt64
  | .whole n => some (signedHash (n < 0) (n.natAbs % hashModulus))
  | .other .nan => none
  | .other (.infinite negative) => some (signedHash negative infinityHash)
  | .other (.finite negative m q) =>
    some (signedHash negative (m * Decimal.twoTo (q % 61).toNat % hashModulus))

/-- A word whose bits are moved round to the left by 31 places. -/
def rotate (x : UInt64) : UInt64 :=
  x <<< 31 ||| x >>> 33

/-- One hash made of several. -/
def combineHashes (hashes : List UInt64) : UInt64 :=
  let mixed := hashes.foldl
    (fun acc x => rotate (acc + x * 14029467366897019727) * 11400714785074694791)
    2870177450012600261
  let combined := mixed + (UInt64.ofNat hashes.length ^^^ 2870177450012600261 ^^^ 3527539)
  if combined = -1 then 1546275796 else combined

/-- The hash of a moment, if its offset is known: that of the days, the
seconds and the millionths from the last day before the year 1 up to
it. -/
def momentHash? (m : Moment) : Option UInt64 :=
  if m.offset.isNone then none
  else
    let seconds := m.instant / 1000000
    let ofInt (n : Int) : UInt64 := signedHash (n < 0) n.natAbs
    some (combineHashes [ofInt (seconds / 86400 + 1), ofInt (seconds % 86400),
      ofInt (m.instant % 1000000)])

/-- The hash of the absence of a value. -/
def nullHash : UInt64 := 0xa4f

/-- **The hash of a value**, if it has one. -/
def hash? : Value → Option UInt64
  | .null => some nullHash
  | .text [] | .bytes [] => some 0
  | .moment m => momentHash? m
  | v => v.number?.bind Number.hash?

/-! ## Places -/

/-- The number of places for the members of a set: eight, or from five
members on the least power of two that is more than twice their number. -/
def placesFor (count : Nat) : Nat :=
  if count < 5 then 8 else Decimal.twoTo (Nat.log2 (2 * count) + 1)

/-- How many neighbours are tried at once, where there are so many. -/
def neighbours : Nat := 10

/-- The first free place on the way of a hash. The way goes from a place
to its neighbours, and then jumps; what is left of the hash decides
where. -/
def freePlace (table : Array (Option Value)) : Nat → (place rest : Nat) → Nat
  | 0, place, _ => place
  | fuel + 1, place, rest =>
    let tried := if place + neighbours ≤ table.size then neighbours else 1
    match (List.range' place tried).find? fun i => (table.getD i none).isNone with
    | some free => free
    | none =>
      let rest := rest / 32
      freePlace table fuel ((place * 5 + 1 + rest) % table.size) rest

/-- Puts a value into a table. As soon as the hash is used up, thirteen
jumps on, the way leads through all places. -/
def seat (table : Array (Option Value)) (v : Value) (hash : UInt64) : Array (Option Value) :=
  let place := freePlace table (table.size + 14) (hash.toNat % table.size) hash.toNat
  table.setIfInBounds place (some v)

/-- **The members of a set in order**, from those that were put in first
to the last. -/
def arrange (members : List Value) : List Value :=
  match members.mapM fun v => v.hash?.map (v, ·) with
  | none => members
  | some hashed =>
    let empty := Array.replicate (placesFor members.length) none
    (hashed.foldl (fun table (v, hash) => seat table v hash) empty).toList.filterMap id

end DriftPatch.Value
