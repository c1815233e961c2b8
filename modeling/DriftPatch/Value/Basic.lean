import DriftPatch.Decimal.Binary64
import DriftPatch.Table
import DriftPatch.Value.Moment

/-!
# Values

A **value** is what a document holds before anything is known about its
meaning: settings and records come as values and are checked for what
they should be. Mappings keep their entries in order, and any value
without parts can be a key.

Keys are compared by what they denote: `1`, `1.0` and `true` are one key,
and so are two moments that are the same instant. What is not a number is
the same as nothing, itself included.
-/

namespace DriftPatch

/-- **A value.** -/
inductive Value where
  /-- The absence of a value. -/
  | null
  /-- A truth value. -/
  | bool (b : Bool)
  /-- A whole number. -/
  | int (n : Int)
  /-- A floating-point number. -/
  | float (x : Float)
  /-- A text. -/
  | text (t : Text)
  /-- A text with halves of characters, by its codes. -/
  | ragged (codes : List Nat)
  /-- Raw bytes. -/
  | bytes (b : List UInt8)
  /-- A date. -/
  | date (d : Date)
  /-- A moment. -/
  | moment (m : Moment)
  /-- A list. -/
  | list (items : List Value)
  /-- A pair of two values. -/
  | pair (first second : Value)
  /-- A set, its members in order. -/
  | set (members : List Value)
  /-- A mapping, its entries in order. -/
  | mapping (entries : List (Value × Value))
  /-- A list, or a mapping, met again within itself. -/
  | cycle (isMapping : Bool)

namespace Value

/-- What a value that counts as a number denotes. -/
inductive Number where
  /-- A whole number. -/
  | whole (n : Int)
  /-- Any other number. -/
  | other (x : Decimal.Binary)
  deriving DecidableEq

/-- A floating-point number by what it denotes. -/
def Number.ofFloat (x : Float) : Number :=
  match Decimal.Binary.ofFloat x with
  | .finite negative m q =>
    let (num, den) := Decimal.scaleBinary m 1 q
    if num % den = 0 then
      .whole (if negative then -(num / den : Nat) else (num / den : Nat))
    else .other (.finite negative m q)
  | special => .other special

/-- The number that a value denotes. Truth values count as 0 and 1. -/
def number? : Value → Option Number
  | .bool b => some (.whole (if b then 1 else 0))
  | .int n => some (.whole n)
  | .float x =>
    match Number.ofFloat x with
    | .other .nan => none
    | n => some n
  | _ => none

/-- Whether two values are the same key. -/
def sameKey : Value → Value → Bool
  | .null, .null => true
  | .text t, .text u => t == u
  | .ragged c, .ragged d => c == d
  | .bytes b, .bytes c => b == c
  | .date d, .date e => d == e
  | .moment m, .moment n => m.same n
  | v, w =>
    match v.number?, w.number? with
    | some m, some n => m == n
    | _, _ => false

instance : BEq Value := ⟨sameKey⟩

/-- Whether a value says nothing: it is absent, false, zero or empty. -/
def isVoid : Value → Bool
  | .null => true
  | .bool b => !b
  | .int n => n == 0
  | .float x => x == 0
  | .text t => t.isEmpty
  | .bytes b => b.isEmpty
  | .list items => items.isEmpty
  | .set members => members.isEmpty
  | .mapping entries => entries.isEmpty
  | _ => false

/-! ## Reading -/

/-- The value under a text in the entries of a mapping. -/
def member? (entries : List (Value × Value)) (key : Text) : Option Value :=
  Table.get? (.text key) entries

/-- The word for the kind of a value, as log lines give it. -/
def kindName : Value → Text
  | .null => "NoneType".toList
  | .bool _ => "bool".toList
  | .int _ => "int".toList
  | .float _ => "float".toList
  | .text _ | .ragged _ => "str".toList
  | .bytes _ => "bytes".toList
  | .date _ => "date".toList
  | .moment _ => "datetime".toList
  | .list _ | .cycle false => "list".toList
  | .pair _ _ => "tuple".toList
  | .set _ => "set".toList
  | .mapping _ | .cycle true => "dict".toList

end Value

end DriftPatch
