import DriftPatch.Text.Basic

/-!
# UTF-8 in pieces

The bytes of a text may come in pieces that end anywhere, also within a
character. `Utf8.decode` reads as many characters as are complete and
leaves the bytes of the one that has only begun. Bytes that begin no
character are told from the first byte that does not fit.
-/

namespace DriftPatch.Utf8

/-- How many bytes follow the first byte of a character. -/
def followers? (lead : UInt8) : Option Nat :=
  if lead < 0x80 then some 0
  else if 0xc2 ≤ lead ∧ lead < 0xe0 then some 1
  else if 0xe0 ≤ lead ∧ lead < 0xf0 then some 2
  else if 0xf0 ≤ lead ∧ lead < 0xf5 then some 3
  else none

/-- Whether a byte can be the second one of a character. The shortest
form is the only one, halves of pairs are no characters, and the last
character is `0x10ffff`. -/
def fitsSecond (lead second : UInt8) : Bool :=
  let least : UInt8 := if lead = 0xe0 then 0xa0 else if lead = 0xf0 then 0x90 else 0x80
  let most : UInt8 := if lead = 0xed then 0x9f else if lead = 0xf4 then 0x8f else 0xbf
  least ≤ second && second ≤ most

/-- Whether bytes can follow the first one of a character, as far as they
go. -/
def fit (lead : UInt8) : List UInt8 → Bool
  | [] => true
  | second :: rest => fitsSecond lead second && rest.all fun b => 0x80 ≤ b && b ≤ 0xbf

/-- The character that complete bytes denote: six bits from each byte
after the first, and from the first what its length leaves. -/
def charOf (lead : UInt8) (rest : List UInt8) : Char :=
  let high := if rest = [] then lead.toNat else lead.toNat % (0x40 >>> rest.length)
  Char.ofNat (rest.foldl (fun n b => 0x40 * n + b.toNat % 0x40) high)

/-- What stands at the front of some bytes. -/
inductive Front where
  /-- A character, with the bytes behind it. -/
  | char (c : Char) (rest : List UInt8)
  /-- The start of a character at most. -/
  | unfinished
  /-- Nothing that can become a character. -/
  | invalid

/-- What stands at the front of some bytes. -/
def front : List UInt8 → Front
  | [] => .unfinished
  | lead :: rest =>
    match followers? lead with
    | none => .invalid
    | some n =>
      let given := rest.take n
      if !fit lead given then .invalid
      else if given.length < n then .unfinished
      else .char (charOf lead given) (rest.drop n)

/-- The characters that some bytes begin with, at most as many as the
limit says, before those already read, last one first. -/
def decodeWithin : Nat → (done : Text) → List UInt8 → Option (Text × List UInt8)
  | 0, done, bytes => some (done.reverse, bytes)
  | limit + 1, done, bytes =>
    match front bytes with
    | .char c rest => decodeWithin limit (c :: done) rest
    | .unfinished => some (done.reverse, bytes)
    | .invalid => none

/-- **The characters of some bytes**, and the bytes of a character that
has only begun; nothing if some bytes can become no character. -/
def decode (bytes : List UInt8) : Option (Text × List UInt8) :=
  decodeWithin bytes.length [] bytes

end DriftPatch.Utf8
