import DriftPatch.Text.Literal

/-!
# Texts with halves of characters

A character that takes more than sixteen bits can be written as two
**halves**. A half has a code and is no character, so a text that halves
are written in is given by its codes.

Two halves in a row are not joined as long as the text is worked with, and
the text keeps its codes. Only the image of it that is shown outside is a
text of characters: where it is shown on its own two halves make their
character there, and a half that stands alone shows as the mark for what
cannot be shown; within a list or a mapping every half shows as its code.
-/

namespace DriftPatch

/-- Whether a code is that of the first half of a character. -/
def isHighHalf (code : Nat) : Bool :=
  0xd800 ≤ code && code < 0xdc00

/-- Whether a code is that of the second half of a character. -/
def isLowHalf (code : Nat) : Bool :=
  0xdc00 ≤ code && code < 0xe000

/-- Whether a code is that of a half. -/
def isHalf (code : Nat) : Bool :=
  isHighHalf code || isLowHalf code

/-- The character of two halves. -/
def joinHalves (high low : Nat) : Char :=
  Char.ofNat (0x10000 + 0x400 * (high - 0xd800) + (low - 0xdc00))

/-- **What was written**: a text, or codes some of which are those of
halves. -/
inductive Written where
  /-- A text. -/
  | text (t : Text)
  /-- The codes of characters and of halves. -/
  | ragged (codes : List Nat)
  deriving DecidableEq, Repr

namespace Written

/-- What codes stand for. -/
def ofCodes (codes : List Nat) : Written :=
  if codes.any isHalf then .ragged codes else .text (codes.map Char.ofNat)

/-- The character that stands in the place of a code. -/
def faceOf (code : Nat) : Char :=
  if isHalf code then '\ufffd' else Char.ofNat code

/-- What was written, with the mark for what cannot be shown in the place
of every half. -/
def face : Written → Text
  | .text t => t
  | .ragged codes => codes.map faceOf

end Written

namespace Text

/-- **The image of a text of codes on its own**, as it is shown outside:
halves are joined where they can be. The text itself keeps its codes, so two
such texts may have one image. -/
def ofCodes : List Nat → Text
  | [] => []
  | [code] => [Written.faceOf code]
  | high :: low :: rest =>
    if isHighHalf high && isLowHalf low then joinHalves high low :: ofCodes rest
    else Written.faceOf high :: ofCodes (low :: rest)

/-- The text of codes as a literal. -/
def literalCodes (codes : List Nat) : Text :=
  let mark := literalMark (codes.map Written.faceOf)
  let shown (code : Nat) : Text :=
    if isHalf code then ['\\', 'u'] ++ hexDigits 4 code else literalChar mark (Char.ofNat code)
  [mark] ++ codes.flatMap shown ++ [mark]

/-- The lower case of codes that follow a run of characters, given last
one first. A half is no letter, so each run is a text of its own. -/
def lowerCodesAfter (before : Text) : List Nat → List Nat
  | [] => (lower before.reverse).map Char.toNat
  | code :: rest =>
    if isHalf code then
      (lower before.reverse).map Char.toNat ++ code :: lowerCodesAfter [] rest
    else lowerCodesAfter (Char.ofNat code :: before) rest

/-- The lower case of codes. -/
def lowerCodes (codes : List Nat) : List Nat :=
  lowerCodesAfter [] codes

end Text

end DriftPatch
