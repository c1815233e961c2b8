import DriftPatch.Text.Basic
import DriftPatch.Text.CaseTable

/-!
# Lower case

The full lower-casing of Unicode. Every capital has one small letter,
except in two places. The dotted capital İ becomes an `i` and a combining
dot. The capital sigma has two small forms, and the one written at the
end of a word is chosen where a cased letter stands before it and none
after it; accents and apostrophes do not count as letters for that rule,
so it looks through them.
-/

namespace DriftPatch.Text

/-- Whether a code point lies in one of the ranges. -/
def inRanges (ranges : List (Nat × Nat)) (c : Char) : Bool :=
  ranges.any fun (first, last) => first ≤ c.toNat && c.toNat ≤ last

/-- Whether case rules look through a character. -/
def isCaseIgnorable (c : Char) : Bool :=
  inRanges caseIgnorableRanges c

/-- Whether the first character that case rules do not look through is a
cased letter. -/
def meetsCased (t : Text) : Bool :=
  (t.dropWhile isCaseIgnorable).head?.any (inRanges casedRanges)

/-- The small letter of a capital that has just one; any other character
is its own. -/
def lowerChar (c : Char) : Char :=
  match lowerRuns.find? fun r =>
      r.first ≤ c.toNat && c.toNat ≤ r.last && (c.toNat - r.first) % r.step == 0 with
  | some r => Char.ofNat (c.toNat + r.shift).toNat
  | none => c

/-- Lower case of the text that follows `before`, given last character
first. -/
def lowerAfter (before : Text) : Text → Text
  | [] => []
  | c :: t =>
    let small :=
      if c = 'Σ' then (if meetsCased before && !meetsCased t then ['ς'] else ['σ'])
      else if c = 'İ' then ['i', '\u0307']
      else [lowerChar c]
    small ++ lowerAfter (c :: before) t

/-- **Lower case** of a text. -/
def lower (t : Text) : Text :=
  lowerAfter [] t

end DriftPatch.Text
