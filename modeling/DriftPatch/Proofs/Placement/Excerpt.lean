import DriftPatch.Proofs.Placement.Placed

/-!
# What a failure shows

A hunk that cannot be placed shows the first of the lines that it was looked for by,
as many as are asked for, each in a width that is asked for. A line that is longer
gives up its end to three dots, and with them it is just as long as the width.

The dots themselves are never cut. So in a width of one or two characters a line that
is too long is shown as three dots, and there alone the width is exceeded
(`Hunk.abridges_of_failure`).
-/

namespace DriftPatch

variable {h : Hunk} {offset : Int} {content : Text} {failure : Failure}
  {line shown : Line} {n w : Nat}

namespace Excerpt

/-- **A line as it is shown** in a width of `w` characters. -/
inductive Shows (w : Nat) (line : Line) : Line → Prop where
  /-- A line that is no longer is shown as it is. -/
  | whole (fits : line.length ≤ w) : Shows w line line
  /-- Of a longer one a piece from its start is shown, as long as the dots leave room
  for it, and the dots. -/
  | cut {kept : Line} (long : w < line.length) (start : kept <+: line) (proper : kept ≠ line)
    (room : kept.length = w - 3) : Shows w line (kept ++ ['.', '.', '.'])

theorem shows_truncate (hw : 1 ≤ w) (line : Line) : Shows w line (truncate w line) := by
  unfold truncate
  split
  · next h =>
    rcases h with hzero | hfits
    · omega
    · exact .whole (by omega)
  · next h =>
    have hlong : w < line.length := by omega
    have hroom : (line.take ((w : Int) - 3).toNat).length = w - 3 := by
      rw [List.length_take]
      omega
    refine .cut hlong (List.take_prefix _ _) (fun hwhole => ?_) hroom
    rw [hwhole] at hroom
    omega

/-- **How long a shown line is**: as long as the line where that fits, and else as
long as the width, if the dots fit into it. -/
theorem Shows.length_eq (h : Shows w line shown) :
    shown.length = if line.length ≤ w then line.length else max w 3 := by
  cases h with
  | whole fits => rw [if_pos fits]
  | cut long _ _ room =>
    rw [if_neg (Nat.not_le.2 long), List.length_append, room]
    show w - 3 + 3 = max w 3
    omega

/-- The width is exceeded by the dots alone. -/
theorem Shows.lt_length_iff (h : Shows w line shown) :
    w < shown.length ↔ w < line.length ∧ w < 3 := by
  rw [h.length_eq]
  split
  · omega
  · omega

end Excerpt

/-- **What a failure shows of a hunk**, of which `n` lines in a width of `w`
characters are asked for. -/
structure Failure.Abridges (failure : Failure) (h : Hunk) (n w : Nat) : Prop where
  /-- As many lines are shown as are asked for, or all of them. -/
  length_eq : failure.expected.length = min n h.oldLines.length
  /-- Each is one of the lines looked for, in order, shown in the width. -/
  shows : ∀ (i : Nat) (line shown : Line), h.oldLines[i]? = some line →
    failure.expected[i]? = some shown → Excerpt.Shows w line shown
  /-- The width is exceeded where a line is cut and the dots are too wide for it. -/
  exceeds_iff : ∀ (i : Nat) (line shown : Line), h.oldLines[i]? = some line →
    failure.expected[i]? = some shown → (w < shown.length ↔ w < line.length ∧ w < 3)
  /-- The sentence holds the lines that are shown. -/
  message_eq : failure.message = "Could not locate code to replace. Expected:\n".toList
    ++ Text.ofLines failure.expected ++ ['.', '.', '.']
  /-- The failure is one of the hunk, which is in no list. -/
  names : failure.hunkId = h.id ∧ failure.hunkIndex = none

namespace Hunk

theorem abridges_failure (hw : 1 ≤ w) (h : Hunk) :
    (h.failure { lines := n, width := w }).Abridges h n w := by
  have hexpected : (h.failure { lines := n, width := w }).expected
      = (h.oldLines.take n).map (Excerpt.truncate w) := by
    show (Excerpt.firstLines n h.oldLines).map (Excerpt.truncate w) = _
    rw [Excerpt.firstLines, if_pos (Int.natCast_nonneg n), Int.toNat_natCast]
  have hshows : ∀ (i : Nat) (line shown : Line), h.oldLines[i]? = some line →
      (h.failure { lines := n, width := w }).expected[i]? = some shown →
      Excerpt.Shows w line shown := by
    intro i line shown hline hshown
    rw [hexpected, List.getElem?_map, List.getElem?_take] at hshown
    split at hshown
    · rw [hline] at hshown
      rw [← Option.some.inj hshown]
      exact Excerpt.shows_truncate hw line
    · exact absurd hshown (Option.some_ne_none shown).symm
  exact
    { length_eq := by rw [hexpected, List.length_map, List.length_take]
      shows := hshows
      exceeds_iff := fun i line shown hline hshown =>
        (hshows i line shown hline hshown).lt_length_iff
      message_eq := rfl
      names := ⟨rfl, rfl⟩ }

/-- **What the failure of a hunk shows** is what is asked for, but for three dots in
a width of less. -/
theorem abridges_of_failure (hw : 1 ≤ w)
    (hfailure : (h.applyTo { lines := n, width := w } offset content).failure = some failure) :
    failure.Abridges h n w := by
  have hok : (h.applyTo { lines := n, width := w } offset content).ok = false := by
    rw [Outcome.ok, hfailure]
    rfl
  rw [applyTo_of_not_ok hok] at hfailure
  rw [← Option.some.inj hfailure]
  exact h.abridges_failure hw

/-- A hunk that removes a long line, a short one and another one. -/
def threeLines : Hunk :=
  { oldLines := [['a', 'b', 'c', 'd', 'e', 'f'], ['g', 'h'], ['i']] }

/-- Of the two lines asked for, the long one makes room for the dots, and the other
one is shorter than they would let it be. -/
theorem abridges_of_failure_threeLines :
    1 ≤ 5
      ∧ (threeLines.applyTo { lines := (2 : Nat), width := (5 : Nat) } 0 ['x']).failure
        = some { expected := [['a', 'b', '.', '.', '.'], ['g', 'h']], hunkId := .unnamed }
      ∧ Failure.Abridges
        { expected := [['a', 'b', '.', '.', '.'], ['g', 'h']], hunkId := .unnamed }
        threeLines 2 5 := by
  have hwidth : 1 ≤ 5 := by decide
  have hfailure : (threeLines.applyTo { lines := (2 : Nat), width := (5 : Nat) } 0 ['x']).failure
      = some { expected := [['a', 'b', '.', '.', '.'], ['g', 'h']], hunkId := .unnamed } := by
    decide
  exact ⟨hwidth, hfailure, abridges_of_failure hwidth hfailure⟩

/-- **A line may be shown in more than its width**, and in more than itself: in a
width of one character, two become three dots. -/
theorem not_length_shown_le_width :
    ¬∀ failure, (Hunk.applyTo { oldLines := [['a', 'b']] } { width := 1 } 0 ['x']).failure
        = some failure →
      ∀ shown ∈ failure.expected, shown.length ≤ 1 := by
  intro hwithin
  have hshown := hwithin { expected := [['.', '.', '.']], hunkId := .unnamed } (by decide) _
    (List.mem_singleton_self _)
  exact absurd hshown (by decide)

end Hunk

end DriftPatch
