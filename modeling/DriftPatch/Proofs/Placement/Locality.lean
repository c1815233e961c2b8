import DriftPatch.Proofs.Placement.Placed

/-!
# A hunk changes a window of lines

However a hunk was placed, all that changes is a window of as many lines as
the hunk removes: the lines before it and behind it stay as they are
(`Hunk.changesWindow_of_ok`). What is known of the window depends on the
strategy. Found by their lines, the lines of the window are those that the
hunk removes, blanks at their ends aside. Found by its text, the window holds
the lines removed, joined, and may hold more: the first line may begin before
them and the last one may end behind them, and this stays too. So the lines of
the window need not be lines that the hunk removes
(`Hunk.not_applyTo_wholeLines`).
-/

namespace DriftPatch

open Text

variable {excerpt : Excerpt} {offset : Int} {content text : Text} {strategy : Strategy}

/-- Lines that others are put between stay lines of the text, also where nothing
is left of it. -/
theorem exists_lines_ofLines_between {gap rest : List Line} (hgap : ∀ l ∈ gap, '\n' ∉ l)
    (hrest : ∀ l ∈ rest, '\n' ∉ l) (added : List Line) :
    ∃ between, lines (ofLines (gap ++ added ++ rest)) = gap ++ between ++ rest := by
  -- Where all lines are gone the text is empty, and that is one line.
  by_cases hall : gap ++ added ++ rest = []
  · rw [hall]
    rw [List.append_eq_nil_iff, List.append_eq_nil_iff] at hall
    refine ⟨[[]], ?_⟩
    rw [hall.1.1, hall.2]
    rfl
  · refine ⟨added.flatMap lines, ?_⟩
    rw [lines_ofLines_eq_flatMap hall, List.flatMap_append, List.flatMap_append,
      flatMap_lines_eq_self hgap, flatMap_lines_eq_self hrest]

namespace Hunk

/-- **How the lines of a text change where a hunk was placed.** -/
structure ChangesWindow (h : Hunk) (strategy : Strategy) (old new : List Line)
    (lead window trail rewritten : List Line) : Prop where
  /-- The window is a part of the lines. -/
  old_eq : old = lead ++ window ++ trail
  /-- All lines but those of the window are still there. -/
  new_eq : new = lead ++ rewritten ++ trail
  /-- There are as many lines in the window as lines are removed. -/
  length : window.length = h.oldLines.length
  /-- Where lines were looked for they are the lines of the window, blanks at
  their ends aside. -/
  agree : strategy ≠ .substring → window.map strip = h.oldLines.map strip
  /-- Where a text was looked for it is replaced within the lines of the window,
  and what is left of the first and of the last line stays. -/
  within : strategy = .substring → ∃ front back, '\n' ∉ front ∧ '\n' ∉ back
    ∧ ofLines window = front ++ ofLines h.oldLines ++ back
    ∧ ofLines rewritten = front ++ ofLines h.newLines ++ back

variable {h : Hunk}

/-- Lines that take the place of those that were found change a window. -/
theorem exists_changesWindow_of_agree {gap region rest : List Line}
    (hsplit : content.lines = gap ++ region ++ rest)
    (hagree : sameStripped region h.oldLines = true) (hstrategy : strategy ≠ .substring)
    (added : List Line) :
    ∃ lead window trail rewritten, h.ChangesWindow strategy content.lines
      (ofLines (gap ++ added ++ rest)).lines lead window trail rewritten := by
  have hfeed : ∀ l ∈ gap ++ region ++ rest, '\n' ∉ l := by
    rw [← hsplit]
    exact fun l hl => feed_notMem_of_mem_lines hl
  rw [List.forall_mem_append, List.forall_mem_append] at hfeed
  obtain ⟨between, hnew⟩ := exists_lines_ofLines_between hfeed.1.1 hfeed.2 added
  exact ⟨gap, region, rest, between, hsplit, hnew, length_eq_of_sameStripped hagree,
    fun _ => sameStripped_iff.1 hagree, fun h => absurd h hstrategy⟩

/-- **A text that takes the place of the one that was found** changes the lines
that this one reached into. -/
theorem exists_changesWindow_of_split {front back : Text}
    (hsplit : content = front ++ ofLines h.oldLines ++ back) (hne : h.oldLines ≠ [])
    (hfeed : ∀ l ∈ h.oldLines, '\n' ∉ l) :
    ∃ lead window trail rewritten, h.ChangesWindow .substring content.lines
      (front ++ ofLines h.newLines ++ back).lines lead window trail rewritten := by
  obtain ⟨lead, l, r, trail, hl, hr, haround⟩ := exists_lines_around front back
  -- What is left of the first and of the last line holds no line feed, so the
  -- window has as many of them as the text looked for.
  have hlength : (lines (l ++ ofLines h.oldLines ++ r)).length = h.oldLines.length := by
    rw [length_lines, List.count_append, List.count_append, List.count_eq_zero_of_not_mem hl,
      List.count_eq_zero_of_not_mem hr, Nat.zero_add, Nat.add_zero, ← length_lines,
      lines_ofLines hne hfeed]
  refine ⟨lead, lines (l ++ ofLines h.oldLines ++ r), trail, lines (l ++ ofLines h.newLines ++ r),
    ?_, haround _, hlength, fun hne => absurd rfl hne, fun _ => ?_⟩
  · rw [hsplit]
    exact haround _
  · exact ⟨l, r, hl, hr, ofLines_lines _, ofLines_lines _⟩

theorem Placed.exists_changesWindow (hplaced : h.Placed offset content strategy text)
    (hne : h.oldLines ≠ []) (hfeed : ∀ l ∈ h.oldLines, '\n' ∉ l) :
    ∃ lead window trail rewritten,
      h.ChangesWindow strategy content.lines text.lines lead window trail rewritten := by
  cases hplaced with
  | positional _ split agree =>
    exact exists_changesWindow_of_agree split agree Strategy.noConfusion h.newLines
  | substring _ split => exact exists_changesWindow_of_split split hne hfeed
  | normalized split agree =>
    exact exists_changesWindow_of_agree split agree Strategy.noConfusion _

/-- **A hunk that was placed changes a window of as many lines as it removes**,
and no other line. -/
theorem changesWindow_of_ok (hne : h.oldLines ≠ []) (hfeed : ∀ l ∈ h.oldLines, '\n' ∉ l)
    (hok : (h.applyTo excerpt offset content).ok = true) :
    ∃ strategy lead window trail rewritten,
      (h.applyTo excerpt offset content).strategies = [strategy]
      ∧ h.ChangesWindow strategy content.lines
        (h.applyTo excerpt offset content).content.lines lead window trail rewritten := by
  have hbody : h.hasBody = true := hasBody_iff.2 (Or.inl hne)
  obtain ⟨strategy, hstrategy, hplaced⟩ := exists_placed_of_ok hbody hok
  obtain ⟨lead, window, trail, rewritten, hchange⟩ := hplaced.exists_changesWindow hne hfeed
  exact ⟨strategy, lead, window, trail, rewritten, hstrategy, hchange⟩

/-- A hunk that puts one line in the place of two. -/
def oneForTwo : Hunk :=
  { oldLines := [['a'], ['b']], newLines := [['n']] }

/-- A text in which one line ends and the next one begins like the two. -/
def withinLines : Text :=
  ['k', '\n', 'x', 'a', '\n', 'b', 'y', '\n', 'm']

theorem changesWindow_of_ok_withinLines :
    oneForTwo.oldLines ≠ [] ∧ (∀ l ∈ oneForTwo.oldLines, '\n' ∉ l)
      ∧ oneForTwo.applyTo {} 0 withinLines
        = { content := ['k', '\n', 'x', 'n', 'y', '\n', 'm'], strategies := [.substring] }
      ∧ ∃ strategy lead window trail rewritten,
        (oneForTwo.applyTo {} 0 withinLines).strategies = [strategy]
        ∧ oneForTwo.ChangesWindow strategy withinLines.lines
          (oneForTwo.applyTo {} 0 withinLines).content.lines lead window trail rewritten := by
  have hfeed : ∀ l ∈ oneForTwo.oldLines, '\n' ∉ l := by decide
  exact ⟨by decide, hfeed, by decide, changesWindow_of_ok (by decide) hfeed (by decide)⟩

/-- **The lines of the window need not agree with the lines removed.** No line of
the text is one of the two, and the hunk is placed. -/
theorem not_applyTo_wholeLines :
    (oneForTwo.applyTo {} 0 withinLines).ok = true
      ∧ ¬ ∃ lead window trail rewritten : List Line,
        withinLines.lines = lead ++ window ++ trail
        ∧ window.length = oneForTwo.oldLines.length
        ∧ window.map strip = oneForTwo.oldLines.map strip
        ∧ (oneForTwo.applyTo {} 0 withinLines).content.lines
          = lead ++ rewritten ++ trail := by
  refine ⟨by decide, ?_⟩
  rintro ⟨lead, window, trail, rewritten, hsplit, -, hagree, -⟩
  obtain ⟨first, window, rfl, hfirst, -⟩ := List.map_eq_cons_iff.1 hagree
  have hmem : first ∈ withinLines.lines := by
    rw [hsplit]
    simp
  have hnone : ∀ l ∈ withinLines.lines, l.strip ≠ strip ['a'] := by decide
  exact hnone first hmem hfirst

end Hunk

end DriftPatch
