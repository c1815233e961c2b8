import DriftPatch.Proofs.Placement.Placed
import DriftPatch.Proofs.Replay.Atomic

/-!
# By how many lines hunks shift a text

A run corrects the header of each hunk by the lines that the hunks before it
have added and removed. Whether this is how far the text has shifted is a
matter of what became of the lines at each place.

Where windows of lines are taken out and others put in, a text gains and loses
lines one by one, but it never loses the last one: a text of no lines is one
empty line. Where a text is taken out it takes with it the line feeds between
its lines and none at its ends. A text that is put in brings as many back, so
the lines add up, unless nothing is put in: then the line that the text stood
on is left, with whatever else stands on it (`Hunk.LeavesLine`).

So a hunk that adds a line shifts a text by what it says, and a hunk that
only removes lines may shift it by one line less. The exact account is given
for one hunk (`Hunk.length_lines_applyTo`) and, hunk by hunk, for a run
(`length_lines_runHunks`).
-/

namespace DriftPatch

open Text

variable {excerpt : Excerpt} {index : Nat} {offset : Int} {content text : Text}
variable {strategy : Strategy}

namespace Hunk

/-- **A line of the text is left where a hunk has removed lines**: nothing was
put in their place, and either they were found as a text, which ends before its
last line does, or they were all lines there are. -/
def LeavesLine (h : Hunk) (content : Text) (strategies : List Strategy) : Prop :=
  h.newLines = [] ∧ (.substring ∈ strategies ∨ h.oldLines.length = content.lines.length)

instance (h : Hunk) (content : Text) (strategies : List Strategy) :
    Decidable (h.LeavesLine content strategies) :=
  inferInstanceAs (Decidable (_ ∧ _))

/-- How many lines are left where a hunk has removed lines: one or none. -/
def linesLeft (h : Hunk) (content : Text) (strategies : List Strategy) : Nat :=
  if h.LeavesLine content strategies then 1 else 0

variable {h : Hunk}

/-! ## One hunk -/

theorem feed_notMem_reindent {indent : Text} {line : Line} (hindent : '\n' ∉ indent)
    (hline : '\n' ∉ line) : '\n' ∉ reindent indent line := by
  unfold reindent
  rw [List.mem_append, not_or]
  exact ⟨hindent, fun hm => hline ((List.dropWhile_sublist _).subset hm)⟩

/-- Lines that take the place of others shift the text by the difference, and
of all the lines one stays. -/
theorem length_lines_of_window {gap region rest added : List Line}
    (hsplit : content.lines = gap ++ region ++ rest)
    (hregion : region.length = h.oldLines.length) (hadded : added.length = h.newLines.length)
    (hfeed : ∀ l ∈ added, '\n' ∉ l) (hstrategy : strategy ≠ .substring) :
    ((ofLines (gap ++ added ++ rest)).lines.length : Int)
      = content.lines.length + h.lineDelta + h.linesLeft content [strategy] := by
  have hall : ∀ l ∈ gap ++ added ++ rest, '\n' ∉ l := by
    have hlines : ∀ l ∈ gap ++ region ++ rest, '\n' ∉ l := by
      rw [← hsplit]
      exact fun l hl => feed_notMem_of_mem_lines hl
    rw [List.forall_mem_append, List.forall_mem_append] at hlines ⊢
    exact ⟨⟨hlines.1.1, hfeed⟩, hlines.2⟩
  have hnew := length_lines (ofLines (gap ++ added ++ rest))
  have hold := congrArg List.length hsplit
  have hpos := List.length_pos_iff.2 (lines_ne_nil content)
  have hleft : h.LeavesLine content [strategy]
      ↔ h.newLines.length = 0 ∧ h.oldLines.length = content.lines.length := by
    unfold LeavesLine
    rw [List.mem_singleton, or_iff_right (Ne.symm hstrategy), List.length_eq_zero_iff]
  rw [count_feed_ofLines hall] at hnew
  simp only [List.length_append] at hnew hold
  unfold linesLeft lineDelta
  rw [hnew]
  split
  · next h => rw [hleft] at h; omega
  · next h => rw [hleft] at h; omega

/-- A text that takes the place of another shifts the lines by the difference
of the line feeds in them. -/
theorem length_lines_of_split {front back : Text} (hne : ofLines h.oldLines ≠ [])
    (hsplit : content = front ++ ofLines h.oldLines ++ back)
    (hold : ∀ l ∈ h.oldLines, '\n' ∉ l) (hnew : ∀ l ∈ h.newLines, '\n' ∉ l) :
    ((front ++ ofLines h.newLines ++ back).lines.length : Int)
      = content.lines.length + h.lineDelta + h.linesLeft content [.substring] := by
  have hlines : h.oldLines ≠ [] := by
    intro hnil
    rw [hnil] at hne
    exact hne rfl
  have hpos := List.length_pos_iff.2 hlines
  have hleft : h.LeavesLine content [.substring] ↔ h.newLines.length = 0 := by
    unfold LeavesLine
    rw [and_iff_left (Or.inl (List.mem_singleton_self _)), List.length_eq_zero_iff]
  have hcount := length_lines content
  rw [hsplit, List.count_append, List.count_append, count_feed_ofLines hold, ← hsplit] at hcount
  unfold linesLeft lineDelta
  rw [length_lines, List.count_append, List.count_append, count_feed_ofLines hnew, hcount]
  split
  · next h => rw [hleft] at h; omega
  · next h => rw [hleft] at h; omega

theorem Placed.length_lines (hplaced : h.Placed offset content strategy text)
    (hold : ∀ l ∈ h.oldLines, '\n' ∉ l) (hnew : ∀ l ∈ h.newLines, '\n' ∉ l) :
    (text.lines.length : Int)
      = content.lines.length + h.lineDelta + h.linesLeft content [strategy] := by
  cases hplaced with
  | positional _ split agree =>
    exact length_lines_of_window split (length_eq_of_sameStripped agree) rfl hnew
      Strategy.noConfusion
  | substring nonempty split => exact length_lines_of_split nonempty split hold hnew
  | @normalized gap region rest first split agree =>
    have hfirst : '\n' ∉ first := by
      refine feed_notMem_of_mem_lines (t := content) ?_
      rw [split]
      simp
    refine length_lines_of_window split (length_eq_of_sameStripped agree) (List.length_map _) ?_
      Strategy.noConfusion
    intro l hl
    obtain ⟨m, hm, rfl⟩ := List.mem_map.1 hl
    exact feed_notMem_reindent (fun hm => hfirst ((List.takeWhile_sublist _).subset hm)) (hnew m hm)

/-- **A hunk whose lines hold no line feed.** -/
structure Feedless (h : Hunk) : Prop where
  /-- The lines removed are lines. -/
  oldLines : ∀ l ∈ h.oldLines, '\n' ∉ l
  /-- The lines added are lines. -/
  newLines : ∀ l ∈ h.newLines, '\n' ∉ l

/-- **By how many lines a hunk shifts a text**: by the lines it adds less the
lines it removes, and one more where it leaves a line. -/
theorem length_lines_applyTo (hfeed : h.Feedless)
    (hok : (h.applyTo excerpt offset content).ok = true) :
    ((h.applyTo excerpt offset content).content.lines.length : Int)
      = content.lines.length + h.lineDelta
        + h.linesLeft content (h.applyTo excerpt offset content).strategies := by
  cases hbody : h.hasBody with
  | true =>
    obtain ⟨strategy, hstrategy, hplaced⟩ := exists_placed_of_ok hbody hok
    rw [hstrategy]
    exact hplaced.length_lines hfeed.oldLines hfeed.newLines
  | false =>
    have hnone : h.oldLines = [] ∧ h.newLines = [] := by
      rw [← Bool.not_eq_true, hasBody_iff, not_or, not_not, not_not] at hbody
      exact hbody
    have hpos := List.length_pos_iff.2 (lines_ne_nil content)
    have happly : h.applyTo excerpt offset content = { content } := by
      rw [applyTo, hbody]
      rfl
    have hleft : ¬ h.LeavesLine content [] := by
      rintro ⟨-, hmem | hall⟩
      · exact List.not_mem_nil hmem
      · rw [hnone.1, List.length_nil] at hall
        omega
    rw [happly, linesLeft, if_neg hleft, lineDelta, hnone.1, hnone.2]
    simp

end Hunk

/-! ## A run -/

/-- How many lines the hunks of a run leave where they have removed lines. -/
def linesLeftBy (excerpt : Excerpt) (offset : Int) (content : Text) : List Hunk → Nat
  | [] => 0
  | h :: rest =>
    let first := h.applyTo excerpt offset content
    h.linesLeft content first.strategies
      + linesLeftBy excerpt (offset + h.lineDelta) first.content rest

/-- **By how many lines a run shifts a text**: by the drift of its hunks, and
by the lines that they leave. -/
theorem length_lines_runHunks {hunks : List Hunk} (hfeed : ∀ h ∈ hunks, h.Feedless)
    (hok : (runHunks excerpt index offset content hunks).ok = true) :
    ((runHunks excerpt index offset content hunks).content.lines.length : Int)
      = content.lines.length + Hunk.drift hunks + linesLeftBy excerpt offset content hunks := by
  induction hunks generalizing index offset content with
  | nil =>
    rw [runHunks, Hunk.drift, linesLeftBy]
    simp
  | cons h hunks ih =>
    rw [List.forall_mem_cons] at hfeed
    rw [runHunks_cons] at hok ⊢
    by_cases hfirst : (h.applyTo excerpt offset content).ok = true
    · rw [if_pos hfirst] at hok ⊢
      have hhead := Hunk.length_lines_applyTo hfeed.1 hfirst
      have htail := ih hfeed.2 hok
      rw [Hunk.drift, linesLeftBy]
      dsimp only [Outcome.followedBy]
      rw [htail, hhead]
      omega
    · rw [if_neg hfirst] at hok
      exact absurd hok Bool.false_ne_true

/-- **What the offset of a run is worth.** A hunk shifts a text by the lines it
adds less the lines it removes, and one more where it leaves a line. The offset
that the hunks of a run are corrected by is the drift of those before them, and
it falls short of what these have shifted the text by the lines they leave. -/
theorem offset_add_linesLeft (excerpt : Excerpt) (content : Text) {hunks : List Hunk}
    (hfeed : ∀ h ∈ hunks, h.Feedless) :
    (∀ h ∈ hunks, ∀ offset, (h.applyTo excerpt offset content).ok = true →
      ((h.applyTo excerpt offset content).content.lines.length : Int)
        = content.lines.length + h.lineDelta
          + h.linesLeft content (h.applyTo excerpt offset content).strategies)
    ∧ ∀ front back, hunks = front ++ back → (runHunks excerpt 0 0 content front).ok = true →
      runHunks excerpt 0 0 content hunks
          = (runHunks excerpt 0 0 content front).followedBy
            (runHunks excerpt front.length (Hunk.drift front)
              (runHunks excerpt 0 0 content front).content back)
        ∧ Hunk.drift front + linesLeftBy excerpt 0 content front
          = ((runHunks excerpt 0 0 content front).content.lines.length : Int)
            - content.lines.length := by
  refine ⟨fun h hh offset hok => Hunk.length_lines_applyTo (hfeed h hh) hok, ?_⟩
  rintro front back rfl hok
  refine ⟨?_, ?_⟩
  · rw [runHunks_append, if_pos hok, Nat.zero_add, Int.zero_add]
  · rw [length_lines_runHunks (List.forall_mem_append.1 hfeed).1 hok]
    omega

/-- A hunk that removes a line that does not stand where it says. -/
def Hunk.stale : Hunk :=
  { oldStart := 9, oldLines := [['x']] }

/-- A hunk that rewrites a line that stands where it says. -/
def Hunk.exact : Hunk :=
  { oldStart := 4, oldLines := [['k']], newLines := [['K']] }

/-- A text with a line for the one and two for the other. -/
def fiveLines : Text :=
  ['x', '\n', 'k', '\n', 'l', '\n', 'k', '\n', 'm']

theorem feedless_stale : Hunk.stale.Feedless :=
  ⟨by decide, by decide⟩

/-- The first hunk empties its line and leaves it, so that nothing is shifted.
The second one is looked for one line too early, and another line like the one
it means is rewritten. -/
theorem offset_add_linesLeft_fiveLines :
    (∀ h ∈ [Hunk.stale, Hunk.exact], h.Feedless)
      ∧ Hunk.drift [Hunk.stale] = -1
      ∧ Hunk.drift [Hunk.stale] + linesLeftBy {} 0 fiveLines [Hunk.stale]
        = ((runHunks {} 0 0 fiveLines [Hunk.stale]).content.lines.length : Int)
          - fiveLines.lines.length
      ∧ applyHunks {} fiveLines [Hunk.stale, Hunk.exact]
        = { content := ['\n', 'K', '\n', 'l', '\n', 'k', '\n', 'm']
            strategies := [.substring, .substring] } := by
  have hfeed : ∀ h ∈ [Hunk.stale, Hunk.exact], h.Feedless := by
    rw [List.forall_mem_cons, List.forall_mem_singleton]
    exact ⟨feedless_stale, ⟨by decide, by decide⟩⟩
  have hshift := (offset_add_linesLeft {} fiveLines hfeed).2 [Hunk.stale] [Hunk.exact] rfl
    (by decide)
  exact ⟨hfeed, by decide, hshift.2, by decide⟩

/-- **A hunk that only removes a line need not shorten the text**: where the line
is found by its text, it is emptied and stays. -/
theorem Hunk.not_length_lines_lineDelta :
    Hunk.stale.Feedless
      ∧ Hunk.stale.oldLines.length ≠ (lines ['a', '\n', 'x', '\n', 'b']).length
      ∧ Hunk.stale.applyTo {} 0 ['a', '\n', 'x', '\n', 'b']
        = { content := ['a', '\n', '\n', 'b'], strategies := [.substring] }
      ∧ ((Hunk.stale.applyTo {} 0 ['a', '\n', 'x', '\n', 'b']).content.lines.length : Int)
        ≠ (lines ['a', '\n', 'x', '\n', 'b']).length + Hunk.stale.lineDelta :=
  ⟨feedless_stale, by decide, by decide, by decide⟩

end DriftPatch
