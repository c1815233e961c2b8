import DriftPatch.Diff.Parse
import DriftPatch.Proofs.Replay.Rewrites

/-!
# Insertions that show context

A patch as `diff -u` writes it shows context around the lines that it puts
in, and its header names the first line shown. Where a hunk removes lines
the lines removed tell where the change lies, and it is found behind the
context. A hunk that only adds lines has nothing to look for: it is placed
at the line of its header, whatever context it shows, and so its lines come
to stand *in front of* the context that was meant to precede them
(`applyHunks_of_inserts`). No failure reports this. The text made is the one
that was meant only if the lines put in and the context in front of them can
change places.
-/

namespace DriftPatch

/-- **A place at which lines are put in**, between lines that are shown
around it. -/
structure Insertion where
  /-- The lines in front of those shown. -/
  front : List Line
  /-- The lines shown in front of the place. -/
  before : List Line
  /-- The lines put in. -/
  added : List Line
  /-- The lines shown behind the place. -/
  after : List Line
  /-- The lines behind those shown. -/
  tail : List Line
  /-- Some context precedes the place. -/
  before_ne_nil : before ≠ []
  /-- Something is put in. -/
  added_ne_nil : added ≠ []
  /-- They are lines. -/
  feed_notMem : ∀ l ∈ front ++ (before ++ added) ++ (after ++ tail), '\n' ∉ l

namespace Insertion

variable (i : Insertion)

/-- The text without the lines put in. -/
def oldLines : List Line :=
  i.front ++ i.before ++ (i.after ++ i.tail)

/-- The text with the lines at their place, behind the context. -/
def newLines : List Line :=
  i.front ++ (i.before ++ i.added) ++ (i.after ++ i.tail)

/-- The text with the lines at the line that the header names, in front of
the context. -/
def headedLines : List Line :=
  i.front ++ (i.added ++ i.before) ++ (i.after ++ i.tail)

theorem oldLines_ne_nil : i.oldLines ≠ [] := by
  unfold oldLines
  simp [i.before_ne_nil]

theorem feed_notMem_oldLines : ∀ l ∈ i.oldLines, '\n' ∉ l := by
  have hsub : i.oldLines.Sublist i.newLines :=
    ((List.sublist_append_left i.before i.added).append_left i.front).append_right _
  exact fun l hl => i.feed_notMem l (hsub.subset hl)

theorem feed_notMem_headedLines : ∀ l ∈ i.headedLines, '\n' ∉ l := by
  have hperm : i.headedLines.Perm i.newLines :=
    (List.perm_append_comm.append_left i.front).append_right _
  exact fun l hl => i.feed_notMem l (hperm.subset hl)

/-- **The two texts are one exactly if the lines put in and the context in
front of them can change places.** -/
theorem ofLines_headedLines_eq_iff :
    Text.ofLines i.headedLines = Text.ofLines i.newLines
      ↔ i.added ++ i.before = i.before ++ i.added := by
  have hne : i.headedLines ≠ [] ∧ i.newLines ≠ [] := by
    unfold headedLines newLines
    simp [i.before_ne_nil]
  constructor
  · intro h
    have hlines := congrArg Text.lines h
    rw [Text.lines_ofLines hne.1 i.feed_notMem_headedLines,
      Text.lines_ofLines hne.2 i.feed_notMem] at hlines
    exact List.append_cancel_left (List.append_cancel_right hlines)
  · intro h
    rw [headedLines, h, newLines]

end Insertion

/-- **A hunk that puts lines in**, written as `diff -u` writes it: it removes
nothing, and its header names the first line of the context. Nothing is asked
of the counts. -/
structure Hunk.Inserts (h : Hunk) (i : Insertion) : Prop where
  /-- It removes nothing. -/
  oldLines : h.oldLines = []
  /-- It adds the lines. -/
  newLines : h.newLines = i.added
  /-- It shows the lines in front of the place. -/
  contextBefore : h.contextBefore = i.before
  /-- It shows the lines behind the place. -/
  contextAfter : h.contextAfter = i.after
  /-- The header names the first line that is shown. -/
  oldStart : h.oldStart = i.front.length + 1

/-- The hunk finds the line that its header names. -/
theorem Hunk.Inserts.rewrites {h : Hunk} {i : Insertion} (hi : h.Inserts i) :
    Rewrites 0 i.oldLines [h] i.headedLines := by
  have hbody : h.hasBody = true := by
    refine Hunk.hasBody_iff.2 (Or.inr ?_)
    rw [hi.newLines]
    exact i.added_ne_nil
  have hleads : h.LeadsTo 0 (i.front ++ [] ++ (i.before ++ (i.after ++ i.tail)))
      i.front.length := by
    refine Hunk.LeadsTo.change ?_
    rw [hi.oldStart]
    omega
  have hstands : sameStripped [] h.oldLines = true := by
    rw [hi.oldLines]
    exact sameStripped_refl []
  have hrewrites : Rewrites 0 (i.front ++ [] ++ (i.before ++ (i.after ++ i.tail))) [h]
      (i.front ++ h.newLines ++ (i.before ++ (i.after ++ i.tail))) :=
    Rewrites.cons hbody hleads hstands (fun hne => absurd rfl hne) Rewrites.nil
  rw [hi.newLines, List.append_nil] at hrewrites
  unfold Insertion.oldLines Insertion.headedLines
  simpa only [List.append_assoc] using hrewrites

/-- **An insertion is placed at the line of its header**, in front of the
context it shows. This is where it belongs exactly if the lines put in and
that context can change places. -/
theorem applyHunks_of_inserts (excerpt : Excerpt) {h : Hunk} {i : Insertion}
    (hi : h.Inserts i) :
    applyHunks excerpt (Text.ofLines i.oldLines) [h]
        = { content := Text.ofLines i.headedLines, strategies := [.positional] }
      ∧ (Text.ofLines i.headedLines = Text.ofLines i.newLines
        ↔ i.added ++ i.before = i.before ++ i.added) := by
  have hrewrites := hi.rewrites
  rw [← Text.lines_ofLines i.oldLines_ne_nil i.feed_notMem_oldLines] at hrewrites
  refine ⟨applyHunks_of_rewrites excerpt hrewrites ?_, i.ofLines_headedLines_eq_iff⟩
  rw [List.forall_mem_singleton, hi.newLines]
  intro l hl
  refine i.feed_notMem l ?_
  simp [hl]

/-- One line put in between the second and the third line of four. -/
def Insertion.inFour : Insertion where
  front := [['p']]
  before := [['c']]
  added := [['a']]
  after := [['d']]
  tail := [['s']]
  before_ne_nil := List.cons_ne_nil _ _
  added_ne_nil := List.cons_ne_nil _ _
  feed_notMem := by decide

/-- The hunk that puts it in, as it is read from text. -/
def Hunk.inFour : Hunk :=
  { oldStart := 2, oldCount := 2, newStart := 2, newCount := 3
    newLines := [['a']], contextBefore := [['c']], contextAfter := [['d']] }

theorem applyHunks_of_inserts_inFour :
    Hunk.inFour.Inserts Insertion.inFour
      ∧ applyHunks {} "p\nc\nd\ns".toList [Hunk.inFour]
        = { content := "p\na\nc\nd\ns".toList, strategies := [.positional] } := by
  have hi : Hunk.inFour.Inserts Insertion.inFour := ⟨rfl, rfl, rfl, rfl, rfl⟩
  exact ⟨hi, (applyHunks_of_inserts {} hi).1⟩

/-- **An insertion that shows context misses its place**: the line meant to
stand behind `c` is put in front of it, and the run reports success. -/
theorem not_applyHunks_behind_context :
    Diff.parseHunks "@@ -2,2 +2,3 @@\n c\n+a\n d".toList = .ok [Hunk.inFour]
      ∧ Hunk.inFour.Inserts Insertion.inFour
      ∧ (applyHunks {} (Text.ofLines Insertion.inFour.oldLines) [Hunk.inFour]).ok = true
      ∧ (applyHunks {} (Text.ofLines Insertion.inFour.oldLines) [Hunk.inFour]).content
        ≠ Text.ofLines Insertion.inFour.newLines := by
  exact ⟨rfl, ⟨rfl, rfl, rfl, rfl, rfl⟩, by decide, by decide⟩

end DriftPatch
