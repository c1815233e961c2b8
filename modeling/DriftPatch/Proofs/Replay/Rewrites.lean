import DriftPatch.Proofs.Windows
import DriftPatch.Replay

/-!
# Hunks that find their lines where they say

A run of hunks goes through a text from the top. At any moment it has
rewritten the lines up to some line of the old text, and the lines from
there on are still the old ones: the buffer is `done ++ rest`, where
`done` took the place of `passed` old lines and `rest` are the old lines
to come. The offset of the run is the difference of the two,
`done.length - passed`, and this is exactly by how much a header that was
written for the old text is off.

`Rewrites passed rest hunks out` says of a list of hunks, without a word
about buffers and offsets, that each hunk by its header finds its lines in
what is left of the old text, and that `out` is what they make of it. The
main statement is that such hunks are placed positionally, every one of
them, and that the run makes `out` (`runHunks_of_rewrites`,
`applyHunks_of_rewrites`).
-/

namespace DriftPatch

/-- **The header of a hunk leads to an index** of the lines `rest`, which
`passed` old lines precede. Either the header counts from the change
itself, or it counts from the context before it, and then the lines
removed do not stand at the place without context by accident. -/
inductive Hunk.LeadsTo (h : Hunk) (passed : Nat) (rest : List Line) (k : Nat) : Prop
  /-- The header names the first line of the change. -/
  | change (start : h.oldStart = passed + k + 1)
  /-- The header names the first line of the context. -/
  | context (removes : h.oldLines ≠ []) (shows : h.contextBefore ≠ [])
      (within : h.contextBefore.length ≤ k)
      (start : h.oldStart + h.contextBefore.length = passed + k + 1)
      (apart : standsAt h.oldLines rest ((k - h.contextBefore.length : Nat) : Int) = false)

/-- **Hunks that find their lines** in the old lines `rest`, which
`passed` others precede, and what they make of them. A hunk leaves the
lines of a gap alone, removes those of a region and goes on behind it. -/
inductive Rewrites : Nat → List Line → List Hunk → List Line → Prop
  /-- Without hunks the lines stay. -/
  | nil {passed : Nat} {rest : List Line} : Rewrites passed rest [] rest
  /-- One hunk more. Something has to be left for the hunks behind it: a
  text of no lines is none. -/
  | cons {passed : Nat} {gap region rest out : List Line} {h : Hunk} {hunks : List Hunk}
      (body : h.hasBody = true)
      (leads : h.LeadsTo passed (gap ++ region ++ rest) gap.length)
      (stands : sameStripped region h.oldLines = true)
      (left : hunks ≠ [] → rest ≠ [])
      (later : Rewrites (passed + gap.length + region.length) rest hunks out) :
      Rewrites passed (gap ++ region ++ rest) (h :: hunks) (gap ++ h.newLines ++ out)

variable {passed : Nat} {rest out : List Line} {hunks : List Hunk}

/-- A hunk that changes the very next lines. -/
theorem Rewrites.head {region : List Line} {h : Hunk} (body : h.hasBody = true)
    (start : h.oldStart = passed + 1) (stands : sameStripped region h.oldLines = true)
    (left : hunks ≠ [] → rest ≠ [])
    (later : Rewrites (passed + region.length) rest hunks out) :
    Rewrites passed (region ++ rest) (h :: hunks) (h.newLines ++ out) := by
  have leads : h.LeadsTo passed ([] ++ region ++ rest) ([] : List Line).length := by
    refine Hunk.LeadsTo.change ?_
    rw [start, List.length_nil]
    omega
  show Rewrites passed ([] ++ region ++ rest) (h :: hunks) ([] ++ h.newLines ++ out)
  exact Rewrites.cons body leads stands left later

/-- An old line that is left alone in front of all hunks. -/
theorem Rewrites.keep (line : Line) (hr : Rewrites (passed + 1) rest hunks out) :
    Rewrites passed (line :: rest) hunks (line :: out) := by
  cases hr with
  | nil => exact Rewrites.nil
  | @cons _ gap region rest out h hunks body leads stands left later =>
    show Rewrites passed (line :: gap ++ region ++ rest) (h :: hunks)
      (line :: gap ++ h.newLines ++ out)
    refine Rewrites.cons body ?_ stands left ?_
    · cases leads with
      | change start =>
        refine Hunk.LeadsTo.change ?_
        rw [start, List.length_cons]
        omega
      | context removes shows within start apart =>
        refine Hunk.LeadsTo.context removes shows ?_ ?_ ?_
        · rw [List.length_cons]
          omega
        · rw [start, List.length_cons]
          omega
        · have hk : (line :: gap).length - h.contextBefore.length
              = [line].length + (gap.length - h.contextBefore.length) := by
            rw [List.length_cons, List.length_singleton]
            omega
          rw [hk]
          exact (standsAt_append _ [line] _ _).trans apart
    · rw [List.length_cons, ← Nat.add_assoc, Nat.add_right_comm passed]
      exact later

/-! ## Placing one hunk -/

/-- **The place found** for a hunk whose header leads to lines that it
removes: the run's offset makes up for what was rewritten before. -/
theorem Hunk.find?_anchors {h : Hunk} {gap region : List Line} (done : List Line)
    (leads : h.LeadsTo passed (gap ++ region ++ rest) gap.length)
    (stands : sameStripped region h.oldLines = true) :
    (h.anchors ((done.length : Int) - passed)).find?
        (standsAt h.oldLines (done ++ (gap ++ region ++ rest)))
      = some ((done.length + gap.length : Nat) : Int) := by
  have hstands : standsAt h.oldLines (done ++ (gap ++ region ++ rest))
      ((done.length + gap.length : Nat) : Int) = true :=
    (standsAt_append _ _ _ _).trans (standsAt_gap stands)
  unfold Hunk.anchors
  dsimp only
  cases leads with
  | change start =>
    have hanchor : h.oldStart - 1 + ((done.length : Int) - passed)
        = ((done.length + gap.length : Nat) : Int) := by omega
    have hmax : max ((done.length + gap.length : Nat) : Int) 0
        = ((done.length + gap.length : Nat) : Int) := by omega
    rw [hanchor, hmax]
    split
    · rw [List.find?_cons_of_pos hstands]
    · split
      · rw [List.find?_cons_of_pos hstands]
      · rw [List.find?_cons_of_pos hstands]
  | context removes shows within start apart =>
    have hfirst : h.oldStart - 1 + ((done.length : Int) - passed)
        = ((done.length + (gap.length - h.contextBefore.length) : Nat) : Int) := by omega
    have hsecond : ((done.length + (gap.length - h.contextBefore.length) : Nat) : Int)
        + h.contextBefore.length = ((done.length + gap.length : Nat) : Int) := by omega
    have hnot : ¬standsAt h.oldLines (done ++ (gap ++ region ++ rest))
        ((done.length + (gap.length - h.contextBefore.length) : Nat) : Int) = true := by
      rw [standsAt_append, apart]
      exact Bool.false_ne_true
    -- the first anchor is the line of the context, and nothing stands there
    rw [if_neg removes, if_neg shows, hfirst, List.find?_cons_of_neg hnot, hsecond,
      List.find?_cons_of_pos hstands]

/-- **One step of a run**: the hunk is placed positionally, and its lines
take the place of the region. -/
theorem Hunk.applyTo_of_leadsTo {h : Hunk} {gap region done : List Line} {content : Text}
    (excerpt : Excerpt) (body : h.hasBody = true)
    (leads : h.LeadsTo passed (gap ++ region ++ rest) gap.length)
    (stands : sameStripped region h.oldLines = true)
    (hlines : content.lines = done ++ (gap ++ region ++ rest)) :
    h.applyTo excerpt ((done.length : Int) - passed) content
      = { content := Text.ofLines (done ++ gap ++ h.newLines ++ rest)
          strategies := [.positional] } := by
  have hplace : h.placePositional? ((done.length : Int) - passed) content.lines
      = some (Text.ofLines (done ++ gap ++ h.newLines ++ rest)) := by
    rw [Hunk.placePositional?, hlines, Hunk.find?_anchors done leads stands,
      Option.map_some, Int.toNat_natCast, ← length_eq_of_sameStripped stands,
      ← List.length_append, ← List.append_assoc, ← List.append_assoc, splice_gap]
  rw [Hunk.applyTo, if_pos body, Hunk.place?, hplace]

/-! ## The run -/

/-- **Hunks that find their lines are all placed positionally**, whatever
was rewritten before them. The induction follows the hunks; what carries
it is that the buffer is `done ++ rest` and the offset
`done.length - passed`. -/
theorem runHunks_of_rewrites (excerpt : Excerpt) (hr : Rewrites passed rest hunks out)
    (hadded : ∀ h ∈ hunks, ∀ l ∈ h.newLines, '\n' ∉ l) (done : List Line)
    {content : Text} (index : Nat) (hfeed : ∀ l ∈ done ++ rest, '\n' ∉ l)
    (hcontent : content = Text.ofLines (done ++ rest))
    (hlines : hunks ≠ [] → content.lines = done ++ rest) :
    runHunks excerpt index ((done.length : Int) - passed) content hunks
      = { content := Text.ofLines (done ++ out)
          strategies := List.replicate hunks.length .positional } := by
  induction hr generalizing done content index with
  | nil =>
    rw [runHunks, hcontent]
    rfl
  | @cons passed gap region rest out h hunks body leads stands left later ih =>
    have hstep := Hunk.applyTo_of_leadsTo excerpt body leads stands
      (hlines (List.cons_ne_nil h hunks))
    -- the offset stays the difference of what is done and what is passed
    have hoffset : ((done.length : Int) - passed) + h.lineDelta
        = ((done ++ gap ++ h.newLines).length : Int)
          - ((passed + gap.length + region.length : Nat) : Int) := by
      rw [Hunk.lineDelta, ← length_eq_of_sameStripped stands, List.length_append,
        List.length_append]
      omega
    rw [List.forall_mem_cons] at hadded
    have hfeed' : ∀ l ∈ done ++ gap ++ h.newLines ++ rest, '\n' ∉ l := by
      intro l hl
      simp only [List.mem_append] at hl hfeed
      rcases hl with ((hl | hl) | hl) | hl
      · exact hfeed l (.inl hl)
      · exact hfeed l (.inr (.inl (.inl hl)))
      · exact hadded.1 l hl
      · exact hfeed l (.inr (.inr hl))
    -- where hunks are left so are lines, and the text made splits into them
    have hrun := ih hadded.2 _ (index + 1) hfeed' rfl (fun hne =>
      Text.lines_ofLines (fun e => left hne (List.append_eq_nil_iff.1 e).2) hfeed')
    rw [runHunks, hstep]
    dsimp only
    rw [hoffset, hrun]
    simp only [List.append_assoc, List.length_cons, List.replicate_succ, List.cons_append,
      List.nil_append]

/-- **Hunks that find their lines are applied**, every one of them by its
position. -/
theorem applyHunks_of_rewrites (excerpt : Excerpt) {content : Text}
    (hr : Rewrites 0 content.lines hunks out)
    (hadded : ∀ h ∈ hunks, ∀ l ∈ h.newLines, '\n' ∉ l) :
    applyHunks excerpt content hunks
      = { content := Text.ofLines out
          strategies := List.replicate hunks.length .positional } := by
  have hrun : runHunks excerpt 0 0 content hunks
      = { content := Text.ofLines out
          strategies := List.replicate hunks.length .positional } :=
    runHunks_of_rewrites excerpt hr hadded [] 0
      (fun l hl => Text.feed_notMem_of_mem_lines hl) (Text.ofLines_lines content).symm
      (fun _ => rfl)
  rw [applyHunks, hrun]
  rfl

end DriftPatch
