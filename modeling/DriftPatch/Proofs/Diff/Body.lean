import DriftPatch.Proofs.Diff.Header

/-!
# The lines of a hunk are gathered again

The lines under a header are told by their marks, and no mark begins a
header, whatever stands behind it. So the lines of a hunk are read for
what they are (`Hunk.mapM_read_sentLines`), and gathered they make the
hunk again, except for its name (`Diff.gather_meaning`).

One thing has to be asked of the hunk. Context is told to be before or
after the change by the change alone, so a hunk that changes nothing has
no context after it.
-/

namespace DriftPatch

/-! ## Reading marked lines -/

namespace DiffLine

/-- A line without the mark of headers in front is no header. -/
theorem read_cons_of_ne {c : Char} (hc : c ≠ '@') (line : Line) :
    read (c :: line) = .ok (ofBody (c :: line)) := by
  have hnone : Header.written? (c :: line) = none := by
    unfold Header.written?
    rw [Text.after?, if_neg (Ne.symm hc)]
    rfl
  rw [read, hnone]

variable {ls ms : List Line} {ds es : List DiffLine}

theorem mapM_read_append (hls : ls.mapM read = .ok ds) (hms : ms.mapM read = .ok es) :
    (ls ++ ms).mapM read = .ok (ds ++ es) := by
  rw [List.mapM_append, hls, hms]
  rfl

theorem mapM_read_cons {l : Line} {d : DiffLine} (hl : read l = .ok d)
    (hls : ls.mapM read = .ok ds) : (l :: ls).mapM read = .ok (d :: ds) := by
  rw [List.mapM_cons, hl, hls]
  rfl

/-- Lines under one mark. -/
theorem mapM_read_map {c : Char} (hc : c ≠ '@') (ls : List Line) :
    (ls.map (c :: ·)).mapM read = .ok (ls.map fun l => ofBody (c :: l)) := by
  induction ls with
  | nil => rfl
  | cons l ls ih => exact mapM_read_cons (read_cons_of_ne hc l) ih

end DiffLine

namespace Hunk

/-- The lines by which a hunk is sent: its header and the lines under
it. -/
def sentLines (h : Hunk) : List Line :=
  h.headerText :: h.bodyLines

/-- The body of a hunk. -/
def body (h : Hunk) : HunkBody where
  oldLines := h.oldLines
  newLines := h.newLines
  contextBefore := h.contextBefore
  contextAfter := h.contextAfter

/-- What the lines of a hunk mean, one by one. -/
def meaning (h : Hunk) : List DiffLine :=
  .header h.header :: (h.contextBefore.map .context ++ h.oldLines.map .removed
    ++ h.newLines.map .added ++ h.contextAfter.map .context)

/-- A hunk is its header and its body, and its name is neither. -/
theorem toHunk_body (h : Hunk) (hw : h.Writable) :
    h.body.toHunk h.header = h.anonymous := by
  unfold HunkBody.toHunk header anonymous
  dsimp only
  rw [Int.toNat_of_nonneg hw.oldStart.1, Int.toNat_of_nonneg hw.oldCount.1,
    Int.toNat_of_nonneg hw.newStart.1, Int.toNat_of_nonneg hw.newCount.1]
  rfl

/-- **The lines of a hunk are read for what they are.** -/
theorem mapM_read_sentLines {h : Hunk} (hw : h.Writable) :
    h.sentLines.mapM DiffLine.read = .ok h.meaning := by
  refine DiffLine.mapM_read_cons (read_headerText hw) ?_
  refine DiffLine.mapM_read_append (DiffLine.mapM_read_append
    (DiffLine.mapM_read_append ?_ ?_) ?_) ?_
  · exact DiffLine.mapM_read_map (by decide) h.contextBefore
  · exact DiffLine.mapM_read_map (by decide) h.oldLines
  · exact DiffLine.mapM_read_map (by decide) h.newLines
  · exact DiffLine.mapM_read_map (by decide) h.contextAfter

theorem mapM_read_flatMap {hunks : List Hunk} (hw : ∀ h ∈ hunks, h.Writable) :
    (hunks.flatMap sentLines).mapM DiffLine.read = .ok (hunks.flatMap meaning) := by
  induction hunks with
  | nil => rfl
  | cons h hunks ih =>
    rw [List.forall_mem_cons] at hw
    rw [List.flatMap_cons, List.flatMap_cons]
    exact DiffLine.mapM_read_append (mapM_read_sentLines hw.1) (ih hw.2)

end Hunk

/-! ## Gathering -/

namespace Diff

variable {rest : List DiffLine} {body : HunkBody} {hunks : List Hunk}

/-- Lines of one kind are put in front of a body all at once, if putting
one in front of others puts it with them. -/
theorem gather_map (mark : Line → DiffLine) (put : List Line → HunkBody → HunkBody)
    (hone : ∀ l ds, gather (mark l :: ds) = (put [l] (gather ds).1, (gather ds).2))
    (hmore : ∀ l m ls b, put [l] (put (m :: ls) b) = put (l :: m :: ls) b)
    {ls : List Line} (hne : ls ≠ []) (h : gather rest = (body, hunks)) :
    gather (ls.map mark ++ rest) = (put ls body, hunks) := by
  induction ls with
  | nil => exact absurd rfl hne
  | cons l ls ih =>
    rw [List.map_cons, List.cons_append, hone]
    cases ls with
    | nil => rw [List.map_nil, List.nil_append, h]
    | cons m ls => rw [ih (List.cons_ne_nil m ls), hmore]

/-- Context stays before what it stands before. -/
theorem gather_context (ls : List Line) (h : gather rest = (body, hunks)) :
    gather (ls.map .context ++ rest)
      = ({ body with contextBefore := ls ++ body.contextBefore }, hunks) := by
  by_cases hls : ls = []
  · rw [hls]
    exact h
  · exact gather_map .context (fun ls b => { b with contextBefore := ls ++ b.contextBefore })
      (fun _ _ => rfl) (fun _ _ _ _ => rfl) hls h

/-- A line added pushes all context behind the change. -/
theorem gather_added {ls : List Line} (hne : ls ≠ []) (h : gather rest = (body, hunks)) :
    gather (ls.map .added ++ rest)
      = ({ body.behindChange with newLines := ls ++ body.newLines }, hunks) :=
  gather_map .added (fun ls b => { b.behindChange with newLines := ls ++ b.newLines })
    (fun _ _ => rfl) (fun _ _ _ _ => rfl) hne h

/-- And so does a line removed. -/
theorem gather_removed {ls : List Line} (hne : ls ≠ []) (h : gather rest = (body, hunks)) :
    gather (ls.map .removed ++ rest)
      = ({ body.behindChange with oldLines := ls ++ body.oldLines }, hunks) :=
  gather_map .removed (fun ls b => { b.behindChange with oldLines := ls ++ b.oldLines })
    (fun _ _ => rfl) (fun _ _ _ _ => rfl) hne h

/-- **The body of a hunk is gathered** from the lines under its header. Where more
changed lines come before the next header, they join it. -/
theorem gather_body (h : Hunk) {old new : List Line}
    (hrest : gather rest = ({ oldLines := old, newLines := new }, hunks))
    (hafter : h.oldLines = [] → h.newLines = [] → h.contextAfter = []) :
    gather (h.contextBefore.map .context ++ (h.oldLines.map .removed
        ++ (h.newLines.map .added ++ (h.contextAfter.map .context ++ rest))))
      = ({ h.body with oldLines := h.oldLines ++ old, newLines := h.newLines ++ new }, hunks) := by
  have hcontext := gather_context h.contextAfter hrest
  by_cases hold : h.oldLines = []
  · by_cases hnew : h.newLines = []
    · -- without a change all context comes before it
      have hbefore := gather_context h.contextBefore hrest
      rw [hold, hnew, hafter hold hnew]
      simpa [Hunk.body, hold, hnew, hafter hold hnew] using hbefore
    · have hbefore := gather_context h.contextBefore (gather_added hnew hcontext)
      rw [hold]
      simpa [HunkBody.behindChange, Hunk.body, hold, hnew] using hbefore
  · by_cases hnew : h.newLines = []
    · have hbefore := gather_context h.contextBefore (gather_removed hold hcontext)
      rw [hnew]
      simpa [HunkBody.behindChange, Hunk.body, hold, hnew] using hbefore
    · have hbefore := gather_context h.contextBefore
        (gather_removed hold (gather_added hnew hcontext))
      simpa [HunkBody.behindChange, Hunk.body, hold, hnew] using hbefore

/-- **A hunk is gathered from the meaning of its lines**, without its
name. -/
theorem gather_meaning {h : Hunk} (hw : h.Writable) (hrest : gather rest = ({}, hunks))
    (hafter : h.oldLines = [] → h.newLines = [] → h.contextAfter = []) :
    gather (h.meaning ++ rest) = ({}, h.anonymous :: hunks) := by
  have hbody := gather_body h hrest hafter
  rw [← List.append_assoc, ← List.append_assoc, ← List.append_assoc, List.append_nil,
    List.append_nil] at hbody
  rw [Hunk.meaning, List.cons_append, gather, hbody]
  show (({}, h.body.toHunk h.header :: hunks) : HunkBody × List Hunk) = _
  rw [h.toHunk_body hw]

end Diff

end DriftPatch
