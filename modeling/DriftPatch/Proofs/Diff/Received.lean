import DriftPatch.Proofs.Diff.Body
import DriftPatch.Proofs.Diff.Path

/-!
# What arrives of a diff that is sent as text

A diff is written as text, and the text is read again. What is read are
the hunks that were written, and two things do not arrive: their names,
and the carriage returns at the ends of lines. The latter are taken for a
part of the line end, as they are in a diff whose own lines end so. Only
the last line of the text has no line end behind it, so a return stays
there.

`Hunk.settled` is a hunk as it arrives and `Hunk.settleAll` a list of
them, and the main statement is that these are what is read
(`parse_ofLines_sentLines`). Which lines a hunk has is left open but for
this: none of them holds a line feed, and a hunk without a change has no
context after it.
-/

namespace DriftPatch

namespace Hunk

/-- All lines of a hunk, in the order in which they are written. -/
def lines (h : Hunk) : List Line :=
  h.contextBefore ++ h.oldLines ++ h.newLines ++ h.contextAfter

/-- **A hunk that can be sent as text.** -/
structure Sendable (h : Hunk) : Prop where
  /-- Its header can be written. -/
  writable : h.Writable
  /-- Its lines are lines. -/
  feedless : ∀ l ∈ h.lines, '\n' ∉ l
  /-- There is no context after a change that is none. -/
  after : h.oldLines = [] → h.newLines = [] → h.contextAfter = []

/-- **A hunk as it arrives**: a line that another one follows has lost the
carriage return at its end. `more` says whether another hunk follows. -/
def settled (more : Bool) (h : Hunk) : Hunk :=
  { h with
    contextAfter := Text.settle more h.contextAfter
    newLines := Text.settle (more || !h.contextAfter.isEmpty) h.newLines
    oldLines := Text.settle (more || !h.contextAfter.isEmpty || !h.newLines.isEmpty)
      h.oldLines
    contextBefore := Text.settle (more || !h.contextAfter.isEmpty || !h.newLines.isEmpty
      || !h.oldLines.isEmpty) h.contextBefore }

/-- The hunks of a diff as they arrive. -/
def settleAll : List Hunk → List Hunk
  | [] => []
  | h :: hunks => h.settled (!hunks.isEmpty) :: settleAll hunks

/-! ## The lines that are sent -/

theorem feed_notMem_headerText (h : Hunk) : '\n' ∉ h.headerText := by
  have hdigits (n : Nat) : '\n' ∉ Numeral.digits n := by
    intro hm
    have := Numeral.isDecimalDigit_of_mem_digits hm
    exact absurd this (by decide)
  simp [headerText, hdigits]

theorem feed_notMem_sentLines {h : Hunk} (hs : ∀ l ∈ h.lines, '\n' ∉ l) :
    ∀ l ∈ h.sentLines, '\n' ∉ l := by
  intro l hl
  unfold sentLines bodyLines at hl
  simp only [List.mem_cons, List.mem_append, List.mem_map] at hl
  unfold lines at hs
  simp only [List.mem_append] at hs
  rcases hl with rfl | ((⟨m, hm, rfl⟩ | ⟨m, hm, rfl⟩) | ⟨m, hm, rfl⟩) | ⟨m, hm, rfl⟩
  · exact h.feed_notMem_headerText
  · exact List.not_mem_cons_of_ne_of_not_mem (by decide) (hs m (.inl (.inl (.inl hm))))
  · exact List.not_mem_cons_of_ne_of_not_mem (by decide) (hs m (.inl (.inl (.inr hm))))
  · exact List.not_mem_cons_of_ne_of_not_mem (by decide) (hs m (.inl (.inr hm)))
  · exact List.not_mem_cons_of_ne_of_not_mem (by decide) (hs m (.inr hm))

theorem ne_nil_of_mem_sentLines {h : Hunk} {l : Line} (hl : l ∈ h.sentLines) : l ≠ [] := by
  unfold sentLines bodyLines at hl
  simp only [List.mem_cons, List.mem_append, List.mem_map] at hl
  rcases hl with rfl | ((⟨m, -, rfl⟩ | ⟨m, -, rfl⟩) | ⟨m, -, rfl⟩) | ⟨m, -, rfl⟩
  all_goals exact List.cons_ne_nil _ _

/-! ## The lines that arrive -/

/-- A header has no return to lose. -/
theorem withoutReturn_headerText (h : Hunk) :
    Text.withoutReturn h.headerText = h.headerText := by
  refine Text.withoutReturn_of_getLast?_ne ?_
  -- the last mark is told apart from what stands before it
  have hend : h.headerText = ['@', '@', ' ', '-'] ++ (Numeral.digits h.oldStart.toNat
      ++ ',' :: (Numeral.digits h.oldCount.toNat ++ ([' ', '+']
        ++ (Numeral.digits h.newStart.toNat ++ ',' :: (Numeral.digits h.newCount.toNat
          ++ [' ', '@']))))) ++ ['@'] := by
    simp [headerText]
  rw [hend, List.getLast?_concat]
  decide

/-- The lines under a header arrive as those of the settled hunk. -/
theorem settle_bodyLines (more : Bool) (h : Hunk) :
    Text.settle more h.bodyLines = (h.settled more).bodyLines := by
  unfold bodyLines settled
  have hspace : ' ' ≠ '\r' := by decide
  have hminus : '-' ≠ '\r' := by decide
  have hplus : '+' ≠ '\r' := by decide
  rw [Text.settle_append, Text.settle_append, Text.settle_append,
    Text.settle_map_cons hspace, Text.settle_map_cons hminus, Text.settle_map_cons hplus,
    Text.settle_map_cons hspace]
  simp only [List.isEmpty_map]

theorem settle_sentLines (more : Bool) (h : Hunk) :
    Text.settle more h.sentLines = (h.settled more).sentLines := by
  rw [sentLines, Text.settle, withoutReturn_headerText, ite_self, settle_bodyLines]
  rfl

/-- **The lines of the hunks arrive as those of the settled hunks.** -/
theorem settle_flatMap_sentLines (hunks : List Hunk) :
    Text.settle false (hunks.flatMap sentLines) = (settleAll hunks).flatMap sentLines := by
  induction hunks with
  | nil => rfl
  | cons h hunks ih =>
    have hmore : (hunks.flatMap sentLines).isEmpty = hunks.isEmpty := by
      cases hunks <;> rfl
    rw [List.flatMap_cons, Text.settle_append, hmore, Bool.false_or, settle_sentLines, ih,
      settleAll, List.flatMap_cons]

theorem Writable.settled {h : Hunk} (hw : h.Writable) (more : Bool) :
    (h.settled more).Writable :=
  ⟨hw.1, hw.2, hw.3, hw.4⟩

/-- What can be sent arrives as something that could be sent. -/
theorem Sendable.settled {h : Hunk} (hs : h.Sendable) (more : Bool) :
    (h.settled more).Writable
      ∧ ((h.settled more).oldLines = [] → (h.settled more).newLines = []
        → (h.settled more).contextAfter = []) := by
  refine ⟨hs.writable.settled more, ?_⟩
  unfold Hunk.settled
  dsimp only
  rw [Text.settle_eq_nil_iff, Text.settle_eq_nil_iff, Text.settle_eq_nil_iff]
  exact hs.after

/-- **The hunks that arrive are gathered from their lines.** -/
theorem gather_settleAll {hunks : List Hunk} (hs : ∀ h ∈ hunks, h.Sendable) :
    Diff.gather ((settleAll hunks).flatMap meaning)
      = ({}, (settleAll hunks).map anonymous) := by
  induction hunks with
  | nil => rfl
  | cons h hunks ih =>
    rw [List.forall_mem_cons] at hs
    obtain ⟨hw, hafter⟩ := hs.1.settled (!hunks.isEmpty)
    rw [settleAll, List.flatMap_cons, List.map_cons]
    exact Diff.gather_meaning hw (ih hs.2) hafter

theorem writable_of_mem_settleAll {hunks : List Hunk} (hs : ∀ h ∈ hunks, h.Writable) :
    ∀ h ∈ settleAll hunks, h.Writable := by
  induction hunks with
  | nil => exact hs
  | cons h hunks ih =>
    rw [List.forall_mem_cons] at hs
    rw [settleAll, List.forall_mem_cons]
    exact ⟨hs.1.settled _, ih hs.2⟩

/-- The lines of hunks whose headers can be written. -/
theorem mapM_formatLines {hunks : List Hunk} (hw : ∀ h ∈ hunks, h.Writable) :
    hunks.mapM formatLines = .ok (hunks.map sentLines) := by
  induction hunks with
  | nil => rfl
  | cons h hunks ih =>
    rw [List.forall_mem_cons] at hw
    rw [List.mapM_cons, formatLines, headerLine_of_writable hw.1, ih hw.2]
    rfl

end Hunk

/-! ## The text of a diff and what is read from it -/

namespace Diff

/-- The lines by which a diff is sent. -/
def sentLines (d : Diff) : List Line :=
  fileLines d.filePath ++ d.hunks.flatMap Hunk.sentLines

/-- **The text of a diff** whose headers can be written. -/
theorem format_of_writable {d : Diff} (hw : ∀ h ∈ d.hunks, h.Writable) :
    d.format = .ok (Text.ofLines d.sentLines) := by
  rw [format, Hunk.mapM_formatLines hw]
  rfl

/-- The lines of a text that was made from lines, as a diff is read. -/
theorem textLines_ofLines {ls : List Line} (hne : ls ≠ []) (hfeed : ∀ l ∈ ls, '\n' ∉ l)
    (hlast : ∀ l ∈ ls, l ≠ []) :
    textLines (Text.ofLines ls) = Text.settle false ls := by
  have hsettled : Text.settle false ls ≠ [] := fun e => hne (Text.settle_eq_nil_iff.1 e)
  unfold textLines
  rw [Text.foldLineEnds_ofLines hfeed,
    Text.lines_ofLines hsettled (Text.feed_notMem_of_mem_settle hfeed)]
  dsimp only
  -- the last line is not empty, so it is not the end of the one before it
  rw [Text.getLast?_settle_false, if_neg]
  intro he
  exact hlast [] (List.mem_of_getLast? he) rfl

/-- The two lines that name a file belong to no hunk, whatever they lose
at their ends. -/
theorem gather_settle_fileLines (more : Bool) (path : Text) :
    ∃ ds, (Text.settle more (fileLines path)).mapM DiffLine.read = .ok ds
      ∧ ∀ rest, (gather (ds ++ rest)).2 = (gather rest).2 := by
  have hmark {c : Char} (hc : c ≠ '\r') (lost : Bool) (t : Text) :
      ∃ t', (if lost then Text.withoutReturn (c :: t) else c :: t) = c :: t' := by
    cases lost with
    | false => exact ⟨t, rfl⟩
    | true => exact ⟨t.withoutReturn, Text.withoutReturn_cons hc t⟩
  unfold fileLines
  rw [Text.settle, Text.settle, Text.settle]
  obtain ⟨old, hold⟩ := hmark (by decide : '-' ≠ '\r') (more || true)
    (['-', '-', ' ', 'a', '/'] ++ path)
  obtain ⟨new, hnew⟩ := hmark (by decide : '+' ≠ '\r') (more || false)
    (['+', '+', ' ', 'b', '/'] ++ path)
  refine ⟨[.removed old, .added new], ?_, fun rest => rfl⟩
  refine DiffLine.mapM_read_cons ?_ (DiffLine.mapM_read_cons ?_ rfl)
  · exact (congrArg DiffLine.read hold).trans (DiffLine.read_cons_of_ne (by decide) old)
  · exact (congrArg DiffLine.read hnew).trans (DiffLine.read_cons_of_ne (by decide) new)

variable {d : Diff}

theorem feed_notMem_of_mem_flatMap (hs : ∀ h ∈ d.hunks, h.Sendable) :
    ∀ l ∈ d.hunks.flatMap Hunk.sentLines, '\n' ∉ l := by
  intro l hl
  obtain ⟨h, hh, hl⟩ := List.mem_flatMap.1 hl
  exact Hunk.feed_notMem_sentLines (hs h hh).feedless l hl

theorem feed_notMem_of_mem_sentLines (hpath : '\n' ∉ d.filePath)
    (hs : ∀ h ∈ d.hunks, h.Sendable) : ∀ l ∈ d.sentLines, '\n' ∉ l := by
  unfold sentLines
  rw [List.forall_mem_append]
  exact ⟨feed_notMem_of_mem_fileLines hpath, feed_notMem_of_mem_flatMap hs⟩

/-- No line of a diff is empty. -/
theorem ne_nil_of_mem_sentLines : ∀ l ∈ d.sentLines, l ≠ [] := by
  unfold sentLines fileLines
  rw [List.forall_mem_append, List.forall_mem_cons, List.forall_mem_singleton]
  refine ⟨⟨List.cons_ne_nil _ _, List.cons_ne_nil _ _⟩, fun l hl => ?_⟩
  obtain ⟨h, -, hl⟩ := List.mem_flatMap.1 hl
  exact Hunk.ne_nil_of_mem_sentLines hl

/-- **The hunks that are read from the text of a diff** are its hunks as
they arrive. -/
theorem parseHunks_ofLines_sentLines (hpath : '\n' ∉ d.filePath)
    (hs : ∀ h ∈ d.hunks, h.Sendable) :
    parseHunks (Text.ofLines d.sentLines)
      = .ok ((Hunk.settleAll d.hunks).map Hunk.anonymous) := by
  have hwritable : ∀ h ∈ Hunk.settleAll d.hunks, h.Writable :=
    Hunk.writable_of_mem_settleAll fun h hh => (hs h hh).writable
  obtain ⟨ds, hread, hgather⟩ := gather_settle_fileLines
    (false || !(d.hunks.flatMap Hunk.sentLines).isEmpty) d.filePath
  have hlines : textLines (Text.ofLines d.sentLines) = _ :=
    textLines_ofLines (fileLines_append_ne_nil _ _) (feed_notMem_of_mem_sentLines hpath hs)
      ne_nil_of_mem_sentLines
  unfold parseHunks
  rw [hlines, sentLines, Text.settle_append, Hunk.settle_flatMap_sentLines,
    DiffLine.mapM_read_append hread (Hunk.mapM_read_flatMap hwritable)]
  show Except.ok (gather (ds ++ _)).2 = _
  rw [hgather, Hunk.gather_settleAll hs]

/-- **What is read from the text of a diff**: its path, its hunks as they
arrive, and the language of the path. -/
theorem parse_ofLines_sentLines (hpath : IsNameable d.filePath)
    (hs : ∀ h ∈ d.hunks, h.Sendable) :
    parse (Text.ofLines d.sentLines)
      = .ok { filePath := d.filePath
              hunks := (Hunk.settleAll d.hunks).map Hunk.anonymous
              language := Language.detect [] d.filePath } := by
  unfold parse
  rw [parseHunks_ofLines_sentLines hpath.feedless hs, sentLines,
    extractPath_ofLines hpath (feed_notMem_of_mem_flatMap hs)]
  rfl

end Diff

end DriftPatch
