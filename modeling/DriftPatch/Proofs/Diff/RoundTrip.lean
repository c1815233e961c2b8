import DriftPatch.Proofs.Diff.Received

/-!
# Reading undoes writing

A well-formed diff is read from its text as it was, but for what the text
does not carry: the names of the hunks and the two texts that were
compared. Nothing is asked of what the lines say. A line may look like a
header, a mark or the name of a file, since it is never the first
character of a line in the text.
-/

namespace DriftPatch

namespace Hunk

/-- **A well-formed hunk**: it can be sent, and none of its lines ends in
a carriage return. -/
structure WellFormed (h : Hunk) : Prop extends h.Sendable where
  /-- No line loses anything on the way. -/
  returnless : ∀ l ∈ h.lines, l.getLast? ≠ some '\r'

/-- A hunk without returns arrives as it is. -/
theorem settled_eq_self {h : Hunk} (hr : ∀ l ∈ h.lines, l.getLast? ≠ some '\r')
    (more : Bool) : h.settled more = h := by
  unfold lines at hr
  rw [List.forall_mem_append, List.forall_mem_append, List.forall_mem_append] at hr
  obtain ⟨⟨⟨hbefore, hold⟩, hnew⟩, hafter⟩ := hr
  unfold settled
  rw [Text.settle_eq_self hbefore, Text.settle_eq_self hold, Text.settle_eq_self hnew,
    Text.settle_eq_self hafter]

theorem settleAll_eq_self {hunks : List Hunk} (hr : ∀ h ∈ hunks, h.WellFormed) :
    settleAll hunks = hunks := by
  induction hunks with
  | nil => rfl
  | cons h hunks ih =>
    rw [List.forall_mem_cons] at hr
    rw [settleAll, settled_eq_self hr.1.returnless, ih hr.2]

end Hunk

namespace Diff

/-- **A well-formed diff.** -/
structure WellFormed (d : Diff) : Prop where
  /-- Its path is one that a line can name. -/
  path : IsNameable d.filePath
  /-- Its hunks are well-formed. -/
  hunks : ∀ h ∈ d.hunks, h.WellFormed

namespace WellFormed

variable {d : Diff}

theorem sendable (h : d.WellFormed) : ∀ g ∈ d.hunks, g.Sendable :=
  fun g hg => (h.hunks g hg).toSendable

theorem format_eq (h : d.WellFormed) : d.format = .ok (Text.ofLines d.sentLines) :=
  format_of_writable fun g hg => (h.sendable g hg).writable

theorem parse_sentLines (h : d.WellFormed) :
    parse (Text.ofLines d.sentLines)
      = .ok { filePath := d.filePath
              hunks := d.hunks.map Hunk.anonymous
              oldContent := []
              newContent := []
              language := Language.detect [] d.filePath } := by
  rw [parse_ofLines_sentLines h.path h.sendable, Hunk.settleAll_eq_self h.hunks]

end WellFormed

/-- **A well-formed diff can be written, and what is written is read as
the same diff**: the same path and the same hunks in the same order, each
with all it has but its name, under the language of the path and without
the texts that were compared. -/
theorem parse_format {d : Diff} (h : d.WellFormed) :
    ∃ text, d.format = .ok text
      ∧ parse text = .ok { filePath := d.filePath
                           hunks := d.hunks.map Hunk.anonymous
                           oldContent := []
                           newContent := []
                           language := Language.detect [] d.filePath } := by
  exact ⟨Text.ofLines d.sentLines, h.format_eq, h.parse_sentLines⟩

/-- A diff full of lines that look like something else: headers, marks,
names of files, and nothing at all. -/
def lookalikes : Diff where
  filePath := "a/b c.py".toList
  hunks :=
    [{ id := .named "h".toList
       oldStart := 0
       oldCount := 7
       newStart := 4300
       newCount := 0
       oldLines := ["@@ -1 +1 @@".toList, "-- a/x".toList, []]
       newLines := ["++ b/y".toList, "\r ".toList]
       contextBefore := [[], "@@ -1 +1 @@".toList]
       contextAfter := [" +".toList, []] },
     { contextBefore := ["-".toList, []] },
     { newLines := [[]] }]
  oldContent := "kept by no text".toList

theorem parse_format_lookalikes :
    lookalikes.WellFormed ∧ ∃ text, lookalikes.format = .ok text
      ∧ parse text = .ok { filePath := lookalikes.filePath
                           hunks := lookalikes.hunks.map Hunk.anonymous
                           oldContent := []
                           newContent := []
                           language := Language.detect [] lookalikes.filePath } := by
  have hwell : lookalikes.WellFormed := by
    have hfits {n : Nat} (hn : n ≤ Numeral.maxDigits) : Numeral.Fits n :=
      Numeral.fits_of_le hn
    refine ⟨by decide, ?_⟩
    unfold lookalikes
    rw [List.forall_mem_cons, List.forall_mem_cons, List.forall_mem_singleton]
    refine ⟨?_, ?_, ?_⟩
    all_goals exact ⟨⟨⟨hfits (by decide), hfits (by decide), hfits (by decide),
      hfits (by decide)⟩, by decide, by decide⟩, by decide⟩
  exact ⟨hwell, parse_format hwell⟩

end Diff

end DriftPatch
