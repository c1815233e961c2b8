import DriftPatch.Proofs.Diff.RoundTrip

/-!
# Writing a diff that was read settles it

What is read from a text without carriage returns can be written and read
again, whatever the text. The diff is then the same, and so is its text from
the second writing on (`Diff.parse_format_of_parse`). The text that was read
first may be a different one: prose around the diff is gone, lines removed
and lines added stand apart, and numbers have their shortest form.

The text may be anything, so nothing can be said of the diff but what
reading itself sees to. Every line of it is empty or a line of the text
without its first character, every number has few enough digits, and a hunk
without a change has all of its context before the change.
-/

namespace DriftPatch

/-! ## The lines of a text without returns -/

namespace Text

/-- **A plain line**: it holds neither of the two marks of line ends. -/
def IsPlain (l : Line) : Prop :=
  '\n' ∉ l ∧ '\r' ∉ l

theorem isPlain_nil : IsPlain [] :=
  ⟨List.not_mem_nil, List.not_mem_nil⟩

theorem IsPlain.of_cons {c : Char} {l : Line} (h : IsPlain (c :: l)) : IsPlain l :=
  ⟨List.not_mem_of_not_mem_cons h.1, List.not_mem_of_not_mem_cons h.2⟩

end Text

/-- The lines of a diff without returns are plain. -/
theorem Diff.isPlain_of_mem_textLines {text : Text} {l : Line} (ht : '\r' ∉ text)
    (hl : l ∈ textLines text) : Text.IsPlain l := by
  have hline : l ∈ text.lines := by
    unfold textLines at hl
    rw [Text.foldLineEnds_of_return_notMem ht] at hl
    dsimp only at hl
    split at hl
    · exact List.dropLast_subset _ hl
    · exact hl
  exact ⟨Text.feed_notMem_of_mem_lines hline, fun hr => ht (Text.mem_of_mem_lines hline hr)⟩

/-! ## What one line is read as -/

namespace Header

/-- A count that is read can be written, be it given or left out. -/
theorem fits_of_readCount {r : Range} {n : Nat} (h : r.readCount = .ok n) :
    Numeral.Fits n := by
  unfold Range.readCount at h
  split at h
  · exact Numeral.fits_of_read h
  · cases h
    exact Numeral.fits_of_le (by decide)

/-- **A header that is read can be written**, with whatever body. -/
theorem writable_of_read {w : Written} {header : Header} (h : w.read = .ok header)
    (b : HunkBody) : (b.toHunk header).Writable := by
  unfold Written.read at h
  obtain ⟨_, hoStart, h⟩ := exists_ok_of_bind h
  obtain ⟨_, hoCount, h⟩ := exists_ok_of_bind h
  obtain ⟨_, hnStart, h⟩ := exists_ok_of_bind h
  obtain ⟨_, hnCount, h⟩ := exists_ok_of_bind h
  cases h
  exact ⟨Numeral.fits_of_read hoStart, fits_of_readCount hoCount,
    Numeral.fits_of_read hnStart, fits_of_readCount hnCount⟩

end Header

namespace DiffLine

/-- **What a plain line can mean**: a header that can be written, or a line
that is plain itself. -/
def IsPlain : DiffLine → Prop
  | .header h => ∀ b : HunkBody, (b.toHunk h).Writable
  | .removed line => line.IsPlain
  | .added line => line.IsPlain
  | .context line => line.IsPlain
  | .other => True

theorem isPlain_ofBody {l : Line} (hl : l.IsPlain) : (ofBody l).IsPlain := by
  unfold ofBody
  split
  · exact hl.of_cons
  · exact hl.of_cons
  · exact hl.of_cons
  · exact Text.isPlain_nil
  · exact trivial

theorem isPlain_of_read {l : Line} {d : DiffLine} (hl : l.IsPlain) (h : read l = .ok d) :
    d.IsPlain := by
  unfold read at h
  split at h
  · next written _ =>
    cases hread : written.read with
    | error e =>
      rw [hread] at h
      cases h
    | ok header =>
      rw [hread] at h
      cases h
      exact Header.writable_of_read hread
  · cases h
    exact isPlain_ofBody hl

end DiffLine

/-! ## What is gathered from the lines -/

/-- **A plain body**: its lines are plain, and without a change there is no
context after it. -/
structure HunkBody.IsPlain (b : HunkBody) : Prop where
  /-- The lines removed are plain. -/
  old : ∀ l ∈ b.oldLines, l.IsPlain
  /-- The lines added are plain. -/
  new : ∀ l ∈ b.newLines, l.IsPlain
  /-- The context before the change is plain. -/
  before : ∀ l ∈ b.contextBefore, l.IsPlain
  /-- The context after it is plain. -/
  behind : ∀ l ∈ b.contextAfter, l.IsPlain
  /-- There is no context after a change that is none. -/
  after : b.oldLines = [] → b.newLines = [] → b.contextAfter = []

namespace HunkBody.IsPlain

variable {b : HunkBody} {l : Line}

theorem empty : ({} : HunkBody).IsPlain :=
  ⟨List.forall_mem_nil _, List.forall_mem_nil _, List.forall_mem_nil _, List.forall_mem_nil _,
    fun _ _ => rfl⟩

/-- All of the context can stand behind a change. -/
theorem context (hb : b.IsPlain) : ∀ l ∈ b.contextBefore ++ b.contextAfter, l.IsPlain :=
  List.forall_mem_append.2 ⟨hb.before, hb.behind⟩

theorem consRemoved (hb : b.IsPlain) (hl : l.IsPlain) : (b.consRemoved l).IsPlain :=
  ⟨List.forall_mem_cons.2 ⟨hl, hb.old⟩, hb.new, List.forall_mem_nil _, hb.context,
    fun h => absurd h (List.cons_ne_nil _ _)⟩

theorem consAdded (hb : b.IsPlain) (hl : l.IsPlain) : (b.consAdded l).IsPlain :=
  ⟨hb.old, List.forall_mem_cons.2 ⟨hl, hb.new⟩, List.forall_mem_nil _, hb.context,
    fun _ h => absurd h (List.cons_ne_nil _ _)⟩

theorem consContext (hb : b.IsPlain) (hl : l.IsPlain) : (b.consContext l).IsPlain :=
  ⟨hb.old, hb.new, List.forall_mem_cons.2 ⟨hl, hb.before⟩, hb.behind, hb.after⟩

/-- **A plain body makes a well-formed hunk** under a header that can be
written. -/
theorem wellFormed_toHunk (hb : b.IsPlain) {header : Header}
    (hheader : (b.toHunk header).Writable) : (b.toHunk header).WellFormed := by
  have hplain : ∀ l ∈ (b.toHunk header).lines, l.IsPlain := by
    unfold Hunk.lines
    rw [List.forall_mem_append, List.forall_mem_append, List.forall_mem_append]
    exact ⟨⟨⟨hb.before, hb.old⟩, hb.new⟩, hb.behind⟩
  exact ⟨⟨hheader, fun l hl => (hplain l hl).1, hb.after⟩,
    fun l hl hlast => (hplain l hl).2 (List.mem_of_getLast? hlast)⟩

end HunkBody.IsPlain

namespace Diff

/-- **What is gathered from plain lines is well-formed.** The body is what the
lines before the first header leave to a header in front of them. -/
theorem wellFormed_of_mem_gather {ds : List DiffLine} (hds : ∀ d ∈ ds, d.IsPlain) :
    (gather ds).1.IsPlain
      ∧ ∀ h ∈ (gather ds).2, h.WellFormed ∧ h.anonymous = h := by
  induction ds with
  | nil => exact ⟨HunkBody.IsPlain.empty, List.forall_mem_nil _⟩
  | cons d ds ih =>
    rw [List.forall_mem_cons] at hds
    obtain ⟨hbody, hhunks⟩ := ih hds.2
    cases d with
    | header header =>
      refine ⟨HunkBody.IsPlain.empty, List.forall_mem_cons.2 ⟨⟨?_, rfl⟩, hhunks⟩⟩
      exact hbody.wellFormed_toHunk (hds.1 _)
    | removed l => exact ⟨hbody.consRemoved hds.1, hhunks⟩
    | added l => exact ⟨hbody.consAdded hds.1, hhunks⟩
    | context l => exact ⟨hbody.consContext hds.1, hhunks⟩
    | other => exact ⟨hbody, hhunks⟩

variable {text : Text} {d : Diff}

/-- **A diff that is read from a text without returns is well-formed**, and it
is all that such a diff says. -/
theorem wellFormed_of_parse (ht : '\r' ∉ text) (hd : parse text = .ok d) :
    d.WellFormed ∧ d = { filePath := d.filePath
                         hunks := d.hunks.map Hunk.anonymous
                         oldContent := []
                         newContent := []
                         language := Language.detect [] d.filePath } := by
  unfold parse parseHunks at hd
  obtain ⟨hunks, hhunks, hd⟩ := exists_ok_of_bind hd
  obtain ⟨ds, hds, hgather⟩ := exists_ok_of_bind hhunks
  cases hgather
  cases hd
  have hplain : ∀ d ∈ ds, d.IsPlain := forall_mem_of_mapM
    (fun l hl d => DiffLine.isPlain_of_read (isPlain_of_mem_textLines ht hl)) hds
  have hgathered := (wellFormed_of_mem_gather hplain).2
  have hunnamed : (gather ds).2.map Hunk.anonymous = (gather ds).2 :=
    (List.map_congr_left fun h hh => (hgathered h hh).2).trans (List.map_id _)
  refine ⟨⟨isNameable_extractPath text, fun h hh => (hgathered h hh).1⟩, ?_⟩
  show _ = ({ filePath := extractPath text
              hunks := (gather ds).2.map Hunk.anonymous
              language := Language.detect [] (extractPath text) } : Diff)
  rw [hunnamed]

/-- **What is read from a text without returns is read again from what is
written of it**: the same diff in all that it has, and from the second
writing on the same text. -/
theorem parse_format_of_parse (ht : '\r' ∉ text) (hd : parse text = .ok d) :
    ∃ written, d.format = .ok written
      ∧ parse written = .ok d
      ∧ (parse written >>= format) = .ok written := by
  obtain ⟨hwell, hsays⟩ := wellFormed_of_parse ht hd
  have hagain : parse (Text.ofLines d.sentLines) = .ok d :=
    hwell.parse_sentLines.trans (congrArg Except.ok hsays.symm)
  refine ⟨_, hwell.format_eq, hagain, ?_⟩
  rw [hagain]
  exact hwell.format_eq

/-- A text with prose around its hunks and within them, two paths that are
no file and one that is, changed lines and context in no order, digits of
two scripts with zeros before them, and a hunk without a change. -/
def scattered : Text :=
  Text.ofLines (["see below", "--- /dev/null", "+++ ", "--- a/b/ n m.py ", "-before",
    "@@ -٠٣,०2 +007 @@ def f", "", " x", "+b", " y", "-a", "prose", "", "+-- c",
    "@@ -1 +1,0 @@", "@ only", " z", ""].map String.toList)

/-- The diff that is read from it. The second line to name a path has nothing
but blanks on it, so the path is the whole of the line below. -/
def scatteredDiff : Diff where
  filePath := "--- a/b/ n m.py".toList
  language := "python".toList
  hunks :=
    [{ oldStart := 3
       oldCount := 2
       newStart := 7
       newCount := 1
       contextBefore := [[], "x".toList]
       oldLines := ["a".toList]
       newLines := ["b".toList, "-- c".toList]
       contextAfter := ["y".toList, []] },
     { oldStart := 1
       oldCount := 1
       newStart := 1
       newCount := 0
       contextBefore := ["z".toList] }]

theorem parse_format_of_parse_scattered :
    '\r' ∉ scattered ∧ parse scattered = .ok scatteredDiff
      ∧ ∃ written, scatteredDiff.format = .ok written
        ∧ parse written = .ok scatteredDiff
        ∧ (parse written >>= format) = .ok written := by
  have ht : '\r' ∉ scattered := by decide +kernel
  have hd : parse scattered = .ok scatteredDiff := by decide +kernel
  exact ⟨ht, hd, parse_format_of_parse ht hd⟩

end Diff

end DriftPatch
