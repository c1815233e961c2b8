import DriftPatch.Proofs.Diff.Body

/-!
# Diff text falls into the texts of its hunks

The header lines cut a diff text into pieces: what is above the first one, and
from each header line the lines up to the next. The first piece says nothing. Any
other one is the **text of a hunk**, and each part of the hunk is picked from its
lines by their first characters: the lines removed, the lines added, and the
context, where it matters in addition whether a changed line is above.

Reading goes through the lines one by one and has to keep in mind where it is.
What it gives is the same (`Diff.parseHunks_eq_ok_iff`): there is one hunk for each
header line, in order, and no line gets lost or into another hunk.
-/

namespace DriftPatch

/-- **A line that begins a hunk**: it starts with a header. -/
def Header.Begins (l : Line) : Prop :=
  ∃ w : Header.Written, w.IsNumeric ∧ w.text <+: l

/-- **The text of a hunk**. -/
structure HunkText where
  /-- The header line. -/
  head : Line
  /-- The lines below it, up to the next header line. -/
  body : List Line
  deriving DecidableEq, Repr

namespace HunkText

/-- The lines of the text. -/
def lines (t : HunkText) : List Line :=
  t.head :: t.body

/-- The lines with a certain mark in front, without the mark. -/
def marked (mark : Char) (ls : List Line) : List Line :=
  (ls.filter (·.head? == some mark)).map List.tail

/-- The empty lines and those with a space in front, without the space. -/
def context (ls : List Line) : List Line :=
  (ls.filter fun l => l.isEmpty || l.head? == some ' ').map List.tail

/-- Whether a line is removed or added. -/
def isChange (l : Line) : Bool :=
  l.head? == some '-' || l.head? == some '+'

/-- **What lines below a header say**: what they remove, what they add, and the
context above the first change and below it. -/
def said (ls : List Line) : HunkBody where
  oldLines := marked '-' ls
  newLines := marked '+' ls
  contextBefore := context (ls.takeWhile (!isChange ·))
  contextAfter := context (ls.dropWhile (!isChange ·))

/-- **A text describes a hunk**: the numbers are those of its header, and all else
is what the lines below say. -/
def Describes (t : HunkText) (h : Hunk) : Prop :=
  ∃ w : Header.Written, w.IsNumeric ∧ w.text <+: t.head ∧ w.IsReadable
    ∧ h = (said t.body).toHunk w.meaning

/-! ## What lines say, one by one -/

variable {l : Line} {ls : List Line}

/-- All context there is stands above the change or below it. -/
theorem context_append_context (ls : List Line) :
    context (ls.takeWhile (!isChange ·)) ++ context (ls.dropWhile (!isChange ·)) = context ls := by
  unfold context
  rw [← List.map_append, ← List.filter_append, List.takeWhile_append_dropWhile]

theorem said_removed (l : Line) (ls : List Line) :
    said (('-' :: l) :: ls) = (said ls).consRemoved l := by
  unfold said HunkBody.consRemoved HunkBody.behindChange
  dsimp only
  rw [context_append_context]
  rfl

theorem said_added (l : Line) (ls : List Line) :
    said (('+' :: l) :: ls) = (said ls).consAdded l := by
  unfold said HunkBody.consAdded HunkBody.behindChange
  dsimp only
  rw [context_append_context]
  rfl

theorem said_context (l : Line) (ls : List Line) :
    said ((' ' :: l) :: ls) = (said ls).consContext l :=
  rfl

theorem said_nil_cons (ls : List Line) : said ([] :: ls) = (said ls).consContext [] :=
  rfl

/-- Any other line says nothing. -/
theorem said_other {c : Char} (hminus : c ≠ '-') (hplus : c ≠ '+') (hspace : c ≠ ' ')
    (l : Line) (ls : List Line) : said ((c :: l) :: ls) = said ls := by
  have hkept : (!isChange (c :: l)) = true := by simp [isChange, hminus, hplus]
  unfold said
  rw [List.takeWhile_cons, List.dropWhile_cons, if_pos hkept, if_pos hkept]
  simp [marked, context, hminus, hplus, hspace]

end HunkText

open HunkText

namespace Diff

variable {l : Line} {lead ls : List Line} {rest : List DiffLine} {body : HunkBody}
  {hunks : List Hunk} {text : Text}

/-- **One more line** is gathered as it is said. -/
theorem gather_ofBody (l : Line) (hrest : gather rest = (said ls, hunks)) :
    gather (DiffLine.ofBody l :: rest) = (said (l :: ls), hunks) := by
  unfold DiffLine.ofBody
  split
  · rw [gather, hrest, said_removed]
  · rw [gather, hrest, said_added]
  · rw [gather, hrest, said_context]
  · rw [gather, hrest, said_nil_cons]
  · next hminus hplus hspace hnil =>
    obtain ⟨c, l, rfl⟩ := List.exists_cons_of_ne_nil hnil
    rw [gather, hrest, said_other (fun e => hminus l (e ▸ rfl)) (fun e => hplus l (e ▸ rfl))
      (fun e => hspace l (e ▸ rfl))]

/-- **Lines below a header**, up to the next one, are gathered as what they say. -/
theorem gather_map_ofBody (ls : List Line) (hrest : gather rest = ({}, hunks)) :
    gather (ls.map DiffLine.ofBody ++ rest) = (said ls, hunks) := by
  induction ls with
  | nil => exact hrest
  | cons l ls ih => exact gather_ofBody l ih

/-! ## Reading a line -/

/-- A line that begins no hunk is read for its first character. -/
theorem read_of_not_begins (hl : ¬Header.Begins l) : DiffLine.read l = .ok (.ofBody l) := by
  have hnone : Header.written? l = none :=
    Option.eq_none_iff_forall_ne_some.2 fun w hw => hl ⟨w, Header.written?_eq_some_iff.1 hw⟩
  rw [DiffLine.read, hnone]

theorem mapM_read_of_not_begins (hls : ∀ l ∈ ls, ¬Header.Begins l) :
    ls.mapM DiffLine.read = .ok (ls.map DiffLine.ofBody) := by
  induction ls with
  | nil => rfl
  | cons l ls ih =>
    rw [List.forall_mem_cons] at hls
    exact DiffLine.mapM_read_cons (read_of_not_begins hls.1) (ih hls.2)

/-- A header line is read as the meaning of its header, if that can be read. -/
theorem read_of_isReadable {w : Header.Written} (hw : w.IsNumeric) (htext : w.text <+: l)
    (hread : w.IsReadable) : DiffLine.read l = .ok (.header w.meaning) := by
  rw [DiffLine.read, Header.written?_eq_some_iff.2 ⟨hw, htext⟩]
  show w.read.map DiffLine.header = _
  rw [Header.Written.read_eq_ok_iff.2 ⟨hread, rfl⟩]
  rfl

/-- And only then it is read at all. -/
theorem isReadable_of_read {w : Header.Written} {d : DiffLine} (hw : w.IsNumeric)
    (htext : w.text <+: l) (h : DiffLine.read l = .ok d) : w.IsReadable := by
  obtain ⟨header, hread, -⟩ :=
    DiffLine.exists_of_read (Header.written?_eq_some_iff.2 ⟨hw, htext⟩) h
  exact (Header.Written.read_eq_ok_iff.1 hread).1

/-! ## Reading the texts of hunks -/

/-- **Lines that describe hunks**: above the first header line they may be
anything, and from there on they are the texts of the hunks. -/
structure AreDescribed (ls lead : List Line) (texts : List HunkText) (hunks : List Hunk) : Prop where
  /-- The lines are these and no others. -/
  lines : ls = lead ++ texts.flatMap HunkText.lines
  /-- No header line is above the first text. -/
  lead : ∀ l ∈ lead, ¬Header.Begins l
  /-- None is within a text. -/
  bodies : ∀ t ∈ texts, ∀ l ∈ t.body, ¬Header.Begins l
  /-- Each text describes a hunk, in order. -/
  describes : List.Forall₂ Describes texts hunks

/-- **The texts of hunks are gathered to the hunks.** -/
theorem exists_gather_of_describes {texts : List HunkText}
    (hbodies : ∀ t ∈ texts, ∀ l ∈ t.body, ¬Header.Begins l)
    (hdescribes : List.Forall₂ Describes texts hunks) :
    ∃ ds, (texts.flatMap HunkText.lines).mapM DiffLine.read = .ok ds ∧ gather ds = ({}, hunks) := by
  induction hdescribes with
  | nil => exact ⟨[], rfl, rfl⟩
  | @cons t h texts hunks hdescribes _ ih =>
    rw [List.forall_mem_cons] at hbodies
    obtain ⟨ds, hread, hgather⟩ := ih hbodies.2
    obtain ⟨w, hw, htext, hreadable, rfl⟩ := hdescribes
    refine ⟨.header w.meaning :: (t.body.map DiffLine.ofBody ++ ds), ?_, ?_⟩
    · exact DiffLine.mapM_read_cons (read_of_isReadable hw htext hreadable)
        (DiffLine.mapM_read_append (mapM_read_of_not_begins hbodies.1) hread)
    · rw [gather, gather_map_ofBody t.body hgather]

/-- **Lines that can be read describe hunks.** -/
theorem exists_areDescribed (hread : ∀ l ∈ ls, ∃ d, DiffLine.read l = .ok d) :
    ∃ lead texts hunks, AreDescribed ls lead texts hunks := by
  induction ls with
  | nil => exact ⟨[], [], [], rfl, nofun, nofun, .nil⟩
  | cons l ls ih =>
    rw [List.forall_mem_cons] at hread
    obtain ⟨lead, texts, hunks, rfl, hlead, hbodies, hdescribes⟩ := ih hread.2
    by_cases hl : Header.Begins l
    · obtain ⟨w, hw, htext⟩ := hl
      obtain ⟨d, hd⟩ := hread.1
      exact ⟨[], ⟨l, lead⟩ :: texts, _, rfl, nofun, List.forall_mem_cons.2 ⟨hlead, hbodies⟩,
        .cons ⟨w, hw, htext, isReadable_of_read hw htext hd, rfl⟩ hdescribes⟩
    · exact ⟨l :: lead, texts, hunks, rfl, List.forall_mem_cons.2 ⟨hl, hlead⟩, hbodies, hdescribes⟩

theorem parseHunks_of_areDescribed {texts : List HunkText}
    (h : AreDescribed (textLines text) lead texts hunks) : parseHunks text = .ok hunks := by
  obtain ⟨ds, hread, hgather⟩ := exists_gather_of_describes h.bodies h.describes
  have hall := DiffLine.mapM_read_append (mapM_read_of_not_begins h.lead) hread
  rw [← h.lines] at hall
  rw [parseHunks, hall]
  show Except.ok (gather _).2 = _
  rw [gather_map_ofBody lead hgather]

/-- **The hunks of a diff text are those that its lines describe**: if the text is
read at all its lines describe hunks, and if they do those hunks are what is read. -/
theorem parseHunks_eq_ok_iff (text : Text) (hunks : List Hunk) :
    parseHunks text = .ok hunks ↔ ∃ lead texts, AreDescribed (textLines text) lead texts hunks := by
  constructor
  · intro h
    obtain ⟨ds, hds, -⟩ := exists_ok_of_bind h
    obtain ⟨lead, texts, described, hdescribed⟩ := exists_areDescribed (exists_ok_of_mapM hds)
    rw [parseHunks_of_areDescribed hdescribed, Except.ok.injEq] at h
    exact ⟨lead, texts, h ▸ hdescribed⟩
  · rintro ⟨lead, texts, h⟩
    exact parseHunks_of_areDescribed h

end Diff

end DriftPatch
