import DriftPatch.Proofs.Diff.RoundTrip
import DriftPatch.Proofs.Replay.Sent

/-!
# The texts of two diffs, one behind the other

A text may tell of more than one file: a section for each, which begins with the
two lines that name the file. In front of the first hunk these lines belong to no
hunk. But a hunk reaches to the next header, and the lines that name the next file
come before that. They begin with the marks of a line removed and a line added, so
the last hunk of a section takes them for its own (`Hunk.swallowing`). All other
hunks of both sections are read as they were written
(`Diff.parseHunks_append_sections`).

So the hunks of both sections are read exactly if the first one has none, and
otherwise one line is to be removed that was never in a file.
-/

namespace DriftPatch

/-- The line that names the old file, less its first mark. -/
def Diff.oldName (path : Text) : Line :=
  ['-', '-', ' ', 'a', '/'] ++ path

/-- The line that names the new file, less its first mark. -/
def Diff.newName (path : Text) : Line :=
  ['+', '+', ' ', 'b', '/'] ++ path

namespace Hunk

/-- **The hunk that has taken the two lines that name a file for its own**: less
their first marks, one is removed and the other one added. -/
def swallowing (path : Text) (h : Hunk) : Hunk :=
  { h with
    oldLines := h.oldLines ++ [Diff.oldName path]
    newLines := h.newLines ++ [Diff.newName path] }

/-- The hunks of which the last one has taken the two lines for its own. -/
def swallowLast (path : Text) : List Hunk → List Hunk
  | [] => []
  | [h] => [h.swallowing path]
  | h :: g :: hunks => h :: swallowLast path (g :: hunks)

variable {path : Text} {hunks : List Hunk}

/-- **One line more is removed** than the hunks say, if there are any. -/
theorem oldLines_swallowLast (hne : hunks ≠ []) :
    (swallowLast path hunks).flatMap (·.oldLines)
      = hunks.flatMap (·.oldLines) ++ [Diff.oldName path] := by
  induction hunks with
  | nil => exact absurd rfl hne
  | cons h hunks ih =>
    cases hunks with
    | nil =>
      show (h.oldLines ++ _) ++ [] = (h.oldLines ++ []) ++ _
      rw [List.append_nil, List.append_nil]
    | cons g hunks =>
      rw [swallowLast, List.flatMap_cons, ih (List.cons_ne_nil g hunks), ← List.append_assoc]
      rfl

/-- Nothing but hunks that are none are as they were. -/
theorem swallowLast_append_eq_iff (more : List Hunk) :
    (swallowLast path hunks ++ more).map anonymous = (hunks ++ more).map anonymous
      ↔ hunks = [] := by
  constructor
  · intro h
    by_contra hne
    have hcount := congrArg (fun hs => (hs.flatMap (·.oldLines)).length) h
    have hold (hs : List Hunk) :
        (hs.map anonymous).flatMap (·.oldLines) = hs.flatMap (·.oldLines) :=
      List.flatMap_map ..
    rw [hold, hold, List.flatMap_append, List.flatMap_append, oldLines_swallowLast hne] at hcount
    simp at hcount
  · rintro rfl
    rfl

end Hunk

/-! ## Gathering -/

namespace Diff

variable {path : Text} {rest : List DiffLine} {more hunks : List Hunk}

/-- A hunk is gathered from its lines and the two that name a file. -/
theorem gather_meaning_swallowing {h : Hunk} (hw : h.Writable)
    (hafter : h.oldLines = [] → h.newLines = [] → h.contextAfter = []) (path : Text)
    (hrest : gather rest = ({}, more)) :
    gather (h.meaning ++ .removed (oldName path) :: .added (newName path) :: rest)
      = ({}, (h.swallowing path).anonymous :: more) := by
  have hnames : gather (.removed (oldName path) :: .added (newName path) :: rest)
      = ({ oldLines := [oldName path], newLines := [newName path] }, more) := by
    rw [gather, gather, hrest]
    rfl
  have hbody := gather_body h hnames hafter
  rw [← List.append_assoc, ← List.append_assoc, ← List.append_assoc] at hbody
  have hwritable : (h.swallowing path).Writable := ⟨hw.1, hw.2, hw.3, hw.4⟩
  rw [Hunk.meaning, List.cons_append, gather, hbody]
  exact congrArg (fun g => (({} : HunkBody), g :: more)) ((h.swallowing path).toHunk_body hwritable)

/-- **The last hunk in front of the two lines takes them for its own.** -/
theorem gather_swallowLast (hs : ∀ h ∈ hunks, h.Sendable) (path : Text)
    (hrest : gather rest = ({}, more)) :
    (gather (hunks.flatMap Hunk.meaning
        ++ .removed (oldName path) :: .added (newName path) :: rest)).2
      = (Hunk.swallowLast path hunks).map Hunk.anonymous ++ more := by
  induction hunks with
  | nil =>
    show (gather (.removed _ :: .added _ :: rest)).2 = more
    rw [gather, gather, hrest]
  | cons h hunks ih =>
    rw [List.forall_mem_cons] at hs
    cases hunks with
    | nil =>
      rw [List.flatMap_singleton, gather_meaning_swallowing hs.1.writable hs.1.after path hrest]
      rfl
    | cons g hunks =>
      rw [List.flatMap_cons, List.append_assoc,
        gather_meaning hs.1.writable (Prod.ext rfl (ih hs.2)) hs.1.after]
      rfl

/-! ## Texts -/

/-- Lines without returns at their ends stay as they are where others follow. -/
theorem settle_fileLines (hpath : path.strip = path) (more : Bool) :
    Text.settle more (fileLines path) = fileLines path := by
  refine Text.settle_eq_self ?_
  have hlast (mark : Line) (hmark : mark.getLast? ≠ some '\r') :
      (mark ++ path).getLast? ≠ some '\r' := by
    have hreturn := Text.withoutReturn_eq_self_iff.1 (Text.withoutReturn_of_strip hpath)
    rw [List.getLast?_append]
    cases hend : path.getLast? with
    | none => exact hmark
    | some c => rwa [hend] at hreturn
  rw [fileLines, List.forall_mem_cons, List.forall_mem_singleton]
  exact ⟨hlast _ (by decide), hlast _ (by decide)⟩

theorem settle_flatMap_of_wellFormed (hs : ∀ h ∈ hunks, h.WellFormed) (more : Bool) :
    Text.settle more (hunks.flatMap Hunk.sentLines) = hunks.flatMap Hunk.sentLines := by
  induction hunks with
  | nil => rfl
  | cons h hunks ih =>
    rw [List.forall_mem_cons] at hs
    rw [List.flatMap_cons, Text.settle_append, ih hs.2, Hunk.settle_sentLines,
      Hunk.settled_eq_self hs.1.returnless]

/-- **A diff that makes a section**: its path stays on its line and neither begins
nor ends with blanks, and its hunks are well-formed. -/
structure MakesSection (d : Diff) : Prop where
  /-- The path stays on its line. -/
  feedless : '\n' ∉ d.filePath
  /-- It neither begins nor ends with blanks. -/
  stripped : d.filePath.strip = d.filePath
  /-- The hunks are well-formed. -/
  hunks : ∀ h ∈ d.hunks, h.WellFormed

namespace MakesSection

variable {d e : Diff}

theorem settle_sentLines (hd : d.MakesSection) (more : Bool) :
    Text.settle more d.sentLines = d.sentLines := by
  rw [sentLines, Text.settle_append, settle_fileLines hd.stripped,
    settle_flatMap_of_wellFormed hd.hunks]

theorem feed_notMem (hd : d.MakesSection) : ∀ l ∈ d.sentLines, '\n' ∉ l :=
  feed_notMem_of_mem_sentLines hd.feedless fun h hh => (hd.hunks h hh).toSendable

/-- **The lines of two sections**, one behind the other. -/
theorem textLines_append (hd : d.MakesSection) (he : e.MakesSection) :
    textLines (Text.ofLines d.sentLines ++ '\n' :: Text.ofLines e.sentLines)
      = d.sentLines ++ e.sentLines := by
  have hne (d : Diff) : d.sentLines ≠ [] := fileLines_append_ne_nil _ _
  rw [← Text.ofLines_append (hne d) (hne e), textLines_ofLines, Text.settle_append,
    hd.settle_sentLines, he.settle_sentLines]
  · exact List.append_ne_nil_of_left_ne_nil (hne d) _
  · exact List.forall_mem_append.2 ⟨hd.feed_notMem, he.feed_notMem⟩
  · exact List.forall_mem_append.2 ⟨ne_nil_of_mem_sentLines, ne_nil_of_mem_sentLines⟩

theorem mapM_read (hd : d.MakesSection) :
    d.sentLines.mapM DiffLine.read
      = .ok (.removed (oldName d.filePath) :: .added (newName d.filePath)
          :: d.hunks.flatMap Hunk.meaning) := by
  refine DiffLine.mapM_read_cons (DiffLine.read_cons_of_ne (by decide) _)
    (DiffLine.mapM_read_cons (DiffLine.read_cons_of_ne (by decide) _) ?_)
  exact Hunk.mapM_read_flatMap fun h hh => (hd.hunks h hh).writable

/-- **The hunks of two sections**: those of both, and the last one of the first
section has taken the name of the second file for its own. -/
theorem parseHunks_append (hd : d.MakesSection) (he : e.MakesSection) :
    parseHunks (Text.ofLines d.sentLines ++ '\n' :: Text.ofLines e.sentLines)
      = .ok ((Hunk.swallowLast e.filePath d.hunks ++ e.hunks).map Hunk.anonymous) := by
  have hrest : gather (e.hunks.flatMap Hunk.meaning) = ({}, e.hunks.map Hunk.anonymous) := by
    have hsettled := Hunk.gather_settleAll fun h hh => (he.hunks h hh).toSendable
    rwa [Hunk.settleAll_eq_self he.hunks] at hsettled
  have hhunks := gather_swallowLast (fun h hh => (hd.hunks h hh).toSendable) e.filePath hrest
  unfold parseHunks
  rw [hd.textLines_append he, DiffLine.mapM_read_append hd.mapM_read he.mapM_read, List.map_append,
    ← hhunks]
  -- in front of the first header no line is part of a hunk
  rfl

end MakesSection

/-! ## Generated diffs -/

variable {settings settings' : Settings} {old new path old' new' path' text text' : Text}

/-- **A text is a section**: it is that of a diff between two texts without returns,
under a path that stays on its line and neither begins nor ends with blanks. -/
structure IsSection (settings : Settings) (old new path text : Text) : Prop where
  /-- The old text has no returns. -/
  plainOld : '\r' ∉ old
  /-- Nor has the new one. -/
  plainNew : '\r' ∉ new
  /-- The path stays on its line. -/
  feedless : '\n' ∉ path
  /-- It neither begins nor ends with blanks. -/
  stripped : path.strip = path
  /-- The text is that of the diff. -/
  format : (generate settings old new path).format = .ok text

namespace IsSection

theorem makesSection (h : IsSection settings old new path text) :
    (generate settings old new path).MakesSection := by
  refine ⟨h.feedless, h.stripped, fun g hg => ?_⟩
  have hw := writable_of_format settings old new path h.format g hg
  refine ⟨sendable_of_mem_generate settings old new path hg hw, fun l hl hlast => ?_⟩
  have hreturn := List.mem_of_getLast? hlast
  rcases (mem_lines_of_mem_generate settings old new path hg).2 l hl with hl | hl
  · exact h.plainOld (Text.mem_of_mem_lines hl hreturn)
  · exact h.plainNew (Text.mem_of_mem_lines hl hreturn)

theorem text_eq (h : IsSection settings old new path text) :
    text = Text.ofLines (generate settings old new path).sentLines := by
  have hformat := format_of_writable (writable_of_format settings old new path h.format)
  rw [h.format] at hformat
  exact Except.ok.inj hformat

end IsSection

/-- **What is read from two sections**, one behind the other: the last hunk of the
first one removes and adds one line more, those that name the second file. So the
hunks of both sections are read exactly if the first one has none. -/
theorem parseHunks_append_sections (hfirst : IsSection settings old new path text)
    (hsecond : IsSection settings' old' new' path' text') :
    parseHunks (text ++ '\n' :: text')
        = .ok ((Hunk.swallowLast path' (generate settings old new path).hunks
            ++ (generate settings' old' new' path').hunks).map Hunk.anonymous)
      ∧ (parseHunks (text ++ '\n' :: text')
          = .ok (((generate settings old new path).hunks
            ++ (generate settings' old' new' path').hunks).map Hunk.anonymous)
        ↔ (generate settings old new path).hunks = []) := by
  have hparse := hfirst.makesSection.parseHunks_append hsecond.makesSection
  rw [← hfirst.text_eq, ← hsecond.text_eq] at hparse
  refine ⟨hparse, ?_⟩
  rw [hparse, Except.ok.injEq]
  exact Hunk.swallowLast_append_eq_iff _

/-- The text of a file in which one line becomes another one. -/
def firstSection : Text :=
  Text.ofLines (["--- a/f", "+++ b/f", "@@ -1,1 +1,1 @@", "-a", "+b"].map String.toList)

/-- The same of another file. -/
def secondSection : Text :=
  Text.ofLines (["--- a/g", "+++ b/g", "@@ -1,1 +1,1 @@", "-c", "+d"].map String.toList)

theorem isSection_firstSection : IsSection {} ['a'] ['b'] ['f'] firstSection :=
  ⟨by decide, by decide, by decide, by decide, by decide +kernel⟩

theorem isSection_secondSection : IsSection {} ['c'] ['d'] ['g'] secondSection :=
  ⟨by decide, by decide, by decide, by decide, by decide +kernel⟩

/-- Each of the sections has one hunk, so what is read are not the hunks of both. -/
theorem parseHunks_append_sections_pair :
    IsSection {} ['a'] ['b'] ['f'] firstSection ∧ IsSection {} ['c'] ['d'] ['g'] secondSection
      ∧ (generate {} ['a'] ['b'] ['f']).hunks.length = 1
      ∧ (parseHunks (firstSection ++ '\n' :: secondSection)
          = .ok ((Hunk.swallowLast ['g'] (generate {} ['a'] ['b'] ['f']).hunks
              ++ (generate {} ['c'] ['d'] ['g']).hunks).map Hunk.anonymous)
        ∧ (parseHunks (firstSection ++ '\n' :: secondSection)
            = .ok (((generate {} ['a'] ['b'] ['f']).hunks
              ++ (generate {} ['c'] ['d'] ['g']).hunks).map Hunk.anonymous)
          ↔ (generate {} ['a'] ['b'] ['f']).hunks = [])) := by
  have hlength : (generate {} ['a'] ['b'] ['f']).hunks.length = 1 := by decide +kernel
  exact ⟨isSection_firstSection, isSection_secondSection, hlength,
    parseHunks_append_sections isSection_firstSection isSection_secondSection⟩

/-- **The name of a file behind a hunk is read as a change**: with the line `a` the
line `-- a/g` is to be removed, and `++ b/g` is added behind `b`. -/
theorem not_parseHunks_append_pair :
    IsSection {} ['a'] ['b'] ['f'] firstSection ∧ IsSection {} ['c'] ['d'] ['g'] secondSection
      ∧ (generate {} ['a'] ['b'] ['f']).hunks ≠ [] ∧ (generate {} ['c'] ['d'] ['g']).hunks ≠ []
      ∧ parseHunks (firstSection ++ '\n' :: secondSection)
        ≠ .ok (((generate {} ['a'] ['b'] ['f']).hunks
            ++ (generate {} ['c'] ['d'] ['g']).hunks).map Hunk.anonymous) := by
  have hread : parseHunks (firstSection ++ '\n' :: secondSection)
      = .ok [{ oldCount := 1, newCount := 1, oldLines := [['a'], "-- a/g".toList]
               newLines := [['b'], "++ b/g".toList] },
             { oldCount := 1, newCount := 1, oldLines := [['c']], newLines := [['d']] }] := by
    decide +kernel
  refine ⟨isSection_firstSection, isSection_secondSection, by decide +kernel, by decide +kernel,
    ?_⟩
  rw [hread]
  decide +kernel

end Diff

end DriftPatch
