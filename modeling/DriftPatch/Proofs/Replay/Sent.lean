import DriftPatch.Proofs.Diff.Received
import DriftPatch.Proofs.Replay.Generated
import DriftPatch.Proofs.Script.Hunks

/-!
# Generated diffs that are sent as text

A generated diff is written as text, read from it, and applied to the text
it was made for. Every hunk still finds its lines by its position, since a
return at the end of a line is a blank that matching sets aside. But the
lines added are inserted as they arrived, and so the text that is made
lacks the carriage return at the end of each line that was added, the last
one excepted. It is the new text exactly if none of these lines has one
(`replaySent_generate_iff`).
-/

namespace DriftPatch

/-! ## What generated hunks are made of -/

/-- The lines of a hunk come from the two texts, and none of them is context after
the change. -/
theorem Script.mem_of_mem_hunksAfter {context : Nat} {passed : List Line} {reached : Nat}
    {script : Script} {h : Hunk} (hh : h ∈ script.hunksAfter context passed reached) :
    h.contextAfter = []
      ∧ ∀ l ∈ h.lines, l ∈ passed ++ script.before ∨ l ∈ script.after := by
  obtain ⟨front, back, hhunks⟩ := List.append_of_mem hh
  obtain ⟨lead, removed, added, trail, rfl, -, rfl, -⟩ := exists_split_of_hunksAfter hhunks
  refine ⟨rfl, fun l hl => ?_⟩
  rw [before_append, after_append, before, after]
  have hl : l ∈ (passed ++ lead.before).drop ((passed ++ lead.before).length - context)
      ++ removed ++ added ++ [] := hl
  rw [List.append_nil, List.mem_append, List.mem_append] at hl
  rcases hl with (hl | hl) | hl
  · refine Or.inl ?_
    rw [← List.append_assoc]
    exact List.mem_append_left _ (List.mem_of_mem_drop hl)
  · exact Or.inl (by simp [hl])
  · exact Or.inr (by simp [hl])

/-! ## What arrives of them -/

namespace Hunk

/-- What arrives stands at the same place as what was sent. -/
theorem alike_settleAll (hunks : List Hunk) :
    List.Forall₂ Alike hunks ((settleAll hunks).map anonymous) := by
  induction hunks with
  | nil => exact List.Forall₂.nil
  | cons h hunks ih =>
    refine List.Forall₂.cons ⟨rfl, ?_, ?_⟩ ih
    · exact sameStripped_settle _ h.oldLines
    · exact Text.length_settle _ h.newLines

/-- **The lines added, as they arrive**, where only the last hunk adds
lines and nothing comes behind them. -/
theorem addedLines_settleAll {hunks : List Hunk}
    (hafter : ∀ h ∈ hunks, h.contextAfter = [])
    (hlast : ∀ h ∈ hunks.dropLast, h.newLines = []) :
    addedLines ((settleAll hunks).map anonymous)
      = Text.settle false (addedLines hunks) := by
  induction hunks with
  | nil => rfl
  | cons h hunks ih =>
    rw [List.forall_mem_cons] at hafter
    rw [settleAll, List.map_cons, addedLines_cons, addedLines_cons]
    show Text.settle (!hunks.isEmpty || !h.contextAfter.isEmpty) h.newLines ++ _ = _
    cases hunks with
    | nil =>
      rw [hafter.1]
      show Text.settle false h.newLines ++ [] = Text.settle false (h.newLines ++ [])
      rw [List.append_nil, List.append_nil]
    | cons g hunks =>
      rw [List.dropLast_cons_cons, List.forall_mem_cons] at hlast
      rw [hlast.1, ih hafter.2 hlast.2]
      rfl

end Hunk

/-! ## Sending a diff -/

namespace Diff

/-- **What comes of sending a diff as text** and applying the hunks that
arrive. -/
def replaySent (d : Diff) (excerpt : Excerpt) (content : Text) :
    Except Numeral.Error Outcome := do
  let received ← parse (← d.format)
  return applyHunks excerpt content received.hunks

section Generated

variable (settings : Settings) (excerpt : Excerpt) (old new path : Text)

theorem newLines_eq_nil_of_mem_dropLast_generate :
    ∀ h ∈ (generate settings old new path).hunks.dropLast, h.newLines = [] :=
  Script.newLines_eq_nil_of_mem_dropLast _ [] 0

/-- A generated hunk shows lines of the two texts and no context after the
change. -/
theorem mem_lines_of_mem_generate {h : Hunk}
    (hh : h ∈ (generate settings old new path).hunks) :
    h.contextAfter = [] ∧ ∀ l ∈ h.lines, l ∈ old.lines ∨ l ∈ new.lines := by
  have hmem := Script.mem_of_mem_hunksAfter hh
  rwa [Script.before_between, Script.after_between, List.nil_append] at hmem

/-- A generated hunk can be sent if its header can be written. -/
theorem sendable_of_mem_generate {h : Hunk}
    (hh : h ∈ (generate settings old new path).hunks) (hw : h.Writable) :
    h.Sendable := by
  obtain ⟨hafter, hlines⟩ := mem_lines_of_mem_generate settings old new path hh
  refine ⟨hw, fun l hl => ?_, fun _ _ => hafter⟩
  rcases hlines l hl with hm | hm
  · exact Text.feed_notMem_of_mem_lines hm
  · exact Text.feed_notMem_of_mem_lines hm

/-- **What comes of a generated diff that is sent**: the new text, where
each line added but the last one has lost the return at its end. -/
theorem replaySent_of_writable (hpath : '\n' ∉ path)
    (hw : ∀ h ∈ (generate settings old new path).hunks, h.Writable) :
    ∃ kept, new.lines = kept ++ addedLines (generate settings old new path).hunks
      ∧ (generate settings old new path).replaySent excerpt old
        = .ok { content := Text.ofLines (kept ++ Text.settle false
                  (addedLines (generate settings old new path).hunks))
                strategies := List.replicate (generate settings old new path).hunks.length
                  .positional } := by
  have hs : ∀ h ∈ (generate settings old new path).hunks, h.Sendable :=
    fun h hh => sendable_of_mem_generate settings old new path hh (hw h hh)
  have hadded := Hunk.addedLines_settleAll
    (fun h hh => (mem_lines_of_mem_generate settings old new path hh).1)
    (newLines_eq_nil_of_mem_dropLast_generate settings old new path)
  have halike := Hunk.alike_settleAll (generate settings old new path).hunks
  have hfeed : ∀ l ∈ addedLines ((Hunk.settleAll (generate settings old new path).hunks).map
      Hunk.anonymous), '\n' ∉ l := by
    rw [hadded]
    exact Text.feed_notMem_of_mem_settle
      (feed_notMem_of_mem_addedLines_generate settings old new path)
  obtain ⟨kept, hnew, happlied⟩ :=
    applyHunks_of_alike settings excerpt old new path halike hfeed
  have hread := parseHunks_ofLines_sentLines hpath hs
  refine ⟨kept, hnew, ?_⟩
  unfold replaySent
  rw [format_of_writable hw]
  show (parse (Text.ofLines (generate settings old new path).sentLines) >>= _) = _
  unfold parse
  rw [hread]
  show Except.ok (applyHunks excerpt old _) = _
  rw [happlied, hadded, ← halike.length_eq]

/-- A generated diff is written only if each of its headers can be. -/
theorem writable_of_format {text : Text}
    (hformat : (generate settings old new path).format = .ok text) :
    ∀ h ∈ (generate settings old new path).hunks, h.Writable := by
  intro h hh
  obtain ⟨lines, hlines, -⟩ := exists_ok_of_bind hformat
  obtain ⟨_, hformatLines⟩ := exists_ok_of_mapM hlines h hh
  obtain ⟨line, hline, -⟩ := exists_ok_of_bind hformatLines
  exact Hunk.writable_of_headerLine hline (Script.nonneg_of_mem_hunksAfter hh)

/-- **When a generated diff survives being sent**: its headers can be
written, and no line added but the last one ends in a carriage return. -/
theorem replaySent_generate_iff (hpath : '\n' ∉ path) :
    (∃ o, (generate settings old new path).replaySent excerpt old = .ok o
        ∧ o.ok = true ∧ o.content = new)
      ↔ (∀ h ∈ (generate settings old new path).hunks, h.Writable)
        ∧ ∀ l ∈ (addedLines (generate settings old new path).hunks).dropLast,
          l.getLast? ≠ some '\r' := by
  rw [← Text.settle_false_eq_self_iff]
  constructor
  · rintro ⟨o, ho, -, hcontent⟩
    obtain ⟨text, hformat, -⟩ := exists_ok_of_bind ho
    have hw := writable_of_format settings old new path hformat
    obtain ⟨kept, hnew, hsent⟩ :=
      replaySent_of_writable settings excerpt old new path hpath hw
    rw [hsent, Except.ok.injEq] at ho
    rw [← ho] at hcontent
    have hmade : Text.ofLines (kept
          ++ Text.settle false (addedLines (generate settings old new path).hunks))
        = Text.ofLines (kept ++ addedLines (generate settings old new path).hunks) := by
      rw [← hnew, Text.ofLines_lines]
      exact hcontent
    refine ⟨hw, Text.settle_eq_self_of_ofLines_eq ?_ ?_ hmade⟩
    · rw [← hnew]
      exact Text.lines_ne_nil new
    · rw [← hnew]
      exact fun l hl => Text.feed_notMem_of_mem_lines hl
  · rintro ⟨hw, hsettle⟩
    obtain ⟨kept, hnew, hsent⟩ :=
      replaySent_of_writable settings excerpt old new path hpath hw
    rw [hsettle, ← hnew, Text.ofLines_lines] at hsent
    exact ⟨_, hsent, rfl, rfl⟩

end Generated

/-- Of lines that end in a carriage return one is removed, and one with
none at its end is put behind the others: the rest keep theirs. -/
theorem replaySent_generate_iff_removal :
    '\n' ∉ "f.txt".toList
      ∧ ∃ o, (generate {} "a\r\nb\r\nc\r\n".toList "a\r\nc\r\nd".toList
            "f.txt".toList).replaySent {} "a\r\nb\r\nc\r\n".toList = .ok o
          ∧ o.ok = true ∧ o.content = "a\r\nc\r\nd".toList := by
  refine ⟨by decide, (replaySent_generate_iff {} {} _ _ _ (by decide)).2 ⟨?_, ?_⟩⟩
  · decide +kernel
  · decide +kernel

/-- **A line added in the style of CRLF does not survive**: of `b`, a
carriage return and a line feed, the line feed alone arrives. -/
theorem not_replaySent_generate_crlf :
    IsNameable "f.txt".toList
      ∧ ¬∃ o, (generate {} "a".toList "b\r\nc".toList "f.txt".toList).replaySent {}
            "a".toList = .ok o
          ∧ o.content = "b\r\nc".toList := by
  refine ⟨by decide, ?_⟩
  rintro ⟨o, ho, hcontent⟩
  have hlost : (generate {} "a".toList "b\r\nc".toList "f.txt".toList).replaySent {}
      "a".toList = .ok { content := "b\nc".toList, strategies := [.positional] } := by
    decide +kernel
  rw [hlost, Except.ok.injEq] at ho
  rw [← ho] at hcontent
  exact absurd hcontent (by decide)

end Diff

end DriftPatch
