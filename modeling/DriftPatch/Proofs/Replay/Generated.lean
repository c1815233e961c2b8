import DriftPatch.Proofs.Greedy
import DriftPatch.Proofs.Replay.Rewrites
import Mathlib.Data.List.Forall2

/-!
# Generated hunks replay

The hunks found between two texts, applied to the first, make the second:
each stands at the very line its header names, so none needs to be looked
for (`applyHunks_generate`).

The same is shown of hunks that differ from the generated ones in what
does not decide their place (`Hunk.Alike`). Then the text made is the new
one with other lines where lines were added (`rewrites_between`). Nor need
the text be quite the one that the hunks were made for: its lines may
differ in the blanks at their ends, and there may be more of them behind
(`rewrites_between_drifted`).
-/

namespace DriftPatch

/-- **Hunks that stand at the same place**: they name the same line, the
lines they remove agree when stripped, and they add equally many. -/
structure Hunk.Alike (h received : Hunk) : Prop where
  /-- They name the same line. -/
  oldStart : received.oldStart = h.oldStart
  /-- They remove lines that agree when stripped. -/
  oldLines : sameStripped h.oldLines received.oldLines = true
  /-- They add equally many lines. -/
  newLines : received.newLines.length = h.newLines.length

theorem Hunk.Alike.refl (h : Hunk) : h.Alike h :=
  ⟨rfl, sameStripped_refl _, rfl⟩

/-- What removes or adds something still does when it is received
otherwise. -/
theorem Hunk.Alike.hasBody {h received : Hunk} (halike : h.Alike received)
    (hbody : h.oldLines ≠ [] ∨ h.newLines ≠ []) : received.hasBody = true := by
  have hold := length_eq_of_sameStripped halike.oldLines
  have hnew := halike.newLines
  refine Hunk.hasBody_iff.2 (hbody.imp (fun hne e => hne ?_) (fun hne e => hne ?_))
  · rw [e] at hold
    exact List.length_eq_zero_iff.1 hold
  · rw [e] at hnew
    exact List.length_eq_zero_iff.1 hnew.symm

/-- The lines that some hunks add, in order. -/
def addedLines (hunks : List Hunk) : List Line :=
  hunks.flatMap (·.newLines)

theorem addedLines_cons (h : Hunk) (hunks : List Hunk) :
    addedLines (h :: hunks) = h.newLines ++ addedLines hunks :=
  List.flatMap_cons

theorem feed_notMem_of_addedLines {hunks : List Hunk}
    (hadded : ∀ l ∈ addedLines hunks, '\n' ∉ l) :
    ∀ h ∈ hunks, ∀ l ∈ h.newLines, '\n' ∉ l :=
  fun _ hh l hl => hadded l (List.mem_flatMap_of_mem hh hl)

/-- **The hunks of the greedy scan find their lines** in a text that has drifted
from the one they were made for: line by line it is related to that text in a
way that keeps lines equal when stripped, and others may follow it. The new text
is the lines kept and, at its end, the lines added; what is made is the kept
lines of the drifted text, the lines received and the lines that follow. -/
theorem rewrites_between_drifted (context : Nat) {R : Line → Line → Prop}
    (hstrip : ∀ a b, R a b → a.strip = b.strip) {old new drifted : List Line}
    (tail passed : List Line) (reached : Nat) {received : List Hunk}
    (hdrift : List.Forall₂ R drifted old)
    (hsame : List.Forall₂ Hunk.Alike
      ((Script.between old new).hunksAfter context passed reached) received) :
    ∃ kept left, new = kept ++ addedLines
        ((Script.between old new).hunksAfter context passed reached)
      ∧ List.Forall₂ R left kept ∧ left.Sublist drifted
      ∧ Rewrites passed.length (drifted ++ tail) received
        (left ++ addedLines received ++ tail) := by
  have hstripped {ls ms : List Line} (h : List.Forall₂ R ls ms) : sameStripped ls ms = true := by
    rw [sameStripped_iff, ← List.forall₂_eq_eq_eq, List.forall₂_map_left_iff,
      List.forall₂_map_right_iff]
    exact h.imp hstrip
  induction old, new using Script.scanInduction generalizing drifted passed reached received with
  | nil =>
    rw [Script.between_nil, Script.hunksAfter] at hsame ⊢
    rw [List.forall₂_nil_left_iff.1 hsame, List.forall₂_nil_right_iff.1 hdrift]
    exact ⟨[], [], rfl, List.Forall₂.nil, List.Sublist.refl [], Rewrites.nil⟩
  | keep line old new ih =>
    rw [Script.between_keep, Script.hunksAfter] at hsame ⊢
    obtain ⟨line', drifted', hline, hrest, rfl⟩ := List.forall₂_cons_right_iff.1 hdrift
    obtain ⟨kept, left, hnew, hkept, hsub, hrewrites⟩ := ih _ _ hrest hsame
    rw [List.length_append, List.length_singleton] at hrewrites
    exact ⟨line :: kept, line' :: left, congrArg (line :: ·) hnew, hkept.cons hline,
      hsub.cons_cons line', hrewrites.keep line'⟩
  | drop removed line old new hne hmem ih =>
    rw [Script.between_drop hne hmem, Script.hunksAfter] at hsame ⊢
    obtain ⟨h', received', halike, htail, rfl⟩ := List.forall₂_cons_left_iff.1 hsame
    obtain ⟨region, rest, rfl, hregion, hrest⟩ : ∃ region rest, drifted = region ++ rest
        ∧ List.Forall₂ R region removed ∧ List.Forall₂ R rest (line :: old) :=
      ⟨_, _, (List.take_append_drop _ _).symm, List.forall₂_take_append _ _ _ hdrift,
        List.forall₂_drop_append _ _ _ hdrift⟩
    obtain ⟨kept, left, hnew, hkept, hsub, hrewrites⟩ := ih _ _ hrest htail
    have hnone : h'.newLines = [] := List.length_eq_zero_iff.1 halike.newLines
    have hmore : rest ++ tail ≠ [] := by
      obtain ⟨line', rest', -, -, rfl⟩ := List.forall₂_cons_right_iff.1 hrest
      exact List.cons_ne_nil _ _
    rw [List.length_append, ← hregion.length_eq] at hrewrites
    have hhead := Rewrites.head (halike.hasBody (Or.inl hne)) halike.oldStart
      (sameStripped_trans (hstripped hregion) halike.oldLines) (fun _ => hmore) hrewrites
    rw [← List.append_assoc, hnone, List.nil_append] at hhead
    rw [addedLines_cons, addedLines_cons, hnone, List.nil_append]
    refine ⟨kept, left, hnew, hkept, hsub.trans (List.sublist_append_right _ _), hhead⟩
  | last removed added hne hdiffer =>
    rw [Script.between_last hne hdiffer, Script.hunksAfter, Script.hunksAfter] at hsame ⊢
    obtain ⟨h', received', halike, htail, rfl⟩ := List.forall₂_cons_left_iff.1 hsame
    rw [List.forall₂_nil_left_iff.1 htail]
    have hhead : Rewrites passed.length (drifted ++ tail) [h'] (h'.newLines ++ tail) :=
      Rewrites.head (halike.hasBody hne) halike.oldStart
        (sameStripped_trans (hstripped hdrift) halike.oldLines)
        (fun hnone => absurd rfl hnone) Rewrites.nil
    refine ⟨[], [], (List.append_nil added).symm, List.Forall₂.nil, List.nil_sublist _, ?_⟩
    rw [addedLines_cons, List.nil_append]
    show Rewrites passed.length (drifted ++ tail) [h'] (h'.newLines ++ [] ++ tail)
    rw [List.append_nil]
    exact hhead

/-- The hunks of the greedy scan find their lines in the text they were made
for. -/
theorem rewrites_between (context : Nat) {old new : List Line} (passed : List Line)
    (reached : Nat) {received : List Hunk}
    (hsame : List.Forall₂ Hunk.Alike
      ((Script.between old new).hunksAfter context passed reached) received) :
    ∃ kept, new = kept ++ addedLines
        ((Script.between old new).hunksAfter context passed reached)
      ∧ Rewrites passed.length old received (kept ++ addedLines received) := by
  have hdrift : List.Forall₂ (· = ·) old old := List.forall₂_same.2 fun _ _ => rfl
  obtain ⟨kept, left, hnew, hkept, -, hrewrites⟩ :=
    rewrites_between_drifted context (fun _ _ e => congrArg Text.strip e) [] passed reached
      hdrift hsame
  rw [List.forall₂_eq_eq_eq] at hkept
  rw [List.append_nil, List.append_nil, hkept] at hrewrites
  exact ⟨kept, hnew, hrewrites⟩

namespace Diff

variable (settings : Settings) (excerpt : Excerpt) (old new path : Text)

/-- The hunks found between two texts find their lines in the first of
them. -/
theorem rewrites_generate {received : List Hunk}
    (hsame : List.Forall₂ Hunk.Alike (generate settings old new path).hunks received) :
    ∃ kept, new.lines = kept ++ addedLines (generate settings old new path).hunks
      ∧ Rewrites 0 old.lines received (kept ++ addedLines received) :=
  rewrites_between _ [] 0 hsame

/-- The lines added are lines of the new text. -/
theorem feed_notMem_of_mem_addedLines_generate :
    ∀ l ∈ addedLines (generate settings old new path).hunks, '\n' ∉ l := by
  obtain ⟨kept, hnew, -⟩ := rewrites_generate settings old new path
    (List.forall₂_same.2 fun h _ => Hunk.Alike.refl h)
  intro l hl
  refine Text.feed_notMem_of_mem_lines (t := new) ?_
  rw [hnew]
  exact List.mem_append_right kept hl

/-- **What comes of hunks that stand where the generated ones do**: the new
text with the lines received in place of the lines added. -/
theorem applyHunks_of_alike {received : List Hunk}
    (hsame : List.Forall₂ Hunk.Alike (generate settings old new path).hunks received)
    (hfeed : ∀ l ∈ addedLines received, '\n' ∉ l) :
    ∃ kept, new.lines = kept ++ addedLines (generate settings old new path).hunks
      ∧ applyHunks excerpt old received
        = { content := Text.ofLines (kept ++ addedLines received)
            strategies := List.replicate received.length .positional } := by
  obtain ⟨kept, hnew, hrewrites⟩ := rewrites_generate settings old new path hsame
  exact ⟨kept, hnew, applyHunks_of_rewrites excerpt hrewrites (feed_notMem_of_addedLines hfeed)⟩

/-- The hunks found between two texts make the second out of the first. -/
theorem content_applyHunks_hunks :
    (applyHunks excerpt old (generate settings old new path).hunks).failure = none
      ∧ (applyHunks excerpt old (generate settings old new path).hunks).content = new := by
  obtain ⟨kept, hnew, happlied⟩ := applyHunks_of_alike settings excerpt old new path
    (List.forall₂_same.2 fun h _ => Hunk.Alike.refl h)
    (feed_notMem_of_mem_addedLines_generate settings old new path)
  rw [happlied, ← hnew, Text.ofLines_lines]
  exact ⟨rfl, rfl⟩

/-- **The generated diff turns the old text into the new one**, character
for character, and every hunk is placed by its position. -/
theorem applyHunks_generate :
    applyHunks excerpt old (generate settings old new path).hunks
      = { content := new
          strategies := List.replicate (generate settings old new path).hunks.length
            .positional } := by
  obtain ⟨kept, hnew, hrewrites⟩ := rewrites_generate settings old new path
    (List.forall₂_same.2 fun h _ => Hunk.Alike.refl h)
  have hadded := feed_notMem_of_addedLines
    (feed_notMem_of_mem_addedLines_generate settings old new path)
  rw [applyHunks_of_rewrites excerpt hrewrites hadded, ← hnew, Text.ofLines_lines]

end Diff

end DriftPatch
