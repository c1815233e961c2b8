import DriftPatch.Proofs.Script.Hunks
import Mathlib.Data.List.Chain

/-!
# Generated hunks are an edit script

The hunks found between two texts say where they lie in both of them, and what
they say is so. Each names the lines that it removes and adds, where they are.
Two neighbours leave lines between them, the same in both texts; so do the first
hunk above itself and the last one below, or there may be none there. And each
header knows by how much the hunks above it have shifted the text
(`editScript_generateHunks`).

The context that is shown is part of the old text above the hunk, as much of it
as is asked for and is there. How much is asked for decides nothing else.
-/

namespace DriftPatch

open Script

/-- **What a generated hunk says** of the two texts. -/
structure Hunk.Describes (context : Int) (old new : List Line) (h : Hunk) : Prop where
  /-- It changes something. -/
  body : h.oldLines ≠ [] ∨ h.newLines ≠ []
  /-- Its counts are those of its lines. -/
  oldCount : h.oldCount = h.oldLines.length
  /-- So is the one of the new text. -/
  newCount : h.newCount = h.newLines.length
  /-- Lines are counted from 1. -/
  oldStart : 1 ≤ h.oldStart
  /-- So they are in the new text. -/
  newStart : 1 ≤ h.newStart
  /-- It does not reach over the end of the old text. -/
  oldTo : h.oldTo ≤ old.length
  /-- Nor over that of the new text. -/
  newTo : h.newTo ≤ new.length
  /-- The lines removed are those of the old text there. -/
  oldLines : h.oldLines = window old h.oldFrom h.oldCount.toNat
  /-- The lines added are those of the new text there. -/
  newLines : h.newLines = window new h.newFrom h.newCount.toNat
  /-- No context is shown behind it. -/
  contextAfter : h.contextAfter = []
  /-- The context shown before it is what the old text has there. -/
  contextBefore : h.contextBefore <:+ old.take h.oldFrom
  /-- It is as much as asked for, or all there is. -/
  contextLength : (h.contextBefore.length : Int) = min (max context 0) (h.oldStart - 1)

/-- **Two neighbours** leave lines between them, the same in both texts. -/
structure Hunk.Precedes (old new : List Line) (g h : Hunk) : Prop where
  /-- There is an old line between them. -/
  oldApart : g.oldTo < h.oldFrom
  /-- There is a new line between them. -/
  newApart : g.newTo < h.newFrom
  /-- The lines between them are the same. -/
  unchanged : window old g.oldTo (h.oldFrom - g.oldTo) = window new g.newTo (h.newFrom - g.newTo)

/-- **Hunks that say how one text becomes another**, and all that they leave as it
is. -/
structure EditScript (context : Int) (old new : List Line) (hunks : List Hunk) : Prop where
  /-- Each hunk describes a change. -/
  each : ∀ h ∈ hunks, h.Describes context old new
  /-- Between two neighbours nothing changes. -/
  neighbours : hunks.IsChain (Hunk.Precedes old new)
  /-- Above the first one nothing changes. -/
  above : ∀ h ∈ hunks.head?, old.take h.oldFrom = new.take h.newFrom
  /-- Below the last one nothing changes. -/
  below : ∀ h ∈ hunks.getLast?, old.drop h.oldTo = new.drop h.newTo
  /-- The numbers of its first line in both texts differ by what the hunks above
  have added and removed. -/
  drift : ∀ front h back, hunks = front ++ h :: back →
    h.newStart - h.oldStart = Hunk.drift front
  /-- There is no hunk if there is no change, and only then. -/
  eq_nil_iff : hunks = [] ↔ old = new

section Generated

variable {context : Int} {old new : List Line} {front back : List Hunk} {g h : Hunk}

theorem describes_of_generateHunks (hhunks : generateHunks context old new = front ++ h :: back) :
    h.Describes context old new := by
  obtain ⟨lead, removed, added, trail, hsplit, hold, hnew, -, rfl, -⟩ :=
    exists_split_of_generateHunks hhunks
  have hstart : (hunk context.toNat lead.before lead.after.length removed added).oldStart
      = lead.before.length + 1 := rfl
  refine ⟨?_, rfl, rfl, ?_, ?_, ?_, ?_, ?_, ?_, rfl, ?_, ?_⟩
  · rcases replace_of_between hsplit with ⟨hne, -⟩ | ⟨hne, -⟩
    · exact Or.inl hne
    · exact hne
  · rw [hstart]
    omega
  · show (1 : Int) ≤ lead.after.length + 1
    omega
  · rw [oldTo_hunk, hold, List.length_append, List.length_append]
    omega
  · rw [newTo_hunk, hnew, List.length_append, List.length_append]
    omega
  · rw [oldFrom_hunk, hold]
    exact (window_gap _ removed _).symm
  · rw [newFrom_hunk, hnew]
    exact (window_gap _ added _).symm
  · rw [oldFrom_hunk, hold, List.append_assoc, List.take_left]
    exact List.drop_suffix _ _
  · rw [hstart]
    show ((lead.before.drop (lead.before.length - context.toNat)).length : Int) = _
    rw [List.length_drop]
    omega

theorem precedes_of_generateHunks
    (hhunks : generateHunks context old new = front ++ g :: h :: back) :
    g.Precedes old new h := by
  obtain ⟨lead, removed, added, trail, hsplit, hold, hnew, -, rfl, hback⟩ :=
    exists_split_of_generateHunks hhunks
  obtain ⟨between, removed', added', trail, rfl, hnone, rfl, -⟩ :=
    exists_split_of_hunksAfter (show _ = [] ++ h :: back from hback)
  have hsame := before_eq_after_of_hunksAfter_eq_nil hnone
  -- The step behind a replacement keeps a line, so it is one of those between.
  have hpos : 0 < between.before.length := by
    rcases replace_of_between hsplit with ⟨-, -, line, rest, hkeep⟩ | ⟨-, hnil⟩
    · cases between with
      | nil => exact Step.noConfusion (List.cons.inj hkeep).1
      | cons step between =>
        obtain ⟨rfl, -⟩ := List.cons.inj hkeep
        exact Nat.succ_pos _
    · exact absurd hnil (List.append_ne_nil_of_right_ne_nil _ (List.cons_ne_nil _ _))
  rw [before_append, ← List.append_assoc] at hold
  rw [after_append, ← List.append_assoc] at hnew
  refine ⟨?_, ?_, ?_⟩
  · rw [oldTo_hunk, oldFrom_hunk, List.length_append, List.length_append]
    omega
  · rw [newTo_hunk, newFrom_hunk, ← hsame]
    omega
  · have hgap : (lead.before ++ removed ++ between.before).length
        - (lead.before ++ removed).length = between.before.length := by
      rw [List.length_append, Nat.add_sub_cancel_left]
    rw [oldTo_hunk, oldFrom_hunk, newTo_hunk, newFrom_hunk, Nat.add_sub_cancel_left, hold, hnew,
      ← List.length_append, ← List.length_append, hgap, window_gap, window_gap, hsame]

theorem take_eq_take_of_generateHunks (hhunks : generateHunks context old new = h :: back) :
    old.take h.oldFrom = new.take h.newFrom := by
  obtain ⟨lead, removed, added, trail, -, hold, hnew, hnone, rfl, -⟩ :=
    exists_split_of_generateHunks (show _ = [] ++ h :: back from hhunks)
  rw [oldFrom_hunk, newFrom_hunk, hold, hnew, List.append_assoc, List.append_assoc, List.take_left,
    List.take_left, before_eq_after_of_hunksAfter_eq_nil hnone]

theorem drop_eq_drop_of_generateHunks (hhunks : generateHunks context old new = front ++ [h]) :
    old.drop h.oldTo = new.drop h.newTo := by
  obtain ⟨lead, removed, added, trail, -, hold, hnew, -, rfl, hnone⟩ :=
    exists_split_of_generateHunks hhunks
  rw [oldTo_hunk, newTo_hunk, hold, hnew, ← List.length_append, ← List.length_append,
    List.drop_left, List.drop_left, before_eq_after_of_hunksAfter_eq_nil hnone]

theorem drift_of_generateHunks (hhunks : generateHunks context old new = front ++ h :: back) :
    h.newStart - h.oldStart = Hunk.drift front := by
  obtain ⟨lead, removed, added, trail, -, -, -, rfl, rfl, -⟩ :=
    exists_split_of_generateHunks hhunks
  rw [drift_hunksAfter]
  show (lead.after.length : Int) + 1 - (lead.before.length + 1) = _
  omega

theorem generateHunks_eq_nil_iff : generateHunks context old new = [] ↔ old = new := by
  constructor
  · intro hnone
    have hsame := before_eq_after_of_hunksAfter_eq_nil hnone
    rwa [before_between, after_between] at hsame
  · rintro rfl
    rw [generateHunks, between_self, hunksAfter_map_keep]

end Generated

/-- **Generated hunks are an edit script**, and it is the same one however much
context is shown. -/
theorem editScript_generateHunks (context : Int) (old new : List Line) :
    EditScript context old new (generateHunks context old new)
      ∧ ∀ context', (generateHunks context' old new).map Hunk.bare
        = (generateHunks context old new).map Hunk.bare := by
  refine ⟨⟨?_, ?_, ?_, ?_, ?_, generateHunks_eq_nil_iff⟩, fun context' => ?_⟩
  · intro h hmem
    obtain ⟨front, back, hhunks⟩ := List.append_of_mem hmem
    exact describes_of_generateHunks hhunks
  · exact List.isChain_iff_forall_rel_of_append_cons_cons.2
      fun g h front back hhunks => precedes_of_generateHunks hhunks
  · intro h hhead
    obtain ⟨back, hhunks⟩ := List.head?_eq_some_iff.1 hhead
    exact take_eq_take_of_generateHunks hhunks
  · intro h hlast
    obtain ⟨front, hhunks⟩ := List.getLast?_eq_some_iff.1 hlast
    exact drop_eq_drop_of_generateHunks hhunks
  · intro front h back hhunks
    exact drift_of_generateHunks hhunks
  · exact map_bare_hunksAfter _ _ _ _ _

end DriftPatch
