import DriftPatch.Proofs.Script.Hunks
import Mathlib.Order.Bounds.Basic

/-!
# What the greedy scan keeps

The scan looks for the new lines one by one among the old ones that are left.
Found, a line is kept, and the old lines before it are gone. The first new line
that is not found ends it: the rest of the old lines goes and the rest of the new
ones comes. So the lines kept are a front of the new text that can be picked from
the old one in order, and since each line is picked as early as can be, no longer
front can (`Script.isGreatest_kept`).

All numbers follow from this one (`keepsFront_generateHunks`). In particular, a
diff adds nothing exactly if the new text can be picked from the old one.
-/

namespace DriftPatch

/-- Hunks lengthen a text by the lines they add and shorten it by those they
remove. -/
theorem Hunk.drift_eq (hunks : List Hunk) :
    Hunk.drift hunks = ((hunks.flatMap (·.newLines)).length : Int)
      - (hunks.flatMap (·.oldLines)).length := by
  induction hunks with
  | nil => rfl
  | cons h hunks ih =>
    rw [Hunk.drift, ih, Hunk.lineDelta, List.flatMap_cons, List.flatMap_cons, List.length_append,
      List.length_append]
    omega

namespace Script

/-- The lines that a script keeps. -/
def kept : Script → List Line
  | [] => []
  | .keep line :: rest => line :: kept rest
  | .replace _ _ :: rest => kept rest

variable {script : Script} {old new front : List Line}

theorem kept_sublist_before (script : Script) : script.kept.Sublist script.before := by
  induction script with
  | nil => exact List.Sublist.refl []
  | cons step script ih =>
    cases step with
    | keep line => exact ih.cons_cons line
    | replace removed added => exact ih.trans (List.sublist_append_right removed _)

/-! ## What is not kept -/

/-- An old line is kept or removed by a hunk. -/
theorem length_oldLines_hunksAfter (script : Script) (context : Nat) (passed : List Line)
    (reached : Nat) :
    ((script.hunksAfter context passed reached).flatMap (·.oldLines)).length + script.kept.length
      = script.before.length := by
  induction script generalizing passed reached with
  | nil => rfl
  | cons step script ih =>
    cases step with
    | keep line =>
      rw [hunksAfter, kept, before, List.length_cons, List.length_cons, ← ih, Nat.add_assoc]
    | replace removed added =>
      rw [hunksAfter_replace, kept, before, List.flatMap_cons, List.length_append,
        List.length_append, ← ih, ← Nat.add_assoc]
      rfl

/-- A new line is kept or added by a hunk. -/
theorem length_newLines_hunksAfter (script : Script) (context : Nat) (passed : List Line)
    (reached : Nat) :
    ((script.hunksAfter context passed reached).flatMap (·.newLines)).length + script.kept.length
      = script.after.length := by
  have hdrift := drift_hunksAfter script context passed reached
  have hold := length_oldLines_hunksAfter script context passed reached
  rw [Hunk.drift_eq] at hdrift
  omega

/-! ## The greedy script -/

/-- The lines kept are a front of the new ones. -/
theorem kept_prefix_between (old new : List Line) : (between old new).kept <+: new := by
  induction old, new using scanInduction with
  | nil =>
    rw [between_nil]
    exact List.prefix_rfl
  | keep line old new ih =>
    rw [between_keep, kept]
    exact (List.prefix_cons_inj line).2 ih
  | drop removed line old new hne hmem ih =>
    rw [between_drop hne hmem, kept]
    exact ih
  | last removed added hne hdiffer =>
    rw [between_last hne hdiffer]
    exact List.nil_prefix

/-- Lines that can be picked from others, where the first of them comes behind a
part of these only, can be picked behind that part. -/
theorem sublist_of_sublist_append {line : Line} {removed rest picked : List Line}
    (hmem : line ∉ removed) (hpicked : (line :: picked).Sublist (removed ++ rest)) :
    (line :: picked).Sublist rest := by
  induction removed with
  | nil => exact hpicked
  | cons a removed ih =>
    rw [List.mem_cons, not_or] at hmem
    rcases List.sublist_cons_iff.1 hpicked with hbehind | ⟨r, heq, -⟩
    · exact ih hmem.2 hbehind
    · exact absurd (List.cons.inj heq).1 hmem.1

/-- **No longer front of the new lines can be picked from the old ones.** -/
theorem length_le_length_kept (hfront : front <+: new) (hpicked : front.Sublist old) :
    front.length ≤ (between old new).kept.length := by
  induction old, new using scanInduction generalizing front with
  | nil =>
    rw [between_nil]
    exact hpicked.length_le
  | keep line old new ih =>
    rw [between_keep, kept, List.length_cons]
    rcases List.prefix_cons_iff.1 hfront with rfl | ⟨front, rfl, hrest⟩
    · exact Nat.zero_le _
    · exact Nat.succ_le_succ (ih hrest (List.cons_sublist_cons.1 hpicked))
  | drop removed line old new hne hmem ih =>
    rw [between_drop hne hmem, kept]
    rcases List.prefix_cons_iff.1 hfront with rfl | ⟨rest, rfl, -⟩
    · exact Nat.zero_le _
    · exact ih hfront (sublist_of_sublist_append hmem hpicked)
  | last removed added hne hdiffer =>
    -- the first line of a front would be one of the old lines
    cases front with
    | nil => exact Nat.zero_le _
    | cons line front =>
      obtain ⟨rest, rfl⟩ := hfront
      exact absurd rfl (hdiffer line (hpicked.subset (List.mem_cons_self ..)))

/-- **The scan keeps the longest front** of the new lines that can be picked from
the old ones. -/
theorem isGreatest_kept (old new : List Line) :
    IsGreatest {k | k ≤ new.length ∧ (new.take k).Sublist old} (between old new).kept.length := by
  have hfront := kept_prefix_between old new
  have hpicked := kept_sublist_before (between old new)
  rw [before_between] at hpicked
  refine ⟨⟨hfront.length_le, ?_⟩, ?_⟩
  · rwa [← List.prefix_iff_eq_take.1 hfront]
  · rintro k ⟨hk, hpicked⟩
    have hle := length_le_length_kept (List.take_prefix k new) hpicked
    rwa [List.length_take_of_le hk] at hle

end Script

open Script

/-- **What hunks change in all**, if `kept` lines are kept. -/
structure KeepsFront (old new : List Line) (hunks : List Hunk) (kept : Nat) : Prop where
  /-- It is the length of the longest front of the new lines that can be picked
  from the old ones in order. -/
  greatest : IsGreatest {k | k ≤ new.length ∧ (new.take k).Sublist old} kept
  /-- All other old lines are removed, and all other new lines are added. -/
  stats : ({ hunks } : Diff).stats
    = { hunks := hunks.length, additions := new.length - kept, deletions := old.length - kept }
  /-- No hunk but the last adds lines. -/
  dropLast : ∀ h ∈ hunks.dropLast, h.newLines = []
  /-- A hunk that adds lines is the last one and reaches the end of both texts. -/
  last : ∀ front h back, hunks = front ++ h :: back → h.newLines ≠ [] →
    back = [] ∧ h.oldTo = old.length ∧ h.newTo = new.length
  /-- Nothing is added exactly if the new lines can be picked from the old ones. -/
  additions_eq_zero_iff : ({ hunks } : Diff).additions = 0 ↔ new.Sublist old

theorem last_of_generateHunks {context : Int} {old new : List Line} {front back : List Hunk}
    {h : Hunk} (hhunks : generateHunks context old new = front ++ h :: back)
    (hadds : h.newLines ≠ []) :
    back = [] ∧ h.oldTo = old.length ∧ h.newTo = new.length := by
  obtain ⟨lead, removed, added, trail, hsplit, hold, hnew, -, rfl, hback⟩ :=
    exists_split_of_generateHunks hhunks
  rcases replace_of_between hsplit with ⟨-, hnil, -⟩ | ⟨-, rfl⟩
  · exact absurd hnil hadds
  · rw [before, List.append_nil] at hold
    rw [after, List.append_nil] at hnew
    rw [oldTo_hunk, newTo_hunk, hold, hnew, List.length_append, List.length_append]
    exact ⟨hback.symm, rfl, rfl⟩

/-- **Generated hunks keep the longest front** of the new lines that can be
picked from the old ones. -/
theorem keepsFront_generateHunks (context : Int) (old new : List Line) :
    ∃ kept, KeepsFront old new (generateHunks context old new) kept := by
  have hold := length_oldLines_hunksAfter (between old new) context.toNat [] 0
  have hnew := length_newLines_hunksAfter (between old new) context.toNat [] 0
  rw [before_between] at hold
  rw [after_between] at hnew
  refine ⟨(between old new).kept.length, isGreatest_kept old new, ?_,
    newLines_eq_nil_of_mem_dropLast _ _ _, fun _ _ _ => last_of_generateHunks, ?_⟩
  · unfold Diff.stats Diff.additions Diff.deletions generateHunks
    dsimp only
    congr 1
    · omega
    · omega
  · have hgreatest := isGreatest_kept old new
    show ((generateHunks context old new).flatMap (·.newLines)).length = 0 ↔ _
    constructor
    · intro hzero
      have hall : (between old new).kept.length = new.length := by
        rw [← hnew, ← generateHunks, hzero, Nat.zero_add]
      have hpicked := hgreatest.1.2
      rwa [hall, List.take_length] at hpicked
    · intro hpicked
      have hle : new.length ≤ (between old new).kept.length :=
        length_le_length_kept List.prefix_rfl hpicked
      unfold generateHunks
      omega

/-- A line that is put above all others is not found, and then none of the others
is looked for. -/
example :
    ({ hunks := generateHunks 3 [['a'], ['b']] [['x'], ['a'], ['b']] } : Diff).stats
      = { hunks := 1, additions := 3, deletions := 2 } := by
  decide +kernel

end DriftPatch
