import DriftPatch.Proofs.Greedy
import DriftPatch.Proofs.Replay.Atomic

/-!
# The hunks of a script

Each hunk comes from one replacement of the script. The steps before it say what
was passed in both texts when it begins, and the hunks before it are theirs; the
same holds of what comes behind (`Script.exists_split_of_hunksAfter`). So a script
that is cut at a replacement is all there is to know about the hunk, and what the
headers say follows from the two texts that the parts of the script have.

Of the script that the greedy scan finds one thing more is known: what can stand
around a replacement (`Script.replace_of_between`). It adds lines only if it is
the last step, and if it is not, a line that is kept follows.
-/

namespace DriftPatch

open Script

/-! ## Where a hunk lies -/

namespace Hunk

/-- The index of the first old line that the hunk is about. -/
def oldFrom (h : Hunk) : Nat :=
  (h.oldStart - 1).toNat

/-- The index behind the last old line that the hunk is about. -/
def oldTo (h : Hunk) : Nat :=
  h.oldFrom + h.oldCount.toNat

/-- The index of the first new line that the hunk is about. -/
def newFrom (h : Hunk) : Nat :=
  (h.newStart - 1).toNat

/-- The index behind the last new line that the hunk is about. -/
def newTo (h : Hunk) : Nat :=
  h.newFrom + h.newCount.toNat

/-- The hunk without the context before it. -/
def bare (h : Hunk) : Hunk :=
  { h with contextBefore := [] }

end Hunk

namespace Script

variable {context : Nat} {passed removed added : List Line} {reached : Nat} {script : Script}

/-- The hunk of a replacement. -/
def hunk (context : Nat) (passed : List Line) (reached : Nat) (removed added : List Line) :
    Hunk where
  oldStart := passed.length + 1
  oldCount := removed.length
  newStart := reached + 1
  newCount := added.length
  oldLines := removed
  newLines := added
  contextBefore := passed.drop (passed.length - context)

@[simp] theorem oldFrom_hunk :
    (hunk context passed reached removed added).oldFrom = passed.length := by
  show ((passed.length : Int) + 1 - 1).toNat = passed.length
  omega

@[simp] theorem oldTo_hunk :
    (hunk context passed reached removed added).oldTo = passed.length + removed.length := by
  rw [Hunk.oldTo, oldFrom_hunk]
  rfl

@[simp] theorem newFrom_hunk :
    (hunk context passed reached removed added).newFrom = reached := by
  show ((reached : Int) + 1 - 1).toNat = reached
  omega

@[simp] theorem newTo_hunk :
    (hunk context passed reached removed added).newTo = reached + added.length := by
  rw [Hunk.newTo, newFrom_hunk]
  rfl

theorem hunksAfter_replace (rest : Script) :
    hunksAfter context passed reached (.replace removed added :: rest)
      = hunk context passed reached removed added
        :: hunksAfter context (passed ++ removed) (reached + added.length) rest :=
  rfl

/-! ## Scripts in parts -/

theorem before_append (s t : Script) : before (s ++ t) = before s ++ before t := by
  induction s with
  | nil => rfl
  | cons step s ih =>
    cases step with
    | keep line => rw [List.cons_append, before, before, ih, List.cons_append]
    | replace removed added => rw [List.cons_append, before, before, ih, List.append_assoc]

theorem after_append (s t : Script) : after (s ++ t) = after s ++ after t := by
  induction s with
  | nil => rfl
  | cons step s ih =>
    cases step with
    | keep line => rw [List.cons_append, after, after, ih, List.cons_append]
    | replace removed added => rw [List.cons_append, after, after, ih, List.append_assoc]

/-- **A hunk comes from one replacement**, and the hunks before it and behind it
come from the steps before and behind. -/
theorem exists_split_of_hunksAfter {front back : List Hunk} {h : Hunk}
    (hhunks : script.hunksAfter context passed reached = front ++ h :: back) :
    ∃ (lead : Script) (removed added : List Line) (trail : Script),
      script = lead ++ .replace removed added :: trail
      ∧ lead.hunksAfter context passed reached = front
      ∧ h = hunk context (passed ++ lead.before) (reached + lead.after.length) removed added
      ∧ trail.hunksAfter context (passed ++ lead.before ++ removed)
          (reached + lead.after.length + added.length) = back := by
  induction script generalizing passed reached front with
  | nil => exact absurd hhunks.symm (List.append_ne_nil_of_right_ne_nil _ (List.cons_ne_nil _ _))
  | cons step script ih =>
    cases step with
    | keep line =>
      rw [hunksAfter] at hhunks
      obtain ⟨lead, removed, added, trail, rfl, hfront, hh, hback⟩ := ih hhunks
      have hpassed : passed ++ [line] ++ lead.before = passed ++ before (.keep line :: lead) := by
        rw [before, List.append_assoc, List.singleton_append]
      have hreached : reached + 1 + lead.after.length
          = reached + (after (.keep line :: lead)).length := by
        rw [after, List.length_cons]
        omega
      rw [hpassed, hreached] at hh hback
      exact ⟨.keep line :: lead, removed, added, trail, rfl, hfront, hh, hback⟩
    | replace removed added =>
      rw [hunksAfter_replace] at hhunks
      cases front with
      | nil =>
        obtain ⟨rfl, hback⟩ := List.cons.inj hhunks
        refine ⟨[], removed, added, script, rfl, rfl, ?_, ?_⟩
        · rw [before, List.append_nil]
          rfl
        · rw [before, List.append_nil]
          exact hback
      | cons g front =>
        obtain ⟨rfl, hrest⟩ := List.cons.inj hhunks
        obtain ⟨lead, removed', added', trail, rfl, hfront, hh, hback⟩ := ih hrest
        rw [List.append_assoc passed removed lead.before, Nat.add_assoc reached,
          ← List.length_append] at hh hback
        refine ⟨.replace removed added :: lead, removed', added', trail, rfl, ?_, hh, hback⟩
        rw [hunksAfter_replace, hfront]

theorem nonneg_of_mem_hunksAfter {h : Hunk} (hh : h ∈ script.hunksAfter context passed reached) :
    0 ≤ h.oldStart ∧ 0 ≤ h.oldCount ∧ 0 ≤ h.newStart ∧ 0 ≤ h.newCount := by
  obtain ⟨front, back, hhunks⟩ := List.append_of_mem hh
  obtain ⟨lead, removed, added, trail, -, -, rfl, -⟩ := exists_split_of_hunksAfter hhunks
  unfold hunk
  dsimp only
  omega

/-- Without hunks the lines stay as they are. -/
theorem before_eq_after_of_hunksAfter_eq_nil
    (hnil : script.hunksAfter context passed reached = []) : script.before = script.after := by
  induction script generalizing passed reached with
  | nil => rfl
  | cons step script ih =>
    cases step with
    | keep line =>
      rw [hunksAfter] at hnil
      rw [before, after, ih hnil]
    | replace removed added =>
      rw [hunksAfter_replace] at hnil
      exact absurd hnil (List.cons_ne_nil _ _)

/-- The hunks lengthen the text as the script does. -/
theorem drift_hunksAfter (script : Script) (context : Nat) (passed : List Line) (reached : Nat) :
    Hunk.drift (script.hunksAfter context passed reached)
      = (script.after.length : Int) - script.before.length := by
  induction script generalizing passed reached with
  | nil => rfl
  | cons step script ih =>
    cases step with
    | keep line =>
      rw [hunksAfter, ih, before, after, List.length_cons, List.length_cons]
      omega
    | replace removed added =>
      rw [hunksAfter_replace, Hunk.drift, ih, before, after, List.length_append,
        List.length_append, Hunk.lineDelta]
      show (added.length : Int) - removed.length + _ = _
      omega

/-- How much context is shown changes nothing else. -/
theorem map_bare_hunksAfter (script : Script) (context context' : Nat) (passed : List Line)
    (reached : Nat) :
    (script.hunksAfter context passed reached).map Hunk.bare
      = (script.hunksAfter context' passed reached).map Hunk.bare := by
  induction script generalizing passed reached with
  | nil => rfl
  | cons step script ih =>
    cases step with
    | keep line =>
      rw [hunksAfter, hunksAfter]
      exact ih _ _
    | replace removed added =>
      rw [hunksAfter_replace, hunksAfter_replace, List.map_cons, List.map_cons, ih]
      rfl

/-! ## The greedy script -/

variable {old new : List Line}

theorem between_self (lines : List Line) : between lines lines = lines.map .keep := by
  induction lines with
  | nil => exact between_nil
  | cons line lines ih => rw [between_keep, ih, List.map_cons]

theorem hunksAfter_map_keep (lines : List Line) (context : Nat) (passed : List Line)
    (reached : Nat) : hunksAfter context passed reached (lines.map .keep) = [] := by
  induction lines generalizing passed reached with
  | nil => rfl
  | cons line lines ih =>
    rw [List.map_cons, hunksAfter]
    exact ih _ _

/-- **What stands behind a replacement** that the scan has found: a line that is
kept, if lines were removed and none were added, or else nothing. -/
theorem replace_of_between {lead trail : Script}
    (hsplit : between old new = lead ++ .replace removed added :: trail) :
    (removed ≠ [] ∧ added = [] ∧ ∃ line rest, trail = .keep line :: rest)
      ∨ ((removed ≠ [] ∨ added ≠ []) ∧ trail = []) := by
  induction old, new using scanInduction generalizing lead with
  | nil =>
    rw [between_nil] at hsplit
    exact absurd hsplit.symm (List.append_ne_nil_of_right_ne_nil _ (List.cons_ne_nil _ _))
  | keep line old new ih =>
    rw [between_keep] at hsplit
    cases lead with
    | nil => exact Step.noConfusion (List.cons.inj hsplit).1
    | cons step lead => exact ih (List.cons.inj hsplit).2
  | drop gone line old new hne hmem ih =>
    rw [between_drop hne hmem] at hsplit
    cases lead with
    | nil =>
      obtain ⟨hstep, htrail⟩ := List.cons.inj hsplit
      obtain ⟨rfl, rfl⟩ := Step.replace.inj hstep
      exact Or.inl ⟨hne, rfl, line, _, htrail.symm.trans (between_keep line old new)⟩
    | cons step lead => exact ih (List.cons.inj hsplit).2
  | last gone come hne hdiffer =>
    rw [between_last hne hdiffer] at hsplit
    cases lead with
    | nil =>
      obtain ⟨hstep, htrail⟩ := List.cons.inj hsplit
      obtain ⟨rfl, rfl⟩ := Step.replace.inj hstep
      exact Or.inr ⟨hne, htrail.symm⟩
    | cons step lead =>
      exact absurd (List.cons.inj hsplit).2.symm
        (List.append_ne_nil_of_right_ne_nil _ (List.cons_ne_nil _ _))

/-- **Only the last hunk adds lines.** -/
theorem newLines_eq_nil_of_mem_dropLast (context : Nat) {old new : List Line}
    (passed : List Line) (reached : Nat) :
    ∀ h ∈ ((between old new).hunksAfter context passed reached).dropLast, h.newLines = [] := by
  intro h hh
  generalize hall : (between old new).hunksAfter context passed reached = hunks at hh
  obtain ⟨front, back, hfront⟩ := List.append_of_mem hh
  have hne : hunks ≠ [] := fun hnil => List.ne_nil_of_mem hh (by rw [hnil]; rfl)
  rw [← List.dropLast_append_getLast hne, hfront, List.append_assoc, List.cons_append] at hall
  -- others follow, so lines are only removed
  obtain ⟨lead, removed, added, trail, hsplit, -, rfl, hback⟩ := exists_split_of_hunksAfter hall
  rcases replace_of_between hsplit with ⟨-, hnone, -⟩ | ⟨-, rfl⟩
  · exact hnone
  · exact absurd hback.symm (List.append_ne_nil_of_right_ne_nil _ (List.cons_ne_nil _ _))

end Script

/-- **Where a generated hunk comes from**, and what the two texts are made of
around it. -/
theorem exists_split_of_generateHunks {context : Int} {old new : List Line}
    {front back : List Hunk} {h : Hunk}
    (hhunks : generateHunks context old new = front ++ h :: back) :
    ∃ (lead : Script) (removed added : List Line) (trail : Script),
      between old new = lead ++ .replace removed added :: trail
      ∧ old = lead.before ++ removed ++ trail.before
      ∧ new = lead.after ++ added ++ trail.after
      ∧ lead.hunksAfter context.toNat [] 0 = front
      ∧ h = hunk context.toNat lead.before lead.after.length removed added
      ∧ trail.hunksAfter context.toNat (lead.before ++ removed)
          (lead.after.length + added.length) = back := by
  obtain ⟨lead, removed, added, trail, hsplit, hfront, hh, hback⟩ :=
    exists_split_of_hunksAfter hhunks
  have hold := before_between old new
  have hnew := after_between old new
  rw [hsplit, before_append, before, ← List.append_assoc] at hold
  rw [hsplit, after_append, after, ← List.append_assoc] at hnew
  rw [List.nil_append, Nat.zero_add] at hh hback
  exact ⟨lead, removed, added, trail, hsplit, hold.symm, hnew.symm, hfront, hh, hback⟩

end DriftPatch
