import DriftPatch.Proofs.Placement.Placed
import DriftPatch.Proofs.Replay.Rewrites
import Mathlib.Data.List.Induction

/-!
# All hunks or none

A run goes through its hunks in order and stops at the first one that
cannot be placed. What it makes of a list `front ++ back` is therefore what
it makes of `front` and, unless it stopped there, what it makes of `back`
from where `front` has led it (`runHunks_append`). A run that stops does so
at one hunk, behind a front that was placed completely
(`exists_stop_of_not_ok`).

For the application of hunks this means that there are two outcomes and no
third one (`applyHunks_allPlaced_or_stopsAt`). Either every hunk was placed,
and so was every hunk of every front of the list. Or one hunk is the first
that cannot be placed: the text is the one from the start, the report is
about this hunk, and nothing behind it was looked at.
-/

namespace DriftPatch

/-- By how many lines some hunks lengthen a text, taken together. -/
def Hunk.drift : List Hunk → Int
  | [] => 0
  | h :: rest => h.lineDelta + drift rest

/-- One outcome and the one that follows it, as the outcome of both. -/
def Outcome.followedBy (first later : Outcome) : Outcome :=
  { later with strategies := first.strategies ++ later.strategies }

variable {excerpt : Excerpt} {index : Nat} {offset : Int} {content : Text}

/-! ## Runs -/

/-- A run, one hunk taken off it. -/
theorem runHunks_cons (h : Hunk) (rest : List Hunk) :
    runHunks excerpt index offset content (h :: rest)
      = if (h.applyTo excerpt offset content).ok then
          (h.applyTo excerpt offset content).followedBy
            (runHunks excerpt (index + 1) (offset + h.lineDelta)
              (h.applyTo excerpt offset content).content rest)
        else
          { content
            failure := some { h.failure excerpt with hunkIndex := some index } } := by
  rw [runHunks]
  split
  · next hfail =>
    have hok : (h.applyTo excerpt offset content).ok = false := by
      rw [Outcome.ok, hfail]
      rfl
    have e := Hunk.applyTo_of_not_ok hok
    rw [e] at hfail
    rw [hok, e, ← Option.some.inj hfail]
    rfl
  · next hfail =>
    have hok : (h.applyTo excerpt offset content).ok = true := by
      rw [Outcome.ok, hfail]
      rfl
    rw [if_pos hok]
    rfl

/-- **A run through two lists of hunks.** The second one goes on from where
the first one has led, unless the run stopped before. The induction follows
the first list; its hunks move on the number, the offset and the text. -/
theorem runHunks_append (excerpt : Excerpt) (index : Nat) (offset : Int) (content : Text)
    (front back : List Hunk) :
    runHunks excerpt index offset content (front ++ back)
      = if (runHunks excerpt index offset content front).ok then
          (runHunks excerpt index offset content front).followedBy
            (runHunks excerpt (index + front.length) (offset + Hunk.drift front)
              (runHunks excerpt index offset content front).content back)
        else runHunks excerpt index offset content front := by
  induction front generalizing index offset content with
  | nil =>
    rw [List.nil_append, List.length_nil, Nat.add_zero]
    show _ = Outcome.followedBy { content } (runHunks excerpt index (offset + 0) content back)
    rw [Int.add_zero]
    rfl
  | cons h front ih =>
    rw [List.cons_append, runHunks_cons, runHunks_cons]
    by_cases hok : (h.applyTo excerpt offset content).ok = true
    · have hindex : index + (h :: front).length = index + 1 + front.length := by
        rw [List.length_cons]
        omega
      have hoffset : offset + Hunk.drift (h :: front)
          = offset + h.lineDelta + Hunk.drift front := by
        rw [Hunk.drift, Int.add_assoc]
      rw [if_pos hok, if_pos hok, ih, hindex, hoffset]
      generalize runHunks excerpt (index + 1) (offset + h.lineDelta) _ front = later
      show Outcome.followedBy _ _ = if later.ok = true then _ else _
      split
      · unfold Outcome.followedBy
        dsimp only
        rw [List.append_assoc]
      · rfl
    · rw [if_neg hok, if_neg hok]
      rfl

/-- A run that was not stopped locates every hunk with a body once. -/
theorem length_strategies_runHunks {hunks : List Hunk}
    (hok : (runHunks excerpt index offset content hunks).ok = true) :
    (runHunks excerpt index offset content hunks).strategies.length
      = hunks.countP Hunk.hasBody := by
  induction hunks generalizing index offset content with
  | nil => rfl
  | cons h hunks ih =>
    rw [runHunks_cons] at hok ⊢
    by_cases hfirst : (h.applyTo excerpt offset content).ok = true
    · rw [if_pos hfirst] at hok ⊢
      show ((h.applyTo excerpt offset content).strategies ++ _).length = _
      rw [List.length_append, Hunk.length_strategies_of_ok hfirst, ih hok, List.countP_cons,
        Nat.add_comm]
    · rw [if_neg hfirst] at hok
      exact absurd hok Bool.false_ne_true

/-- **A run that stops does so at one hunk**, and those in front of it were
all placed. -/
theorem exists_stop_of_not_ok {hunks : List Hunk}
    (hok : (runHunks excerpt index offset content hunks).ok = false) :
    ∃ front h back, hunks = front ++ h :: back
      ∧ (runHunks excerpt index offset content front).ok = true
      ∧ (h.applyTo excerpt (offset + Hunk.drift front)
          (runHunks excerpt index offset content front).content).ok = false := by
  induction hunks using List.reverseRecOn with
  | nil => exact absurd hok Bool.true_eq_false.mp
  | append_singleton front h ih =>
    by_cases hfront : (runHunks excerpt index offset content front).ok = true
    · refine ⟨front, h, [], rfl, hfront, ?_⟩
      rw [runHunks_append, if_pos hfront, runHunks_cons] at hok
      split at hok
      · exact absurd hok Bool.true_eq_false.mp
      · next hstop => exact Bool.eq_false_iff.2 hstop
    · rw [Bool.not_eq_true] at hfront
      obtain ⟨before, g, back, e, hbefore, hstop⟩ := ih hfront
      refine ⟨before, g, back ++ [h], ?_, hbefore, hstop⟩
      rw [e, List.append_assoc]
      rfl

/-- The run up to a hunk that cannot be placed, and on: what stands behind
that hunk is never looked at. -/
theorem runHunks_of_stop {front : List Hunk} {h : Hunk}
    (hfront : (runHunks excerpt index offset content front).ok = true)
    (hstop : (h.applyTo excerpt (offset + Hunk.drift front)
      (runHunks excerpt index offset content front).content).ok = false) (back : List Hunk) :
    runHunks excerpt index offset content (front ++ h :: back)
      = { runHunks excerpt index offset content front with
          failure := some
            { h.failure excerpt with hunkIndex := some (index + front.length) } } := by
  rw [runHunks_append, if_pos hfront, runHunks_cons, if_neg (Bool.eq_false_iff.1 hstop)]
  unfold Outcome.followedBy
  dsimp only
  rw [List.append_nil]

/-! ## All or none -/

theorem applyHunks_of_ok {hunks : List Hunk}
    (hok : (runHunks excerpt 0 0 content hunks).ok = true) :
    applyHunks excerpt content hunks = runHunks excerpt 0 0 content hunks :=
  if_pos hok

/-- Hunks of which one cannot be placed, applied to a text. -/
theorem applyHunks_of_stop {front : List Hunk} {h : Hunk}
    (hfront : (runHunks excerpt 0 0 content front).ok = true)
    (hstop : (h.applyTo excerpt (Hunk.drift front)
      (runHunks excerpt 0 0 content front).content).ok = false) (back : List Hunk) :
    applyHunks excerpt content (front ++ h :: back)
      = { content
          strategies := (runHunks excerpt 0 0 content front).strategies
          failure := some { h.failure excerpt with hunkIndex := some front.length } } := by
  have hrun : runHunks excerpt 0 0 content (front ++ h :: back)
      = { runHunks excerpt 0 0 content front with
          failure := some { h.failure excerpt with hunkIndex := some (0 + front.length) } } :=
    runHunks_of_stop hfront (by rwa [Int.zero_add]) back
  rw [Nat.zero_add] at hrun
  rw [applyHunks, hrun]
  rfl

/-- Every front of hunks that were all placed is placed. -/
theorem ok_runHunks_of_append {front back : List Hunk}
    (hok : (runHunks excerpt index offset content (front ++ back)).ok = true) :
    (runHunks excerpt index offset content front).ok = true := by
  rw [runHunks_append] at hok
  split at hok
  · next hfront => exact hfront
  · exact hok

/-- **Every hunk was placed.** -/
structure AllPlaced (excerpt : Excerpt) (content : Text) (hunks : List Hunk) : Prop where
  /-- There is no failure. -/
  ok : (applyHunks excerpt content hunks).ok = true
  /-- Each hunk that removes or adds something was located once. -/
  strategies : (applyHunks excerpt content hunks).strategies.length
    = hunks.countP fun h => decide (h.oldLines ≠ [] ∨ h.newLines ≠ [])
  /-- So was every front of the hunks. -/
  fronts : ∀ k, (applyHunks excerpt content (hunks.take k)).ok = true

/-- **Hunk number `k` is the first that cannot be placed.** -/
structure StopsAt (excerpt : Excerpt) (content : Text) (hunks : List Hunk) (k : Nat) (h : Hunk)
    (failure : Failure) : Prop where
  /-- It is this hunk. -/
  hunk : hunks[k]? = some h
  /-- A failure is reported. -/
  reported : (applyHunks excerpt content hunks).failure = some failure
  /-- The report has its number. -/
  hunkIndex : failure.hunkIndex = some k
  /-- The report has its name. -/
  hunkId : failure.hunkId = h.id
  /-- The text is the one from the start. -/
  untouched : (applyHunks excerpt content hunks).content = content
  /-- The hunks in front of it are placed. -/
  before : (applyHunks excerpt content (hunks.take k)).ok = true
  /-- How they are located is kept. -/
  strategies : (applyHunks excerpt content (hunks.take k)).strategies
    = (applyHunks excerpt content hunks).strategies
  /-- With it, the hunks in front of it fail in the same way. -/
  upTo : (applyHunks excerpt content (hunks.take (k + 1))).failure = some failure
  /-- Whatever hunks stand behind it, all is the same. -/
  behind : ∀ others, applyHunks excerpt content (hunks.take (k + 1) ++ others)
    = applyHunks excerpt content hunks

theorem stopsAt_of_stop {front : List Hunk} {h : Hunk}
    (hfront : (runHunks excerpt 0 0 content front).ok = true)
    (hstop : (h.applyTo excerpt (Hunk.drift front)
      (runHunks excerpt 0 0 content front).content).ok = false) (back : List Hunk) :
    StopsAt excerpt content (front ++ h :: back) front.length h
      { h.failure excerpt with hunkIndex := some front.length } := by
  have hall := applyHunks_of_stop hfront hstop
  have htake : (front ++ h :: back).take front.length = front := List.take_left
  have htake' : (front ++ h :: back).take (front.length + 1) = front ++ [h] := by
    rw [List.take_length_add_append]
    rfl
  refine ⟨?_, ?_, rfl, rfl, ?_, ?_, ?_, ?_, fun others => ?_⟩
  · rw [List.getElem?_append_right (Nat.le_refl _), Nat.sub_self]
    rfl
  · rw [hall]
  · rw [hall]
  · rw [htake, applyHunks_of_ok hfront]
    exact hfront
  · rw [htake, applyHunks_of_ok hfront, hall]
  · rw [htake', hall]
  · rw [htake', List.append_assoc, List.singleton_append, hall, hall]

/-- **Hunks are applied all or none.** Where one cannot be placed, the first
such hunk is reported. -/
theorem applyHunks_allPlaced_or_stopsAt (excerpt : Excerpt) (content : Text)
    (hunks : List Hunk) :
    AllPlaced excerpt content hunks
      ∨ ∃ k h failure, StopsAt excerpt content hunks k h failure := by
  cases hok : (runHunks excerpt 0 0 content hunks).ok with
  | true =>
    left
    refine ⟨?_, ?_, fun k => ?_⟩
    · rw [applyHunks_of_ok hok]
      exact hok
    · rw [applyHunks_of_ok hok, length_strategies_runHunks hok]
      refine List.countP_congr fun h _ => ?_
      rw [decide_eq_true_iff, Hunk.hasBody_iff]
    · rw [← List.take_append_drop k hunks] at hok
      have hfront := ok_runHunks_of_append hok
      rw [applyHunks_of_ok hfront]
      exact hfront
  | false =>
    right
    obtain ⟨front, h, back, rfl, hfront, hstop⟩ := exists_stop_of_not_ok hok
    rw [Int.zero_add] at hstop
    exact ⟨front.length, h, _, stopsAt_of_stop hfront hstop back⟩

end DriftPatch
