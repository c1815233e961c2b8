import DriftPatch.Diff.Generate
import Mathlib.Data.List.TakeWhile

/-!
# What the greedy scan does, case by case

The scan that compares two lists of lines meets four situations.

* Nothing is left on either side.
* Both sides begin with the same line, and it is kept.
* The next new line still comes among the old ones: the old lines before
  it are removed, and nothing is added.
* The next new line does not come, or there is none: all that is left is
  removed and all that is left is added, and the scan is over.

So lines are added by the last step at most. The four equations below say
what the script is in each situation, and `Script.scanInduction` is the
induction that goes with them. By it the script leads from the old lines
to the new ones (`Script.before_between`, `Script.after_between`).
-/

namespace DriftPatch

namespace Script

variable {line : Line} {removed added old new : List Line}

/-! ## The two halves of a cut -/

/-- Lines none of which is the one looked for, up to one that is. -/
theorem untilHead_append (h : line ∉ removed) :
    untilHead (removed ++ line :: old) (line :: new) = removed := by
  have hne : ∀ a ∈ removed, ((line :: new).head? != some a) = true := by
    intro a ha
    simpa using fun e : line = a => h (e ▸ ha)
  unfold untilHead
  rw [List.takeWhile_append_of_pos hne, List.takeWhile_cons_of_neg (by simp),
    List.append_nil]

theorem fromHead_append (h : line ∉ removed) :
    fromHead (removed ++ line :: old) (line :: new) = line :: old := by
  have hne : ∀ a ∈ removed, ((line :: new).head? != some a) = true := by
    intro a ha
    simpa using fun e : line = a => h (e ▸ ha)
  unfold fromHead
  rw [List.dropWhile_append_of_pos hne, List.dropWhile_cons_of_neg (by simp)]

/-- Nothing comes before the line looked for where it comes first. -/
theorem untilHead_cons_self (line : Line) (old new : List Line) :
    untilHead (line :: old) (line :: new) = [] := by
  unfold untilHead
  exact List.takeWhile_cons_of_neg (by simp)

theorem fromHead_cons_self (line : Line) (old new : List Line) :
    fromHead (line :: old) (line :: new) = line :: old := by
  unfold fromHead
  exact List.dropWhile_cons_of_neg (by simp)

/-- Where the line looked for does not come, nothing is found. -/
theorem untilHead_eq_self (h : ∀ l ∈ removed, new.head? ≠ some l) :
    untilHead removed new = removed := by
  unfold untilHead
  exact List.takeWhile_eq_self_iff.2 fun l hl => by simpa using h l hl

theorem fromHead_eq_nil (h : ∀ l ∈ removed, new.head? ≠ some l) :
    fromHead removed new = [] := by
  unfold fromHead
  exact List.dropWhile_eq_nil_iff.2 fun l hl => by simpa using h l hl

/-- What is found begins with the line looked for. -/
theorem head?_eq_of_fromHead {rest : List Line}
    (h : fromHead old new = line :: rest) : new.head? = some line := by
  have hhead := List.head?_dropWhile_not (fun l => new.head? != some l) old
  unfold fromHead at h
  rw [h] at hhead
  simpa using hhead

/-! ## The script in each situation -/

@[simp] theorem between_nil : between [] [] = [] := by
  rw [between, dif_neg (not_not_intro rfl)]

theorem between_keep (line : Line) (old new : List Line) :
    between (line :: old) (line :: new) = .keep line :: between old new := by
  have hsame : (line :: old).head? = (line :: new).head? := rfl
  rw [between, dif_neg (not_not_intro hsame)]

theorem between_drop (hne : removed ≠ []) (h : line ∉ removed) (old new : List Line) :
    between (removed ++ line :: old) (line :: new)
      = .replace removed [] :: between (line :: old) (line :: new) := by
  have hparted : (removed ++ line :: old).head? ≠ (line :: new).head? := by
    obtain ⟨a, as, rfl⟩ := List.exists_cons_of_ne_nil hne
    simpa using fun e : a = line => h (e ▸ List.mem_cons_self ..)
  rw [between, dif_pos hparted, untilHead_append h, fromHead_append h,
    untilHead_cons_self, fromHead_cons_self]

theorem between_last (hne : removed ≠ [] ∨ added ≠ [])
    (h : ∀ l ∈ removed, added.head? ≠ some l) :
    between removed added = [.replace removed added] := by
  have hparted : removed.head? ≠ added.head? := by
    intro e
    cases removed with
    | nil => cases added <;> simp_all
    | cons a as => exact h a (List.mem_cons_self ..) e.symm
  have hnone : ∀ l ∈ added, ([] : List Line).head? ≠ some l :=
    fun l _ e => absurd e.symm (Option.some_ne_none l)
  rw [between, dif_pos hparted, untilHead_eq_self h, fromHead_eq_nil h,
    untilHead_eq_self hnone, fromHead_eq_nil hnone, between_nil]

/-- **Induction over the scan**: one case for each of the four situations
it meets. -/
@[elab_as_elim]
theorem scanInduction {motive : List Line → List Line → Prop}
    (nil : motive [] [])
    (keep : ∀ line old new, motive old new → motive (line :: old) (line :: new))
    (drop : ∀ removed line old new, removed ≠ [] → line ∉ removed →
      motive (line :: old) (line :: new) →
      motive (removed ++ line :: old) (line :: new))
    (last : ∀ removed added, removed ≠ [] ∨ added ≠ [] →
      (∀ l ∈ removed, added.head? ≠ some l) → motive removed added)
    (old new : List Line) : motive old new := by
  induction old, new using between.induct with
  | case1 old new parted ih =>
    have hcut := untilHead_append_fromHead old new
    have hdiffer : ∀ l ∈ untilHead old new, new.head? ≠ some l := by
      intro l hl
      simpa using List.mem_takeWhile_imp hl
    cases hfound : fromHead old new with
    | nil =>
      rw [hfound, List.append_nil] at hcut
      rw [hcut] at hdiffer
      refine last old new ?_ hdiffer
      rcases old with _ | ⟨a, old⟩
      · exact Or.inr fun hnil => parted (by rw [hnil])
      · exact Or.inl (List.cons_ne_nil a old)
    | cons line rest =>
      obtain ⟨new', rfl⟩ : ∃ new', new = line :: new' :=
        List.head?_eq_some_iff.1 (head?_eq_of_fromHead hfound)
      rw [hfound] at ih hcut
      rw [← hcut]
      refine drop _ line rest new' ?_ ?_ ?_
      · intro hnil
        rw [hnil] at hcut
        exact parted (by rw [← hcut]; rfl)
      · exact fun hmem => hdiffer line hmem rfl
      · rwa [fromHead_cons_self] at ih
  | case2 line old head new same ih =>
    obtain rfl : line = head := by simpa using same
    exact keep line old new ih
  | case3 old new same hcons =>
    cases old with
    | nil =>
      cases new with
      | nil => exact nil
      | cons b new => simp at same
    | cons a old =>
      cases new with
      | nil => simp at same
      | cons b new => exact (hcons a old b new same rfl rfl HEq.rfl).elim

/-! ## Where the script leads -/

/-- **The script starts from the old lines.** -/
theorem before_between (old new : List Line) : (between old new).before = old := by
  induction old, new using scanInduction with
  | nil => rw [between_nil, before]
  | keep line old new ih => rw [between_keep, before, ih]
  | drop removed line old new hne hmem ih => rw [between_drop hne hmem, before, ih]
  | last removed added hne hdiffer =>
    rw [between_last hne hdiffer, before, before, List.append_nil]

/-- **The script ends with the new lines.** -/
theorem after_between (old new : List Line) : (between old new).after = new := by
  induction old, new using scanInduction with
  | nil => rw [between_nil, after]
  | keep line old new ih => rw [between_keep, after, ih]
  | drop removed line old new hne hmem ih =>
    rw [between_drop hne hmem, after, ih]
    rfl
  | last removed added hne hdiffer =>
    rw [between_last hne hdiffer, after, after, List.append_nil]

end Script

end DriftPatch
