import DriftPatch.Proofs.Script.Consistent
import DriftPatch.Proofs.Script.Kept

/-!
# What the context of a generated hunk shows

As context a hunk shows the old lines above it, as many as are asked for,
whatever becomes of them. If the hunk above is nearer than that, the last line
that it removes is among them. So the context is text that stays as it is exactly
if as many lines are between the two hunks as are asked for
(`showsUnchanged_iff_of_generateHunks`).

A line that is removed may have a twin in the new text, in just the right place.
Then the context reads the same in both texts, and yet shows a line that is gone;
hence lines are told apart by their index, and not only by what they say.
-/

namespace DriftPatch

open Script

namespace Hunk

/-- The hunk removes the old line at an index. -/
def Removes (h : Hunk) (k : Nat) : Prop :=
  h.oldFrom ≤ k ∧ k < h.oldTo

/-- The hunk shows the old line at an index as context before it. -/
def Shows (h : Hunk) (k : Nat) : Prop :=
  h.oldFrom - h.contextBefore.length ≤ k ∧ k < h.oldFrom

/-- **The context of a hunk is unchanged text**, where the hunks of `front` are
above it. -/
structure ShowsUnchanged (old new : List Line) (front : List Hunk) (h : Hunk) : Prop where
  /-- These are the last lines above the hunk in the old text. -/
  inOld : h.contextBefore <:+ old.take h.oldFrom
  /-- And they are in the new one. -/
  inNew : h.contextBefore <:+ new.take h.newFrom
  /-- None of them is removed by a hunk above. -/
  kept : ∀ g ∈ front, ∀ k, g.Removes k → ¬h.Shows k

end Hunk

/-- The lines of a window are the last ones of those up to its end. -/
theorem window_suffix_take (ls : List Line) (i j : Nat) : window ls i (j - i) <:+ ls.take j := by
  rw [window, ← List.drop_take]
  exact List.drop_suffix i _

section Generated

variable {context : Int} {old new : List Line} {front back : List Hunk} {g h : Hunk}

/-- The hunks above a hunk reach no further than it. -/
theorem oldTo_le_of_generateHunks (hhunks : generateHunks context old new = front ++ h :: back) :
    ∀ g ∈ front, g.oldTo ≤ h.oldFrom := by
  obtain ⟨lead, removed, added, trail, -, -, -, rfl, rfl, -⟩ :=
    exists_split_of_generateHunks hhunks
  intro g hg
  obtain ⟨_, _, hfront⟩ := List.append_of_mem hg
  obtain ⟨lead', removed', added', trail', rfl, -, rfl, -⟩ := exists_split_of_hunksAfter hfront
  rw [oldTo_hunk, oldFrom_hunk, before_append, before, List.nil_append, List.length_append,
    List.length_append]
  omega

/-- A hunk that another one follows removes lines. -/
theorem lt_oldTo_of_generateHunks
    (hhunks : generateHunks context old new = front ++ g :: h :: back) : g.oldFrom < g.oldTo := by
  have hg := describes_of_generateHunks hhunks
  have hnone : g.newLines = [] := by
    by_contra hadds
    exact List.cons_ne_nil _ _ (last_of_generateHunks hhunks hadds).1
  have hpos := List.length_pos_iff.2 (hg.body.resolve_right (not_not_intro hnone))
  rw [Hunk.oldTo, hg.oldCount]
  omega

/-- As much context is shown as is asked for, or all that is above the hunk. -/
theorem length_contextBefore_of_generateHunks
    (hhunks : generateHunks context old new = front ++ h :: back) :
    (h.contextBefore.length : Int) = min (max context 0) h.oldFrom := by
  have hh := describes_of_generateHunks hhunks
  have hstart := hh.oldStart
  rw [hh.contextLength, Hunk.oldFrom, Int.toNat_of_nonneg (by omega)]

/-- **Context that reaches over the lines between two hunks** shows the last line
that the hunk above removes. -/
theorem shows_of_generateHunks (hhunks : generateHunks context old new = front ++ g :: h :: back)
    (hnear : (h.oldFrom : Int) < g.oldTo + context) :
    g.Removes (g.oldTo - 1) ∧ h.Shows (g.oldTo - 1) := by
  have hremoves := lt_oldTo_of_generateHunks hhunks
  have hapart := (precedes_of_generateHunks hhunks).oldApart
  rw [List.append_cons] at hhunks
  have hlength := length_contextBefore_of_generateHunks hhunks
  exact ⟨⟨by omega, by omega⟩, by omega, by omega⟩

/-- **Context that stays between two hunks** is text of both files. -/
theorem suffix_take_of_generateHunks
    (hhunks : generateHunks context old new = front ++ g :: h :: back)
    (hclear : (g.oldTo : Int) + context ≤ h.oldFrom) :
    h.contextBefore <:+ new.take h.newFrom := by
  have hgap := precedes_of_generateHunks hhunks
  have hapart := hgap.oldApart
  rw [List.append_cons] at hhunks
  have hh := describes_of_generateHunks hhunks
  have hto := hh.oldTo
  rw [Hunk.oldTo] at hto
  have hlength := length_contextBefore_of_generateHunks hhunks
  -- it is a part of the lines between the two, and those are the same in both texts
  have hfit : h.contextBefore.length ≤ (window old g.oldTo (h.oldFrom - g.oldTo)).length := by
    rw [window, List.length_take, List.length_drop]
    omega
  have hbetween : h.contextBefore <:+ window old g.oldTo (h.oldFrom - g.oldTo) :=
    List.suffix_of_suffix_length_le hh.contextBefore (window_suffix_take old _ _) hfit
  rw [hgap.unchanged] at hbetween
  exact hbetween.trans (window_suffix_take new _ _)

/-- **And no line of it is removed** by a hunk above. -/
theorem not_shows_of_generateHunks
    (hhunks : generateHunks context old new = front ++ g :: h :: back)
    (hclear : (g.oldTo : Int) + context ≤ h.oldFrom) :
    ∀ f ∈ front ++ [g], ∀ k, f.Removes k → ¬h.Shows k := by
  have hapart := (precedes_of_generateHunks hhunks).oldApart
  have habove := oldTo_le_of_generateHunks hhunks
  have hremoves := lt_oldTo_of_generateHunks hhunks
  rw [List.append_cons] at hhunks
  have hlength := length_contextBefore_of_generateHunks hhunks
  rintro f hf k ⟨-, hk⟩ ⟨hshown, -⟩
  have hlast : f.oldTo ≤ g.oldTo := by
    rcases List.mem_append.1 hf with hf | hf
    · exact (habove f hf).trans hremoves.le
    · rw [List.mem_singleton.1 hf]
  omega

/-- **The context of a hunk is unchanged text** exactly if it is the first hunk, or
if between it and the one above it there are as many lines as are asked for.
If there are fewer, a line that the hunk above removes is shown. -/
theorem showsUnchanged_iff_of_generateHunks
    (hhunks : generateHunks context old new = front ++ h :: back) :
    (h.ShowsUnchanged old new front
        ↔ ∀ g ∈ front.getLast?, (g.oldTo : Int) + context ≤ h.oldFrom)
      ∧ ∀ g ∈ front.getLast?, (h.oldFrom : Int) < g.oldTo + context →
          g.Removes (g.oldTo - 1) ∧ h.Shows (g.oldTo - 1) := by
  have hold := (describes_of_generateHunks hhunks).contextBefore
  rcases List.eq_nil_or_concat front with rfl | ⟨front, g, rfl⟩
  · -- nothing changes above the first hunk
    have hnew := hold
    rw [take_eq_take_of_generateHunks hhunks] at hnew
    exact ⟨iff_of_true ⟨hold, hnew, List.forall_mem_nil _⟩ nofun, nofun⟩
  · rw [List.concat_eq_append] at hhunks ⊢
    rw [← List.append_cons] at hhunks
    simp only [List.getLast?_concat, Option.mem_def, Option.some.injEq, forall_eq']
    refine ⟨⟨fun hshows => ?_, fun hclear => ⟨hold, suffix_take_of_generateHunks hhunks hclear,
      not_shows_of_generateHunks hhunks hclear⟩⟩, shows_of_generateHunks hhunks⟩
    by_contra hnear
    obtain ⟨hremoves, hshown⟩ := shows_of_generateHunks hhunks (Int.not_le.1 hnear)
    exact hshows.kept g (List.mem_append_right _ (List.mem_singleton_self g)) _ hremoves hshown

end Generated

/-- One line is between the first two of three hunks and two are between the last two.
With two lines of context the second hunk shows a line that is removed, and the third
one shows unchanged text. -/
theorem showsUnchanged_iff_of_generateHunks_gaps :
    ∃ f g h, generateHunks 2 [['a'], ['b'], ['c'], ['d'], ['e'], ['f']] [['b'], ['d'], ['e']]
        = [f, g, h]
      ∧ ¬g.ShowsUnchanged [['a'], ['b'], ['c'], ['d'], ['e'], ['f']] [['b'], ['d'], ['e']] [f]
      ∧ h.ShowsUnchanged [['a'], ['b'], ['c'], ['d'], ['e'], ['f']] [['b'], ['d'], ['e']]
          [f, g] := by
  have hhunks : generateHunks 2 [['a'], ['b'], ['c'], ['d'], ['e'], ['f']] [['b'], ['d'], ['e']]
      = [hunk 2 [] 0 [['a']] [], hunk 2 [['a'], ['b']] 1 [['c']] [],
         hunk 2 [['a'], ['b'], ['c'], ['d'], ['e']] 3 [['f']] []] := by decide +kernel
  refine ⟨_, _, _, hhunks, ?_, ?_⟩
  · rw [(showsUnchanged_iff_of_generateHunks (show _ = [_] ++ _ :: [_] from hhunks)).1]
    decide
  · rw [(showsUnchanged_iff_of_generateHunks (show _ = [_, _] ++ _ :: [] from hhunks)).1]
    decide

/-- **A line that is gone is shown as context**: of `a`, `b`, `c` and `d` the first
and the third are removed, and the second hunk shows `a` and `b` before the third,
where the new text has `b` alone. -/
theorem exists_not_suffix_of_generateHunks :
    ∃ h ∈ generateHunks 3 [['a'], ['b'], ['c'], ['d']] [['b'], ['d']],
      ¬h.contextBefore <:+ ([['b'], ['d']] : List Line).take h.newFrom := by
  decide +kernel

end DriftPatch
