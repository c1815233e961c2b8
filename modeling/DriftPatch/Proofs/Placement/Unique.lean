import DriftPatch.Proofs.Placement.Placed

/-!
# Hunks that fit in one place only

A header may say anything: the text may have drifted by any number of lines
since it was written, or the lines were never counted. Where the lines to
remove stand in one place of a text and in no other one, the header does not
matter. By lines they are found in this place or not at all, for no other lines
agree with them; and if not at all, they are found by their text, which occurs
here and nowhere else. Found either way, they are replaced by the same lines.

The two views of the text have to meet for this. Lines are replaced between
lines, and a text between the characters before it and behind it, among them
the line feeds that join it to the other lines, if there are other lines. With
lines removed and lines added these characters are the same
(`Text.exists_text_around`).
-/

namespace DriftPatch

open Text

variable {offset : Int}

namespace Hunk

/-- **A hunk fits between some lines and nowhere else** in the text that these
lines make with the lines removed. Of the hunk only the lines removed and added
matter. -/
structure FitsOnly (h : Hunk) (lead trail : List Line) : Prop where
  /-- Lines are removed. -/
  removes : h.oldLines ≠ []
  /-- Lines are added. -/
  adds : h.newLines ≠ []
  /-- The lines removed are more than one empty line. -/
  visible : ofLines h.oldLines ≠ []
  /-- The lines of the text are lines. -/
  feed_notMem : ∀ l ∈ lead ++ h.oldLines ++ trail, '\n' ∉ l
  /-- As a text, they begin at one character only. -/
  once : ∃! i : Nat, ofLines h.oldLines <+: (ofLines (lead ++ h.oldLines ++ trail)).drop i
  /-- As lines, blanks at their ends aside, they begin at one line only. -/
  alone : ∀ gap region rest, lead ++ h.oldLines ++ trail = gap ++ region ++ rest →
    region.map strip = h.oldLines.map strip → gap.length = lead.length

variable {h : Hunk} {lead trail : List Line} {text : Text}

namespace FitsOnly

theorem lines_eq (hfits : h.FitsOnly lead trail) :
    lines (ofLines (lead ++ h.oldLines ++ trail)) = lead ++ h.oldLines ++ trail := by
  refine lines_ofLines ?_ hfits.feed_notMem
  simp [hfits.removes]

/-- Where the lines are found as lines. -/
theorem eq_of_lines (hfits : h.FitsOnly lead trail) {gap region rest : List Line}
    (hsplit : lines (ofLines (lead ++ h.oldLines ++ trail)) = gap ++ region ++ rest)
    (hagree : sameStripped region h.oldLines = true) : gap = lead ∧ rest = trail := by
  rw [hfits.lines_eq] at hsplit
  have hgap := hfits.alone gap region rest hsplit (sameStripped_iff.1 hagree)
  have hregion := length_eq_of_sameStripped hagree
  obtain ⟨hgap, -, hrest⟩ := parts_eq_of_append_eq hsplit.symm hgap hregion
  exact ⟨hgap, hrest⟩

/-- Where they are found as a text. -/
theorem eq_of_text (hfits : h.FitsOnly lead trail) {front back front' back' : Text}
    (hsplit : ofLines (lead ++ h.oldLines ++ trail) = front ++ ofLines h.oldLines ++ back)
    (hsplit' : ofLines (lead ++ h.oldLines ++ trail) = front' ++ ofLines h.oldLines ++ back') :
    front = front' ∧ back = back' := by
  have hbegins {front back : Text}
      (hsplit : ofLines (lead ++ h.oldLines ++ trail) = front ++ ofLines h.oldLines ++ back) :
      ofLines h.oldLines <+: (ofLines (lead ++ h.oldLines ++ trail)).drop front.length := by
    rw [hsplit, List.append_assoc, List.drop_left]
    exact List.prefix_append _ _
  have hlength : front.length = front'.length :=
    hfits.once.unique (hbegins hsplit) (hbegins hsplit')
  obtain ⟨hfront, -, hback⟩ := parts_eq_of_append_eq (hsplit.symm.trans hsplit') hlength rfl
  exact ⟨hfront, hback⟩

/-- Placed by its header, the hunk is placed between these lines. -/
theorem eq_of_placePositional? (hfits : h.FitsOnly lead trail)
    (hplace : h.placePositional? offset (lines (ofLines (lead ++ h.oldLines ++ trail)))
      = some text) : text = ofLines (lead ++ h.newLines ++ trail) := by
  obtain ⟨gap, region, rest, -, hsplit, hagree, rfl⟩ := exists_of_placePositional? hplace
  obtain ⟨rfl, rfl⟩ := hfits.eq_of_lines hsplit hagree
  rfl

/-- **Its text is found, and there it is placed between these lines too.** -/
theorem placeSubstring?_eq (hfits : h.FitsOnly lead trail) :
    h.placeSubstring? (ofLines (lead ++ h.oldLines ++ trail))
      = some (ofLines (lead ++ h.newLines ++ trail)) := by
  obtain ⟨front, back, haround⟩ := exists_text_around lead trail
  have hsplit := haround h.oldLines hfits.removes
  obtain ⟨front', back', hcut⟩ := exists_cut?_iff.2 ⟨front, back, hsplit.symm⟩
  obtain ⟨rfl, rfl⟩ := hfits.eq_of_text hsplit (eq_append_of_cut? hcut)
  unfold placeSubstring?
  dsimp only
  rw [if_neg hfits.visible, hcut, haround h.newLines hfits.adds]
  rfl

end FitsOnly

/-- **A hunk that fits in one place only is placed there**, whatever its header
says and however far the text has shifted. Neither its context nor its counts
matter. -/
theorem applyTo_of_fitsOnly (hfits : h.FitsOnly lead trail) (excerpt : Excerpt) (offset : Int) :
    ∃ strategy, strategy ≠ .normalized
      ∧ h.applyTo excerpt offset (ofLines (lead ++ h.oldLines ++ trail))
        = { content := ofLines (lead ++ h.newLines ++ trail), strategies := [strategy] } := by
  have hbody : h.hasBody = true := hasBody_iff.2 (Or.inl hfits.removes)
  unfold applyTo place?
  rw [if_pos hbody]
  cases hplace : h.placePositional? offset (lines (ofLines (lead ++ h.oldLines ++ trail))) with
  | some text =>
    rw [hfits.eq_of_placePositional? hplace]
    exact ⟨.positional, nofun, rfl⟩
  | none =>
    rw [hfits.placeSubstring?_eq]
    exact ⟨.substring, nofun, rfl⟩

/-- A hunk that puts one line in the place of two, wherever its header says that
they stand. -/
def astray (oldStart : Int) : Hunk :=
  { oldStart, oldLines := [['a'], ['b']], newLines := [['n']], contextBefore := [['k']] }

/-- The two lines stand between others that hold their letters. Where the header
leads to them the hunk is placed by it, and where it leads anywhere else, to no
line at all or to one line too early, it is placed all the same. -/
theorem applyTo_of_fitsOnly_astray :
    (∀ oldStart, (astray oldStart).FitsOnly [['b'], ['a', 'b']] [['a']])
      ∧ (∀ oldStart offset, ∃ strategy, strategy ≠ .normalized
        ∧ (astray oldStart).applyTo {} offset "b\nab\na\nb\na".toList
          = { content := "b\nab\nn\na".toList, strategies := [strategy] })
      ∧ ((astray 2).applyTo {} 0 "b\nab\na\nb\na".toList).strategies = [.positional]
      ∧ ((astray (-7)).applyTo {} 0 "b\nab\na\nb\na".toList).strategies = [.substring]
      ∧ ((astray 2).applyTo {} (-1) "b\nab\na\nb\na".toList).strategies = [.substring] := by
  have hfits (oldStart : Int) : (astray oldStart).FitsOnly [['b'], ['a', 'b']] [['a']] := by
    have htext : ∀ i < 8, ofLines [['a'], ['b']] <+: ("b\nab\na\nb\na".toList).drop i → i = 5 := by
      decide
    have hlines : ∀ i < 4, (window [['b'], ['a', 'b'], ['a'], ['b'], ['a']] i 2).map strip
        = [['a'], ['b']] → i = 2 := by decide
    refine ⟨nofun, nofun, nofun, ?_, ⟨5, ?_, fun i hi => ?_⟩, fun gap region rest hsplit h => ?_⟩
    · show ∀ l ∈ [['b'], ['a', 'b'], ['a'], ['b'], ['a']], '\n' ∉ l
      decide
    · show ofLines [['a'], ['b']] <+: ("b\nab\na\nb\na".toList).drop 5
      decide
    · have hlength := hi.length_le
      rw [List.length_drop] at hlength
      have hbound : 3 ≤ 10 - i := hlength
      exact htext i (by omega) hi
    · have hregion : region.length = 2 := by
        have hlength := congrArg List.length h
        rwa [List.length_map, List.length_map] at hlength
      have hbound : 5 = (gap ++ region ++ rest).length := congrArg List.length hsplit
      rw [List.length_append, List.length_append] at hbound
      refine hlines gap.length (by omega) ?_
      have hwindow := window_gap gap region rest
      rw [← hsplit, hregion] at hwindow
      exact (congrArg (List.map strip) hwindow).trans h
  exact ⟨hfits, fun oldStart offset => applyTo_of_fitsOnly (hfits oldStart) {} offset,
    by decide, by decide, by decide⟩

end Hunk

end DriftPatch
