import DriftPatch.Proofs.Placement.Indices

/-!
# When a hunk succeeds

Three strategies look for a place, the first two of them at certain lines or
after certain characters. Together they find a place exactly if the text has one
at all (`Hunk.succeedsExactly`). What the header leads to is lines that agree with
those looked for, and all such lines are gone through in the end. So for a hunk
that removes lines neither its header nor its context decides whether it
succeeds; they only decide where, if there is a choice.

A hunk that only adds lines is not looked for. It goes where its header says,
the top of the text at the earliest, and fails behind the last line.
-/

namespace DriftPatch

open Text

variable {excerpt : Excerpt} {offset : Int} {content : Text}

namespace Hunk

/-- **The lines removed stand at an index** of some lines, blanks at the ends of
lines aside. -/
def StandsAt (h : Hunk) (lines : List Line) (start : Int) : Prop :=
  ∃ gap region rest, lines = gap ++ region ++ rest ∧ (gap.length : Int) = start
    ∧ region.map strip = h.oldLines.map strip

/-- **The lines removed, joined, occur in a text**, as more than nothing. -/
def OccursIn (h : Hunk) (content : Text) : Prop :=
  ofLines h.oldLines ≠ [] ∧ ofLines h.oldLines <:+: content

variable {h : Hunk} {lines : List Line}

theorem standsAt_oldLines_iff {start : Int} :
    standsAt h.oldLines lines start = true ↔ h.StandsAt lines start := by
  rw [standsAt_iff]
  constructor
  · rintro ⟨gap, region, rest, hstart, hsplit, hagree⟩
    exact ⟨gap, region, rest, hsplit, hstart, sameStripped_iff.1 hagree⟩
  · rintro ⟨gap, region, rest, hsplit, hstart, hagree⟩
    exact ⟨gap, region, rest, hstart, hsplit, sameStripped_iff.2 hagree⟩

/-- Lines stand at the index of a line. -/
theorem StandsAt.exists_lt {start : Int} (hstands : h.StandsAt lines start)
    (hne : h.oldLines ≠ []) : ∃ k : Nat, k < lines.length ∧ start = k := by
  obtain ⟨gap, region, rest, rfl, rfl, hagree⟩ := hstands
  refine ⟨gap.length, ?_, rfl⟩
  have hregion : region.length = h.oldLines.length := by
    rw [← List.length_map strip, hagree, List.length_map]
  have hpos : 0 < h.oldLines.length := List.length_pos_iff.2 hne
  rw [List.length_append, List.length_append]
  omega

/-! ## What each strategy finds -/

theorem isSome_placePositional?_iff :
    (h.placePositional? offset lines).isSome = true
      ↔ ∃ start ∈ h.anchors offset, h.StandsAt lines start := by
  unfold placePositional?
  rw [Option.isSome_map, List.find?_isSome]
  simp only [standsAt_oldLines_iff]

theorem isSome_placeSubstring?_iff :
    (h.placeSubstring? content).isSome = true ↔ h.OccursIn content := by
  unfold placeSubstring? OccursIn
  dsimp only
  split
  · next hempty => simp [hempty]
  · next hne =>
    rw [Option.isSome_map, Option.isSome_iff_exists, ← exists_cut?_iff, Prod.exists]
    exact ⟨fun hcut => ⟨hne, hcut⟩, fun h => h.2⟩

theorem isSome_placeNormalized?_iff :
    (h.placeNormalized? lines).isSome = true
      ↔ h.oldLines ≠ [] ∧ ∃ start, h.StandsAt lines start := by
  unfold placeNormalized?
  split
  · next hnil => simp [hnil]
  · next hne =>
    rw [Option.isSome_map, List.find?_isSome]
    simp only [standsAt_oldLines_iff]
    constructor
    · rintro ⟨k, -, hstands⟩
      exact ⟨hne, k, hstands⟩
    · rintro ⟨-, start, hstands⟩
      obtain ⟨k, hk, rfl⟩ := hstands.exists_lt hne
      exact ⟨k, List.mem_range.2 hk, hstands⟩

/-- A place is found if one of the strategies finds one. -/
theorem isSome_place?_iff :
    (h.place? offset content).isSome = true
      ↔ (h.placePositional? offset content.lines).isSome = true
        ∨ (h.placeSubstring? content).isSome = true
        ∨ (h.placeNormalized? content.lines).isSome = true := by
  unfold place?
  split
  · next hpositional => simp [hpositional]
  · next hpositional =>
    split
    · next hsubstring => simp [hsubstring]
    · next hsubstring => simp [hpositional, hsubstring]

/-- **A place is found for lines to remove exactly if there is one.** -/
theorem isSome_place?_iff_of_removes (hne : h.oldLines ≠ []) :
    (h.place? offset content).isSome = true
      ↔ (∃ start, h.StandsAt content.lines start) ∨ h.OccursIn content := by
  rw [isSome_place?_iff, isSome_placePositional?_iff, isSome_placeSubstring?_iff,
    isSome_placeNormalized?_iff]
  constructor
  · rintro (⟨start, -, hstands⟩ | hoccurs | ⟨-, hstands⟩)
    · exact Or.inl ⟨start, hstands⟩
    · exact Or.inr hoccurs
    · exact Or.inl hstands
  · rintro (hstands | hoccurs)
    · exact Or.inr (Or.inr ⟨hne, hstands⟩)
    · exact Or.inr (Or.inl hoccurs)

/-- No lines stand wherever a line or the end of the text is. -/
theorem standsAt_iff_of_oldLines_eq_nil (hnil : h.oldLines = []) {start : Int} :
    h.StandsAt lines start ↔ 0 ≤ start ∧ start ≤ lines.length := by
  rw [← standsAt_oldLines_iff, hnil, standsAt, Bool.and_eq_true, Bool.and_eq_true,
    decide_eq_true_iff, decide_eq_true_iff, List.length_nil, window, List.take_zero]
  constructor
  · rintro ⟨⟨hpos, hfit⟩, -⟩
    omega
  · rintro ⟨hpos, hfit⟩
    exact ⟨⟨hpos, by omega⟩, rfl⟩

/-- **A place is found for lines to insert exactly if the header names one.** -/
theorem isSome_place?_iff_of_inserts (hnil : h.oldLines = []) :
    (h.place? offset content).isSome = true
      ↔ max (h.oldStart - 1 + offset) 0 ≤ content.lines.length := by
  have hanchors : h.anchors offset = [max (h.oldStart - 1 + offset) 0] := if_pos hnil
  have habsent : ¬h.OccursIn content := fun hoccurs => hoccurs.1 (by rw [hnil]; rfl)
  rw [isSome_place?_iff, isSome_placePositional?_iff, isSome_placeSubstring?_iff,
    isSome_placeNormalized?_iff, hanchors]
  constructor
  · rintro (⟨start, hstart, hstands⟩ | hoccurs | ⟨hne, -⟩)
    · rw [← List.mem_singleton.1 hstart]
      exact ((standsAt_iff_of_oldLines_eq_nil hnil).1 hstands).2
    · exact absurd hoccurs habsent
    · exact absurd hnil hne
  · intro hle
    exact Or.inl ⟨_, List.mem_singleton_self _,
      (standsAt_iff_of_oldLines_eq_nil hnil).2 ⟨Int.le_max_right _ _, hle⟩⟩

/-! ## Success -/

/-- **When a hunk succeeds**, and what else is certain of applying it. -/
structure SucceedsExactly (h : Hunk) (excerpt : Excerpt) (offset : Int) (content : Text) :
    Prop where
  /-- A hunk that removes lines succeeds if they stand somewhere in the text or
  occur in it as a text, and only then. -/
  removing : h.oldLines ≠ [] → ((h.applyTo excerpt offset content).ok = true
    ↔ (∃ start, h.StandsAt content.lines start) ∨ h.OccursIn content)
  /-- So does every hunk that removes the same lines, under any header, after any
  hunks, and whatever it adds and shows. -/
  removingAlike : h.oldLines ≠ [] → ∀ (g : Hunk) (excerpt' : Excerpt) (offset' : Int),
    g.oldLines = h.oldLines →
      (g.applyTo excerpt' offset' content).ok = (h.applyTo excerpt offset content).ok
  /-- A hunk that only adds lines succeeds if the header does not lead behind the
  end of the text. -/
  inserting : h.oldLines = [] → h.newLines ≠ [] → ((h.applyTo excerpt offset content).ok = true
    ↔ max (h.oldStart - 1 + offset) 0 ≤ content.lines.length)
  /-- A hunk that changes nothing succeeds. -/
  bodyless : h.oldLines = [] → h.newLines = [] → (h.applyTo excerpt offset content).ok = true
  /-- Placed by the indices of lines it meets no index out of range. -/
  withinRange : h.applyByIndex excerpt offset content = .ok (h.applyTo excerpt offset content)
  /-- Where it fails the text is left alone. -/
  untouched : (h.applyTo excerpt offset content).ok = false →
    (h.applyTo excerpt offset content).content = content

theorem ok_applyTo_iff_of_removes (hne : h.oldLines ≠ []) :
    (h.applyTo excerpt offset content).ok = true
      ↔ (∃ start, h.StandsAt content.lines start) ∨ h.OccursIn content := by
  have hbody : h.hasBody = true := hasBody_iff.2 (Or.inl hne)
  rw [ok_applyTo_iff]
  exact (forall_prop_of_true hbody).trans (isSome_place?_iff_of_removes hne)

/-- **A hunk succeeds exactly if there is a place for it.** -/
theorem succeedsExactly (h : Hunk) (excerpt : Excerpt) (offset : Int) (content : Text) :
    h.SucceedsExactly excerpt offset content where
  removing := ok_applyTo_iff_of_removes
  removingAlike hne g excerpt' offset' heq := by
    rw [Bool.eq_iff_iff, ok_applyTo_iff_of_removes hne,
      ok_applyTo_iff_of_removes (by rwa [heq])]
    unfold StandsAt OccursIn
    rw [heq]
  inserting hnil hne := by
    have hbody : h.hasBody = true := hasBody_iff.2 (Or.inr hne)
    rw [ok_applyTo_iff]
    exact (forall_prop_of_true hbody).trans (isSome_place?_iff_of_inserts hnil)
  bodyless hnil hnil' := by
    refine ok_applyTo_iff.2 fun hbody => ?_
    rcases hasBody_iff.1 hbody with hne | hne
    · exact absurd hnil hne
    · exact absurd hnil' hne
  withinRange := h.applyByIndex_eq excerpt offset content
  untouched hok := by rw [applyTo_of_not_ok hok]

end Hunk

end DriftPatch
