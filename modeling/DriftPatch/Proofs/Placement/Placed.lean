import DriftPatch.Proofs.Windows

/-!
# How a hunk was placed

A strategy that finds a place says which one only by the text it makes. What
is known of the place is said here once for every strategy: where the lines
to remove were found, what they have in common with the lines that were
looked for, and what stands there now (`Hunk.Placed`). Two of the strategies
look at windows of lines. They differ in where they look and in what becomes
of the lines added, and take and leave the text in the same way. The third
one looks at the text and knows no lines.
-/

namespace DriftPatch

variable {wanted lines : List Line} {offset : Int} {content text : Text} {strategy : Strategy}

/-- **Lines that stand somewhere** have the rest of the text before and behind
them. -/
theorem exists_gap_of_standsAt {start : Int} (h : standsAt wanted lines start = true) :
    ∃ gap region rest, (gap.length : Int) = start ∧ lines = gap ++ region ++ rest
      ∧ sameStripped region wanted = true := by
  unfold standsAt at h
  rw [Bool.and_eq_true, Bool.and_eq_true, decide_eq_true_iff, decide_eq_true_iff] at h
  obtain ⟨⟨hstart, hfit⟩, hagree⟩ := h
  refine ⟨lines.take start.toNat, window lines start.toNat wanted.length,
    (lines.drop start.toNat).drop wanted.length, ?_, ?_, hagree⟩
  · rw [List.length_take]
    omega
  · rw [window, List.append_assoc, List.take_append_drop, List.take_append_drop]

theorem standsAt_iff {start : Int} :
    standsAt wanted lines start = true
      ↔ ∃ gap region rest, (gap.length : Int) = start ∧ lines = gap ++ region ++ rest
        ∧ sameStripped region wanted = true := by
  refine ⟨exists_gap_of_standsAt, ?_⟩
  rintro ⟨gap, region, rest, rfl, rfl, hagree⟩
  exact standsAt_gap hagree

/-- Replacing the lines that stand somewhere keeps the others. -/
theorem splice_of_sameStripped {gap region rest : List Line} (h : sameStripped region wanted = true)
    (replacement : List Line) :
    splice (gap ++ region ++ rest) gap.length wanted.length replacement
      = Text.ofLines (gap ++ replacement ++ rest) := by
  rw [← length_eq_of_sameStripped h, splice_gap]

namespace Hunk

/-- **What a text was and became** when a hunk was placed in it. -/
inductive Placed (h : Hunk) (offset : Int) (content : Text) : Strategy → Text → Prop where
  /-- Lines that agree with those looked for stand where the header says. The
  lines added take their place as they are. -/
  | positional {gap region rest : List Line} (here : (gap.length : Int) ∈ h.anchors offset)
    (split : content.lines = gap ++ region ++ rest)
    (agree : sameStripped region h.oldLines = true) :
    Placed h offset content .positional (Text.ofLines (gap ++ h.newLines ++ rest))
  /-- The text holds the lines looked for, joined. The lines added, joined, take
  their place. -/
  | substring {front back : Text} (nonempty : Text.ofLines h.oldLines ≠ [])
    (split : content = front ++ Text.ofLines h.oldLines ++ back) :
    Placed h offset content .substring (front ++ Text.ofLines h.newLines ++ back)
  /-- Lines that agree with those looked for stand somewhere. The lines added
  take their place, with the indent of the first one. -/
  | normalized {gap region rest : List Line} {first : Line}
    (split : content.lines = gap ++ first :: region ++ rest)
    (agree : sameStripped (first :: region) h.oldLines = true) :
    Placed h offset content .normalized
      (Text.ofLines (gap ++ h.newLines.map (reindent first.indent) ++ rest))

variable {h : Hunk}

/-! ## What each strategy makes of a text -/

/-- Placed by its header, a hunk takes away the lines at the first anchor where
they stand. -/
theorem exists_of_placePositional? (hplace : h.placePositional? offset lines = some text) :
    ∃ gap region rest,
      (h.anchors offset).find? (standsAt h.oldLines lines) = some (gap.length : Int)
      ∧ lines = gap ++ region ++ rest ∧ sameStripped region h.oldLines = true
      ∧ text = Text.ofLines (gap ++ h.newLines ++ rest) := by
  obtain ⟨start, hfind, rfl⟩ := Option.map_eq_some_iff.1 hplace
  obtain ⟨gap, region, rest, rfl, rfl, hagree⟩ := exists_gap_of_standsAt (List.find?_some hfind)
  refine ⟨gap, region, rest, hfind, rfl, hagree, ?_⟩
  rw [Int.toNat_natCast, splice_of_sameStripped hagree]

/-- Placed by its text, it takes away an occurrence. -/
theorem exists_of_placeSubstring? (hplace : h.placeSubstring? content = some text) :
    ∃ front back, Text.ofLines h.oldLines ≠ []
      ∧ Text.cut? (Text.ofLines h.oldLines) content = some (front, back)
      ∧ text = front ++ Text.ofLines h.newLines ++ back := by
  unfold placeSubstring? at hplace
  dsimp only at hplace
  split at hplace
  · exact absurd hplace.symm (Option.some_ne_none text)
  · next hne =>
    obtain ⟨⟨front, back⟩, hcut, rfl⟩ := Option.map_eq_some_iff.1 hplace
    exact ⟨front, back, hne, hcut, rfl⟩

/-- Placed by its lines, it takes away the topmost ones that agree. -/
theorem exists_of_placeNormalized? (hplace : h.placeNormalized? lines = some text) :
    ∃ gap first region rest, lines = gap ++ first :: region ++ rest
      ∧ sameStripped (first :: region) h.oldLines = true
      ∧ (∀ k : Nat, k < gap.length → standsAt h.oldLines lines k = false)
      ∧ text = Text.ofLines (gap ++ h.newLines.map (reindent first.indent) ++ rest) := by
  unfold placeNormalized? at hplace
  split at hplace
  · exact absurd hplace.symm (Option.some_ne_none text)
  · next hne =>
    obtain ⟨start, hfind, rfl⟩ := Option.map_eq_some_iff.1 hplace
    obtain ⟨hstands, -, htopmost⟩ := List.find?_range_eq_some.1 hfind
    obtain ⟨gap, region, rest, hstart, rfl, hagree⟩ := exists_gap_of_standsAt hstands
    obtain rfl : gap.length = start := Int.ofNat.inj hstart
    -- The indent is that of the first line, and there is one: it agrees with the
    -- first of the lines looked for.
    have hregion : region ≠ [] := by
      rintro rfl
      exact hne (List.length_eq_zero_iff.1 (length_eq_of_sameStripped hagree).symm)
    obtain ⟨first, region, rfl⟩ := List.exists_cons_of_ne_nil hregion
    have hfirst : (gap ++ first :: region ++ rest)[gap.length]?.getD [] = first := by
      rw [List.append_assoc, List.getElem?_append_right (Nat.le_refl _), Nat.sub_self]
      rfl
    refine ⟨gap, first, region, rest, rfl, hagree, fun k hk => ?_, ?_⟩
    · simpa using htopmost k hk
    · dsimp only
      rw [hfirst, splice_of_sameStripped hagree]

/-- **The first strategy that finds a place** decides. -/
theorem place?_eq_some_iff :
    h.place? offset content = some (strategy, text)
      ↔ (strategy = .positional ∧ h.placePositional? offset content.lines = some text)
        ∨ (strategy = .substring ∧ h.placePositional? offset content.lines = none
          ∧ h.placeSubstring? content = some text)
        ∨ (strategy = .normalized ∧ h.placePositional? offset content.lines = none
          ∧ h.placeSubstring? content = none
          ∧ h.placeNormalized? content.lines = some text) := by
  unfold place?
  cases h.placePositional? offset content.lines with
  | some made => simp [eq_comm]
  | none =>
    cases h.placeSubstring? content with
    | some made => simp [eq_comm]
    | none =>
      cases h.placeNormalized? content.lines with
      | some made => simp [eq_comm]
      | none => simp

/-- **Every place is one of these.** -/
theorem placed_of_place? (hplace : h.place? offset content = some (strategy, text)) :
    h.Placed offset content strategy text := by
  rcases place?_eq_some_iff.1 hplace with ⟨rfl, hpositional⟩ | ⟨rfl, -, hsubstring⟩
    | ⟨rfl, -, -, hnormalized⟩
  · obtain ⟨gap, region, rest, hfind, hsplit, hagree, rfl⟩ := exists_of_placePositional? hpositional
    exact .positional (List.mem_of_find?_eq_some hfind) hsplit hagree
  · obtain ⟨front, back, hne, hcut, rfl⟩ := exists_of_placeSubstring? hsubstring
    exact .substring hne (Text.eq_append_of_cut? hcut)
  · obtain ⟨gap, first, region, rest, hsplit, hagree, -, rfl⟩ :=
      exists_of_placeNormalized? hnormalized
    exact .normalized hsplit hagree

/-! ## What comes of a hunk -/

section Result

variable {excerpt : Excerpt}

/-- **What applying a hunk can come to**: there is nothing to place, or a
place is found, or none is. -/
theorem applyTo_cases (h : Hunk) (excerpt : Excerpt) (offset : Int) (content : Text) :
    (h.hasBody = false ∧ h.applyTo excerpt offset content = { content })
    ∨ (h.hasBody = true ∧ ∃ strategy text, h.place? offset content = some (strategy, text)
        ∧ h.applyTo excerpt offset content = { content := text, strategies := [strategy] })
    ∨ (h.hasBody = true ∧ h.place? offset content = none
        ∧ h.applyTo excerpt offset content
          = { content, failure := some (h.failure excerpt) }) := by
  unfold applyTo
  cases hbody : h.hasBody with
  | false => exact Or.inl ⟨rfl, rfl⟩
  | true =>
    cases hplace : h.place? offset content with
    | none => exact Or.inr (Or.inr ⟨rfl, rfl, rfl⟩)
    | some placed => exact Or.inr (Or.inl ⟨rfl, placed.1, placed.2, rfl, rfl⟩)

/-- A hunk that cannot be placed leaves the text alone. -/
theorem applyTo_of_not_ok (hok : (h.applyTo excerpt offset content).ok = false) :
    h.applyTo excerpt offset content
      = { content, failure := some (h.failure excerpt) } := by
  rcases h.applyTo_cases excerpt offset content with ⟨-, e⟩ | ⟨-, _, _, -, e⟩ | ⟨-, -, e⟩
  · rw [e] at hok
    exact absurd hok Bool.true_eq_false.mp
  · rw [e] at hok
    exact absurd hok Bool.true_eq_false.mp
  · exact e

/-- A hunk that was placed is located in one way, if there was anything to
place. -/
theorem length_strategies_of_ok (hok : (h.applyTo excerpt offset content).ok = true) :
    (h.applyTo excerpt offset content).strategies.length = if h.hasBody then 1 else 0 := by
  rcases h.applyTo_cases excerpt offset content with
    ⟨hbody, e⟩ | ⟨hbody, _, _, -, e⟩ | ⟨-, -, e⟩
  · rw [e, hbody]
    rfl
  · rw [e, hbody]
    rfl
  · rw [e] at hok
    exact absurd hok Bool.false_ne_true

/-- A hunk succeeds exactly if a place is found for it, or none is needed. -/
theorem ok_applyTo_iff :
    (h.applyTo excerpt offset content).ok = true
      ↔ (h.hasBody = true → (h.place? offset content).isSome = true) := by
  rcases h.applyTo_cases excerpt offset content with
    ⟨hbody, e⟩ | ⟨hbody, _, _, hplace, e⟩ | ⟨hbody, hplace, e⟩
  · rw [e, hbody]
    exact ⟨fun _ hno => absurd hno Bool.false_ne_true, fun _ => rfl⟩
  · rw [e, hplace]
    exact ⟨fun _ _ => rfl, fun _ => rfl⟩
  · rw [e, hplace]
    exact ⟨fun hno => absurd hno Bool.false_ne_true, fun hsome => hsome hbody⟩

/-- **A hunk that removes or adds lines and succeeds has a place**, and what
was made there is the result. -/
theorem exists_place?_of_ok (hbody : h.hasBody = true)
    (hok : (h.applyTo excerpt offset content).ok = true) :
    ∃ strategy text, h.place? offset content = some (strategy, text)
      ∧ h.applyTo excerpt offset content = { content := text, strategies := [strategy] } := by
  obtain ⟨⟨strategy, text⟩, hplace⟩ := Option.isSome_iff_exists.1 (ok_applyTo_iff.1 hok hbody)
  refine ⟨strategy, text, hplace, ?_⟩
  rw [applyTo, if_pos hbody, hplace]

/-- A hunk that removes or adds lines was placed if it succeeds. -/
theorem exists_placed_of_ok (hbody : h.hasBody = true)
    (hok : (h.applyTo excerpt offset content).ok = true) :
    ∃ strategy, (h.applyTo excerpt offset content).strategies = [strategy]
      ∧ h.Placed offset content strategy (h.applyTo excerpt offset content).content := by
  obtain ⟨strategy, text, hplace, e⟩ := exists_place?_of_ok hbody hok
  rw [e]
  exact ⟨strategy, rfl, placed_of_place? hplace⟩

end Result

end Hunk

end DriftPatch
