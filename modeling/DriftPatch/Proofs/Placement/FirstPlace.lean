import DriftPatch.Proofs.Placement.Success

/-!
# The place that is chosen

Where lines could be removed in several places, one of them is chosen in an
order. Lines that stand where the header says come first: at the line that it
names or else, behind the context that it may have counted. Then comes the text
of the lines, and of its occurrences the leftmost one. Last come lines that
agree but for the blanks at their ends, and of these the topmost ones.

`Hunk.FirstPlace` says so without a search, and says what is made of the text in
each case. There is one such place at most, and the search finds it if there is
one (`Hunk.place?_eq_some_iff_firstPlace`); so the place that applying a hunk
comes to is this one (`Hunk.firstPlace_of_ok`).
-/

namespace DriftPatch

open Text

variable {excerpt : Excerpt} {offset start : Int} {content text : Text} {lines : List Line}
  {strategy : Strategy}

namespace Hunk

/-- **The lines removed stand where the header says**: at the line it names or,
if they do not stand there, behind the context that is shown. -/
inductive StandsByHeader (h : Hunk) (offset : Int) (lines : List Line) : Int → Prop
  /-- At the line that the header names. -/
  | change (here : h.StandsAt lines (h.oldStart - 1 + offset)) :
    StandsByHeader h offset lines (h.oldStart - 1 + offset)
  /-- Behind the context. -/
  | behind (shows : h.contextBefore ≠ [])
    (apart : ¬h.StandsAt lines (h.oldStart - 1 + offset))
    (here : h.StandsAt lines (h.oldStart - 1 + offset + h.contextBefore.length)) :
    StandsByHeader h offset lines (h.oldStart - 1 + offset + h.contextBefore.length)

/-- **The header leads to the lines removed**: they stand at the line it names, or
behind the context that is shown. -/
def FoundByHeader (h : Hunk) (offset : Int) (lines : List Line) : Prop :=
  h.StandsAt lines (h.oldStart - 1 + offset)
    ∨ h.contextBefore ≠ []
      ∧ h.StandsAt lines (h.oldStart - 1 + offset + h.contextBefore.length)

/-- **The first place of a hunk**, and what becomes of the text there. -/
inductive FirstPlace (h : Hunk) (offset : Int) (content : Text) : Strategy → Text → Prop
  /-- Where the header says. The lines added take the place of the lines there,
  as they are. -/
  | positional {gap region rest : List Line}
    (header : h.StandsByHeader offset content.lines gap.length)
    (split : content.lines = gap ++ region ++ rest)
    (agree : region.map strip = h.oldLines.map strip) :
    FirstPlace h offset content .positional (ofLines (gap ++ h.newLines ++ rest))
  /-- Where they occur, if the header does not lead to them. The lines added,
  joined, take the place of the leftmost occurrence. -/
  | substring {front back : Text} (stray : ¬h.FoundByHeader offset content.lines)
    (visible : ofLines h.oldLines ≠ []) (split : content = front ++ ofLines h.oldLines ++ back)
    (leftmost : ∀ front' back', content = front' ++ ofLines h.oldLines ++ back' →
      front.length ≤ front'.length) :
    FirstPlace h offset content .substring (front ++ ofLines h.newLines ++ back)
  /-- Where lines agree with them, if they do not occur. The lines added take the
  place of the topmost such lines, with the indent of the first of these in the
  place of their own. -/
  | normalized {gap region rest : List Line} {first : Line}
    (stray : ¬h.FoundByHeader offset content.lines) (absent : ¬h.OccursIn content)
    (split : content.lines = gap ++ first :: region ++ rest)
    (agree : (first :: region).map strip = h.oldLines.map strip)
    (topmost : ∀ gap' region' rest', content.lines = gap' ++ region' ++ rest' →
      region'.map strip = h.oldLines.map strip → gap.length ≤ gap'.length) :
    FirstPlace h offset content .normalized
      (ofLines (gap ++ h.newLines.map (fun l => first.indent ++ l.stripLeft) ++ rest))

variable {h : Hunk}

/-! ## By the header -/

theorem exists_standsByHeader_iff :
    (∃ start, h.StandsByHeader offset lines start) ↔ h.FoundByHeader offset lines := by
  constructor
  · rintro ⟨start, here | ⟨shows, -, here⟩⟩
    · exact Or.inl here
    · exact Or.inr ⟨shows, here⟩
  · intro hfound
    by_cases hchange : h.StandsAt lines (h.oldStart - 1 + offset)
    · exact ⟨_, .change hchange⟩
    · obtain ⟨shows, here⟩ := hfound.resolve_left hchange
      exact ⟨_, .behind shows hchange here⟩

/-- The header leads to one line at most. -/
theorem StandsByHeader.unique {start' : Int} (hheader : h.StandsByHeader offset lines start)
    (hheader' : h.StandsByHeader offset lines start') : start = start' := by
  cases hheader with
  | change here =>
    cases hheader' with
    | change => rfl
    | behind _ apart' => exact absurd here apart'
  | behind _ apart =>
    cases hheader' with
    | change here' => exact absurd here' apart
    | behind => rfl

/-- Lines to remove are looked for at one line, and behind the context if there
is one. -/
theorem anchors_of_removes (hne : h.oldLines ≠ []) :
    h.anchors offset = (h.oldStart - 1 + offset)
      :: if h.contextBefore = [] then []
        else [h.oldStart - 1 + offset + h.contextBefore.length] := by
  unfold anchors
  dsimp only
  rw [if_neg hne]
  split
  · rfl
  · rfl

theorem find?_anchors_eq_some_iff (hne : h.oldLines ≠ []) :
    (h.anchors offset).find? (standsAt h.oldLines lines) = some start
      ↔ h.StandsByHeader offset lines start := by
  rw [anchors_of_removes hne]
  by_cases hchange : h.StandsAt lines (h.oldStart - 1 + offset)
  · rw [List.find?_cons_of_pos (standsAt_oldLines_iff.2 hchange), Option.some.injEq]
    constructor
    · rintro rfl
      exact .change hchange
    · rintro (_ | ⟨-, apart, -⟩)
      · rfl
      · exact absurd hchange apart
  · rw [List.find?_cons_of_neg fun hfound => hchange (standsAt_oldLines_iff.1 hfound)]
    split
    · next hnone =>
      refine ⟨nofun, ?_⟩
      rintro (here | ⟨shows, -, -⟩)
      · exact absurd here hchange
      · exact absurd hnone shows
    · next shows =>
      rw [List.find?_singleton, Option.ite_none_right_eq_some, standsAt_oldLines_iff,
        Option.some.injEq]
      constructor
      · rintro ⟨here, rfl⟩
        exact .behind shows hchange here
      · rintro (here | ⟨-, -, here⟩)
        · exact absurd here hchange
        · exact ⟨here, rfl⟩

/-- Where no line is found by the header, none stands there. -/
theorem stray_of_placePositional?_eq_none (hne : h.oldLines ≠ [])
    (hnone : h.placePositional? offset lines = none) : ¬h.FoundByHeader offset lines := by
  intro hfound
  obtain ⟨start, hstart⟩ := exists_standsByHeader_iff.2 hfound
  rw [placePositional?, (find?_anchors_eq_some_iff hne).2 hstart] at hnone
  exact Option.some_ne_none _ hnone

/-! ## The place found is the first one -/

theorem firstPlace_of_placePositional? (hne : h.oldLines ≠ [])
    (hplace : h.placePositional? offset content.lines = some text) :
    h.FirstPlace offset content .positional text := by
  obtain ⟨gap, region, rest, hfind, hsplit, hagree, rfl⟩ := exists_of_placePositional? hplace
  exact .positional ((find?_anchors_eq_some_iff hne).1 hfind) hsplit (sameStripped_iff.1 hagree)

theorem firstPlace_of_placeSubstring? (hstray : ¬h.FoundByHeader offset content.lines)
    (hplace : h.placeSubstring? content = some text) :
    h.FirstPlace offset content .substring text := by
  obtain ⟨front, back, hne, hcut, rfl⟩ := exists_of_placeSubstring? hplace
  exact .substring hstray hne (eq_append_of_cut? hcut)
    fun _ _ hsplit => length_le_of_cut? hcut hsplit

theorem firstPlace_of_placeNormalized? (hstray : ¬h.FoundByHeader offset content.lines)
    (habsent : ¬h.OccursIn content) (hplace : h.placeNormalized? content.lines = some text) :
    h.FirstPlace offset content .normalized text := by
  obtain ⟨gap, first, region, rest, hsplit, hagree, hnone, rfl⟩ :=
    exists_of_placeNormalized? hplace
  refine .normalized hstray habsent hsplit (sameStripped_iff.1 hagree) ?_
  intro gap' region' rest' hsplit' hagree'
  by_contra hlt
  have hstands : standsAt h.oldLines content.lines gap'.length = true :=
    standsAt_oldLines_iff.2 ⟨gap', region', rest', hsplit', rfl, hagree'⟩
  rw [hnone gap'.length (Nat.lt_of_not_le hlt)] at hstands
  exact Bool.false_ne_true hstands

/-- A strategy is asked only when those before it have found nothing. -/
theorem firstPlace_of_place? (hne : h.oldLines ≠ [])
    (hplace : h.place? offset content = some (strategy, text)) :
    h.FirstPlace offset content strategy text := by
  rcases place?_eq_some_iff.1 hplace with ⟨rfl, hpositional⟩ | ⟨rfl, hnone, hsubstring⟩
    | ⟨rfl, hnone, hnone', hnormalized⟩
  · exact firstPlace_of_placePositional? hne hpositional
  · exact firstPlace_of_placeSubstring? (stray_of_placePositional?_eq_none hne hnone) hsubstring
  · refine firstPlace_of_placeNormalized? (stray_of_placePositional?_eq_none hne hnone) ?_
      hnormalized
    intro hoccurs
    rw [← isSome_placeSubstring?_iff, hnone'] at hoccurs
    exact Bool.false_ne_true hoccurs

namespace FirstPlace

/-- The header decides alone whether the place is the one by the header. -/
theorem eq_positional_iff (hfirst : h.FirstPlace offset content strategy text) :
    strategy = .positional ↔ h.FoundByHeader offset content.lines := by
  cases hfirst with
  | positional header => exact ⟨fun _ => exists_standsByHeader_iff.1 ⟨_, header⟩, fun _ => rfl⟩
  | substring stray => exact ⟨nofun, fun hfound => absurd hfound stray⟩
  | normalized stray => exact ⟨nofun, fun hfound => absurd hfound stray⟩

theorem eq_substring_iff (hfirst : h.FirstPlace offset content strategy text) :
    strategy = .substring ↔ ¬h.FoundByHeader offset content.lines ∧ h.OccursIn content := by
  cases hfirst with
  | positional header =>
    exact ⟨nofun, fun hstray => absurd (exists_standsByHeader_iff.1 ⟨_, header⟩) hstray.1⟩
  | substring stray visible split =>
    exact ⟨fun _ => ⟨stray, visible, _, _, split.symm⟩, fun _ => rfl⟩
  | normalized _ absent => exact ⟨nofun, fun hoccurs => absurd hoccurs.2 absent⟩

/-- A text that has a first place for the lines removed holds them. -/
theorem stands_or_occurs (hfirst : h.FirstPlace offset content strategy text) :
    (∃ start, h.StandsAt content.lines start) ∨ h.OccursIn content := by
  cases hfirst with
  | positional _ split agree => exact Or.inl ⟨_, _, _, _, split, rfl, agree⟩
  | substring _ visible split => exact Or.inr ⟨visible, _, _, split.symm⟩
  | normalized _ _ split agree => exact Or.inl ⟨_, _, _, _, split, rfl, agree⟩

/-- **There is one first place at most**, whatever other places there are. -/
theorem unique {strategy' : Strategy} {text' : Text}
    (hfirst : h.FirstPlace offset content strategy text)
    (hfirst' : h.FirstPlace offset content strategy' text') :
    strategy = strategy' ∧ text = text' := by
  have hlength {region region' : List Line} (hagree : region.map strip = h.oldLines.map strip)
      (hagree' : region'.map strip = h.oldLines.map strip) : region.length = region'.length := by
    rw [← List.length_map strip, hagree, ← hagree', List.length_map]
  cases hfirst with
  | positional header split agree =>
    have hfound := exists_standsByHeader_iff.1 ⟨_, header⟩
    cases hfirst' with
    | positional header' split' agree' =>
      obtain ⟨rfl, -, rfl⟩ := parts_eq_of_append_eq (split.symm.trans split')
        (Int.ofNat_inj.1 (header.unique header')) (hlength agree agree')
      exact ⟨rfl, rfl⟩
    | substring stray' => exact absurd hfound stray'
    | normalized stray' => exact absurd hfound stray'
  | substring stray visible split leftmost =>
    cases hfirst' with
    | positional header' => exact absurd (exists_standsByHeader_iff.1 ⟨_, header'⟩) stray
    | substring _ _ split' leftmost' =>
      obtain ⟨rfl, -, rfl⟩ := parts_eq_of_append_eq (split.symm.trans split')
        (Nat.le_antisymm (leftmost _ _ split') (leftmost' _ _ split)) rfl
      exact ⟨rfl, rfl⟩
    | normalized _ absent' => exact absurd ⟨visible, _, _, split.symm⟩ absent'
  | normalized stray absent split agree topmost =>
    cases hfirst' with
    | positional header' => exact absurd (exists_standsByHeader_iff.1 ⟨_, header'⟩) stray
    | substring _ visible' split' => exact absurd ⟨visible', _, _, split'.symm⟩ absent
    | normalized _ _ split' agree' topmost' =>
      obtain ⟨rfl, hregion, rfl⟩ := parts_eq_of_append_eq (split.symm.trans split')
        (Nat.le_antisymm (topmost _ _ _ split' agree') (topmost' _ _ _ split agree))
        (hlength agree agree')
      obtain ⟨rfl, -⟩ := List.cons.inj hregion
      exact ⟨rfl, rfl⟩

end FirstPlace

/-- **The place found is the first one, and the first one is found.** -/
theorem place?_eq_some_iff_firstPlace (hne : h.oldLines ≠ []) :
    h.place? offset content = some (strategy, text)
      ↔ h.FirstPlace offset content strategy text := by
  refine ⟨firstPlace_of_place? hne, fun hfirst => ?_⟩
  have hsome : (h.place? offset content).isSome = true :=
    (isSome_place?_iff_of_removes hne).2 hfirst.stands_or_occurs
  obtain ⟨⟨strategy', text'⟩, hplace⟩ := Option.isSome_iff_exists.1 hsome
  obtain ⟨rfl, rfl⟩ := hfirst.unique (firstPlace_of_place? hne hplace)
  exact hplace

/-- **A hunk that removes lines and succeeds is put in its first place.** The
header decides whether it is put there by position, and if it is not, the text
decides whether it is put there as a text. -/
theorem firstPlace_of_ok (hne : h.oldLines ≠ [])
    (hok : (h.applyTo excerpt offset content).ok = true) :
    ∃ strategy, (h.applyTo excerpt offset content).strategies = [strategy]
      ∧ (strategy = .positional ↔ h.FoundByHeader offset content.lines)
      ∧ (strategy = .substring ↔ ¬h.FoundByHeader offset content.lines ∧ h.OccursIn content)
      ∧ h.FirstPlace offset content strategy (h.applyTo excerpt offset content).content := by
  obtain ⟨strategy, text, hplace, e⟩ := exists_place?_of_ok (hasBody_iff.2 (Or.inl hne)) hok
  have hfirst := firstPlace_of_place? hne hplace
  rw [e]
  exact ⟨strategy, rfl, hfirst.eq_positional_iff, hfirst.eq_substring_iff, hfirst⟩

/-- A hunk that replaces one line, shown behind another one. -/
def behindContext (oldStart : Int) (line : Line) : Hunk :=
  { oldStart, oldLines := [line], newLines := [" n".toList], contextBefore := [['k']] }

/-- A text in which the line stands twice, each time with another indent, and
occurs once more. -/
def repeatedLine : Text :=
  "\ta\nk\n a\nxa".toList

/-- The header leads behind the context, or nowhere, and then the line is a part
of the text or is not. -/
theorem firstPlace_of_ok_repeatedLine :
    (behindContext 2 ['a']).applyTo {} 0 repeatedLine
        = { content := "\ta\nk\n n\nxa".toList, strategies := [.positional] }
      ∧ (behindContext 2 ['a']).applyTo {} 7 repeatedLine
        = { content := "\t n\nk\n a\nxa".toList, strategies := [.substring] }
      ∧ (behindContext 2 "a ".toList).applyTo {} 7 repeatedLine
        = { content := "\tn\nk\n a\nxa".toList, strategies := [.normalized] }
      ∧ ∀ line ∈ [['a'], "a ".toList], ∀ offset ∈ [(0 : Int), 7],
        (behindContext 2 line).oldLines ≠ []
        ∧ ((behindContext 2 line).applyTo {} offset repeatedLine).ok = true
        ∧ ∃ strategy,
          ((behindContext 2 line).applyTo {} offset repeatedLine).strategies = [strategy]
          ∧ (strategy = .positional
            ↔ (behindContext 2 line).FoundByHeader offset repeatedLine.lines)
          ∧ (strategy = .substring
            ↔ ¬(behindContext 2 line).FoundByHeader offset repeatedLine.lines
              ∧ (behindContext 2 line).OccursIn repeatedLine)
          ∧ (behindContext 2 line).FirstPlace offset repeatedLine strategy
            ((behindContext 2 line).applyTo {} offset repeatedLine).content := by
  have hne : ∀ line, (behindContext 2 line).oldLines ≠ [] := fun _ => List.cons_ne_nil _ _
  have hok : ∀ line ∈ [['a'], "a ".toList], ∀ offset ∈ [(0 : Int), 7],
      ((behindContext 2 line).applyTo {} offset repeatedLine).ok = true := by decide
  exact ⟨by decide, by decide, by decide, fun line hline offset hoffset =>
    ⟨hne line, hok line hline offset hoffset,
      firstPlace_of_ok (hne line) (hok line hline offset hoffset)⟩⟩

end Hunk

end DriftPatch
