import DriftPatch.Proofs.Placement.Placed

/-!
# Placing a hunk by the indices of lines

A window of lines is there whatever its index is: where it reaches over an end
of the text it is shorter. A search that counts lines has no such freedom. It
asks for one line after another by its index, and for an index that is negative
or past the last line there is no line.

Here the search is written in this way. Each line is read by its index
(`lineAt`), each cut through the lines is made between two indices
(`spliceBetween`), and an index out of range ends everything. This never comes to
pass (`Hunk.applyByIndex_eq`). Whether the lines looked for would fit between
the ends of the text is decided first, and no line is asked for unless they do;
and a place that was found is within the text.
-/

namespace DriftPatch

/-- **An index out of range**: the text has no line, or no cut between lines,
that it counts. -/
structure OutOfRange where
  /-- The index. -/
  index : Int
  deriving DecidableEq, Repr

/-- The line with an index. -/
def lineAt (lines : List Line) (index : Int) : Except OutOfRange Line :=
  if h : 0 ≤ index ∧ index < lines.length then
    pure (lines.get ⟨index.toNat, by omega⟩)
  else throw ⟨index⟩

/-- Whether the lines from an index on agree with the lines `wanted`, blanks at
the ends of lines aside. Nothing is read behind the first line that does not. -/
def agreeFrom (lines : List Line) : List Line → Int → Except OutOfRange Bool
  | [], _ => pure true
  | want :: wanted, index => do
    let line ← lineAt lines index
    if line.strip = want.strip then agreeFrom lines wanted (index + 1) else pure false

/-- Whether the lines `wanted` stand at an index. They are not looked for where
they would not fit. -/
def standsAtIndex (wanted lines : List Line) (start : Int) : Except OutOfRange Bool :=
  if start < 0 ∨ (lines.length : Int) < start + wanted.length then pure false
  else agreeFrom lines wanted start

/-- The text in which the lines from one index up to another one are replaced. -/
def spliceBetween (lines : List Line) (start stop : Int) (replacement : List Line) :
    Except OutOfRange Text :=
  if start < 0 then throw ⟨start⟩
  else if (lines.length : Int) < stop then throw ⟨stop⟩
  else pure (splice lines start.toNat (stop - start).toNat replacement)

namespace Hunk

/-- The text with the hunk placed by its header. -/
def positionalByIndex (h : Hunk) (offset : Int) (lines : List Line) :
    Except OutOfRange (Option Text) := do
  match ← (h.anchors offset).findM? (standsAtIndex h.oldLines lines) with
  | none => return none
  | some start => return some (← spliceBetween lines start (start + h.oldLines.length) h.newLines)

/-- The text with the hunk placed at the first lines that agree with the lines
removed, blanks aside. -/
def normalizedByIndex (h : Hunk) (lines : List Line) : Except OutOfRange (Option Text) :=
  if h.oldLines = [] then return none
  else do
    match ← (List.range lines.length).findM? fun start : Nat =>
        standsAtIndex h.oldLines lines start with
    | none => return none
    | some start =>
      let first ← lineAt lines start
      return some (← spliceBetween lines start (start + h.oldLines.length)
        (h.newLines.map (reindent first.indent)))

/-- The text with the hunk placed, and how. -/
def placeByIndex (h : Hunk) (offset : Int) (content : Text) :
    Except OutOfRange (Option (Strategy × Text)) := do
  match ← h.positionalByIndex offset content.lines with
  | some text => return some (.positional, text)
  | none =>
    match h.placeSubstring? content with
    | some text => return some (.substring, text)
    | none => return (← h.normalizedByIndex content.lines).map (.normalized, ·)

/-- **Applying a hunk**, by the indices of lines. -/
def applyByIndex (h : Hunk) (excerpt : Excerpt) (offset : Int) (content : Text) :
    Except OutOfRange Outcome :=
  if h.hasBody then do
    match ← h.placeByIndex offset content with
    | some (strategy, text) => return { content := text, strategies := [strategy] }
    | none => return { content, failure := some (h.failure excerpt) }
  else return { content }

end Hunk

variable {lines wanted : List Line}

/-! ## Nothing is read out of range -/

theorem lineAt_of_lt {k : Nat} (hk : k < lines.length) : lineAt lines k = .ok lines[k] := by
  have hrange : (0 : Int) ≤ k ∧ (k : Int) < lines.length := by omega
  unfold lineAt
  rw [dif_pos hrange]
  rfl

theorem window_succ {k : Nat} (hk : k < lines.length) (width : Nat) :
    window lines k (width + 1) = lines[k] :: window lines (k + 1) width := by
  rw [window, List.drop_eq_getElem_cons hk, List.take_succ_cons]
  rfl

theorem sameStripped_cons (l m : Line) (ls ms : List Line) :
    sameStripped (l :: ls) (m :: ms) = (l.strip == m.strip && sameStripped ls ms) :=
  rfl

/-- Lines that fit between the ends of the text are compared to the end. -/
theorem agreeFrom_eq {k : Nat} (hfit : k + wanted.length ≤ lines.length) :
    agreeFrom lines wanted k = .ok (sameStripped (window lines k wanted.length) wanted) := by
  induction wanted generalizing k with
  | nil =>
    rw [window, List.length_nil, List.take_zero]
    rfl
  | cons want wanted ih =>
    rw [List.length_cons] at hfit
    have hk : k < lines.length := by omega
    have hrest : agreeFrom lines wanted (k + 1) = _ := ih (k := k + 1) (by omega)
    rw [List.length_cons, window_succ hk, sameStripped_cons, agreeFrom, lineAt_of_lt hk]
    show (if lines[k].strip = want.strip then agreeFrom lines wanted (k + 1) else pure false) = _
    by_cases hsame : lines[k].strip = want.strip
    · rw [if_pos hsame, hrest, beq_iff_eq.2 hsame, Bool.true_and]
    · rw [if_neg hsame, beq_eq_false_iff_ne.2 hsame, Bool.false_and]
      rfl

theorem standsAtIndex_eq (wanted lines : List Line) (start : Int) :
    standsAtIndex wanted lines start = .ok (standsAt wanted lines start) := by
  unfold standsAtIndex standsAt
  split
  · next hout =>
    have hnot : (decide (0 ≤ start) && decide (start + wanted.length ≤ lines.length)) = false := by
      rw [Bool.and_eq_false_iff, decide_eq_false_iff_not, decide_eq_false_iff_not]
      omega
    rw [hnot]
    rfl
  · next hin =>
    obtain ⟨k, rfl⟩ : ∃ k : Nat, start = k := Int.eq_ofNat_of_zero_le (by omega)
    have hfit : (k : Int) + wanted.length ≤ lines.length := by omega
    rw [agreeFrom_eq (by omega), decide_eq_true (Int.natCast_nonneg k), decide_eq_true hfit]
    rfl

/-- Lines that stand somewhere are cut out within the text. -/
theorem spliceBetween_eq {start : Int} (hstands : standsAt wanted lines start = true)
    (replacement : List Line) :
    spliceBetween lines start (start + wanted.length) replacement
      = .ok (splice lines start.toNat wanted.length replacement) := by
  obtain ⟨gap, region, rest, rfl, rfl, hagree⟩ := exists_gap_of_standsAt hstands
  have hlength := length_eq_of_sameStripped hagree
  have hstop : ¬((gap ++ region ++ rest).length : Int) < gap.length + wanted.length := by
    rw [List.length_append, List.length_append]
    omega
  have hwidth : ((gap.length : Int) + wanted.length - gap.length).toNat = wanted.length := by omega
  rw [spliceBetween, if_neg (by omega), if_neg hstop, hwidth]
  rfl

namespace Hunk

theorem positionalByIndex_eq (h : Hunk) (offset : Int) (lines : List Line) :
    h.positionalByIndex offset lines = .ok (h.placePositional? offset lines) := by
  have hfind : (h.anchors offset).findM? (standsAtIndex h.oldLines lines)
      = .ok ((h.anchors offset).find? (standsAt h.oldLines lines)) := by
    rw [funext (standsAtIndex_eq h.oldLines lines)]
    exact List.findM?_pure _ _
  unfold positionalByIndex placePositional?
  rw [hfind]
  cases hstart : (h.anchors offset).find? (standsAt h.oldLines lines) with
  | none => rfl
  | some start =>
    show (spliceBetween lines start (start + h.oldLines.length) h.newLines >>= _) = _
    rw [spliceBetween_eq (List.find?_some hstart)]
    rfl

theorem normalizedByIndex_eq (h : Hunk) (lines : List Line) :
    h.normalizedByIndex lines = .ok (h.placeNormalized? lines) := by
  have hfind : ((List.range lines.length).findM? fun start : Nat =>
        standsAtIndex h.oldLines lines start)
      = .ok ((List.range lines.length).find? fun start : Nat =>
        standsAt h.oldLines lines (start : Int)) := by
    rw [funext fun start : Nat => standsAtIndex_eq h.oldLines lines start]
    exact List.findM?_pure _ _
  unfold normalizedByIndex placeNormalized?
  split
  · rfl
  · rw [hfind]
    cases hstart : (List.range lines.length).find? fun start : Nat =>
        standsAt h.oldLines lines (start : Int) with
    | none => rfl
    | some start =>
      have hlt : start < lines.length := List.mem_range.1 (List.mem_of_find?_eq_some hstart)
      have hstands : standsAt h.oldLines lines start = true :=
        List.find?_some (p := fun start : Nat => standsAt h.oldLines lines (start : Int)) hstart
      show (lineAt lines start >>= _) = _
      rw [lineAt_of_lt hlt]
      show (spliceBetween lines start (start + h.oldLines.length) _ >>= _) = _
      rw [spliceBetween_eq hstands, Option.map_some, List.getElem?_eq_getElem hlt]
      rfl

/-- **No index is out of range**, and what comes of the hunk is what comes of
it. -/
theorem applyByIndex_eq (h : Hunk) (excerpt : Excerpt) (offset : Int) (content : Text) :
    h.applyByIndex excerpt offset content = .ok (h.applyTo excerpt offset content) := by
  have hplace : h.placeByIndex offset content = .ok (h.place? offset content) := by
    unfold placeByIndex place?
    rw [positionalByIndex_eq]
    cases h.placePositional? offset content.lines with
    | some text => rfl
    | none =>
      show (match h.placeSubstring? content with | some text => _ | none => _) = _
      cases h.placeSubstring? content with
      | some text => rfl
      | none =>
        show (h.normalizedByIndex content.lines >>= _) = _
        rw [normalizedByIndex_eq]
        rfl
  unfold applyByIndex applyTo
  split
  · rw [hplace]
    cases h.place? offset content with
    | some placed => rfl
    | none => rfl
  · rfl

end Hunk

end DriftPatch
