import DriftPatch.Proofs.Replay.Atomic

/-!
# Lists of hunks put together

The hunks of a long list can be applied in two parts. The second part is then
a list of its own: its run starts at number 0, with no lines counted in, and
falls back to the text that the first part has made. The headers of its hunks
were written for the text in front of the first part, and so they are off by
as many lines as the first part adds and removes. Once every header is moved
on by that many lines (`Hunk.movedOn`), the two runs of the parts come to what
one run of the whole list comes to (`applyHunks_append`). What is left of the
division is the number of a hunk that cannot be placed, which counts from the
start of its part, and the text after a failure, which is the one from the
start of the whole.

No strategy is looked into for this. A header is read in one place only, where
the offset is added to it, so a line in the header and a line in the offset
are the same to a hunk.
-/

namespace DriftPatch

/-- The hunk with its header moved on by some lines. -/
def Hunk.movedOn (lines : Int) (h : Hunk) : Hunk :=
  { h with oldStart := h.oldStart + lines }

/-- The failure of a hunk in front of which some more hunks stand. -/
def Failure.behind (hunks : Nat) (f : Failure) : Failure :=
  { f with hunkIndex := f.hunkIndex.map (hunks + ·) }

/-- The outcome of a run in front of which some more hunks stand. -/
def Outcome.behind (hunks : Nat) (o : Outcome) : Outcome :=
  { o with failure := o.failure.map (Failure.behind hunks) }

variable {excerpt : Excerpt} {index : Nat} {offset : Int} {content : Text}

/-! ## Headers and offsets -/

namespace Hunk

variable (h : Hunk) (lines : Int)

theorem anchors_movedOn (offset : Int) :
    (h.movedOn lines).anchors offset = h.anchors (offset + lines) := by
  have hanchor : h.oldStart + lines - 1 + offset = h.oldStart - 1 + (offset + lines) := by omega
  unfold anchors movedOn
  dsimp only
  rw [hanchor]

/-- **A header that is moved on is read as if the text had shifted** by so many
lines more. -/
theorem applyTo_movedOn (excerpt : Excerpt) (offset : Int) (content : Text) :
    (h.movedOn lines).applyTo excerpt offset content
      = h.applyTo excerpt (offset + lines) content := by
  have hplace : (h.movedOn lines).place? offset content = h.place? (offset + lines) content := by
    unfold place? placePositional?
    rw [anchors_movedOn]
    rfl
  unfold applyTo
  rw [hplace]
  rfl

end Hunk

/-- A run of hunks whose headers are moved on. The offset goes from hunk to hunk
and the lines come on top of it at each. -/
theorem runHunks_map_movedOn (excerpt : Excerpt) (index : Nat) (offset : Int) (content : Text)
    (lines : Int) (hunks : List Hunk) :
    runHunks excerpt index offset content (hunks.map (Hunk.movedOn lines))
      = runHunks excerpt index (offset + lines) content hunks := by
  induction hunks generalizing index offset content with
  | nil => rfl
  | cons h hunks ih =>
    have hoffset : offset + (h.movedOn lines).lineDelta + lines
        = offset + lines + h.lineDelta := Int.add_right_comm ..
    rw [List.map_cons, runHunks_cons, runHunks_cons, Hunk.applyTo_movedOn, ih, hoffset]
    rfl

/-! ## Numbers -/

/-- **The number at which a run starts is met again in the report** of a
failure, and nowhere else. -/
theorem runHunks_add_index (excerpt : Excerpt) (before index : Nat) (offset : Int)
    (content : Text) (hunks : List Hunk) :
    runHunks excerpt (before + index) offset content hunks
      = (runHunks excerpt index offset content hunks).behind before := by
  induction hunks generalizing index offset content with
  | nil => rfl
  | cons h hunks ih =>
    rw [runHunks_cons, runHunks_cons, Nat.add_assoc, ih]
    split
    · rfl
    · rfl

/-- Where a run has stopped the report has the number of a hunk. -/
theorem exists_hunkIndex_of_failure {hunks : List Hunk} {failure : Failure}
    (h : (runHunks excerpt index offset content hunks).failure = some failure) :
    ∃ k, failure.hunkIndex = some k := by
  induction hunks generalizing index offset content with
  | nil => exact nomatch h
  | cons hunk hunks ih =>
    rw [runHunks_cons] at h
    split at h
    · exact ih h
    · exact ⟨index, by rw [← Option.some.inj h]⟩

/-! ## Two parts -/

/-- All that applying hunks keeps of a run that was stopped is its text, which
becomes the one from the start. -/
theorem applyHunks_eq (excerpt : Excerpt) (content : Text) (hunks : List Hunk) :
    applyHunks excerpt content hunks
      = { runHunks excerpt 0 0 content hunks with
          content := if (runHunks excerpt 0 0 content hunks).ok then
            (runHunks excerpt 0 0 content hunks).content else content } := by
  unfold applyHunks
  dsimp only
  split <;> rfl

/-- The run of a whole list goes on from its first part as a run of the second
one does, with the headers moved on by the drift of the first. -/
theorem runHunks_append_eq_followedBy {front : List Hunk} (back : List Hunk)
    (hfront : (runHunks excerpt 0 0 content front).ok = true) :
    runHunks excerpt 0 0 content (front ++ back)
      = (runHunks excerpt 0 0 content front).followedBy
        ((runHunks excerpt 0 0 (runHunks excerpt 0 0 content front).content
          (back.map (Hunk.movedOn (Hunk.drift front)))).behind front.length) := by
  rw [runHunks_append, if_pos hfront, runHunks_map_movedOn, ← runHunks_add_index, Nat.zero_add,
    Nat.add_zero]

namespace Outcome

/-- **What a list of hunks comes to**, told by what its first part comes to and
then its second part. -/
structure Joins (whole first second : Outcome) (content : Text) (passed : Nat) : Prop where
  /-- The whole succeeds exactly if the second part does. -/
  ok : whole.ok = second.ok
  /-- Hunks are located as they are in the parts. -/
  strategies : whole.strategies = first.strategies ++ second.strategies
  /-- Where all is placed the text is the one that the second part makes. -/
  placed : second.ok = true → whole.content = second.content
  /-- Where a hunk is not placed the text is the one from the start. -/
  untouched : second.ok = false → whole.content = content
  /-- The same hunk is reported, in the same words. In the whole list its number
  is larger by the hunks of the first part. -/
  failure : ∀ f, second.failure = some f → ∃ g k, whole.failure = some g
    ∧ g.message = f.message ∧ g.expected = f.expected ∧ g.hunkId = f.hunkId
    ∧ f.hunkIndex = some k ∧ g.hunkIndex = some (passed + k)

end Outcome

/-- **Lists of hunks can be applied in parts**: where the first part is placed,
what the whole comes to is what the second part comes to in the text that the
first one has made, its headers moved on by the lines added and removed so
far. -/
theorem applyHunks_append (excerpt : Excerpt) (content : Text) {front : List Hunk}
    (back : List Hunk) (hfront : (applyHunks excerpt content front).ok = true) :
    (applyHunks excerpt content (front ++ back)).Joins (applyHunks excerpt content front)
      (applyHunks excerpt (applyHunks excerpt content front).content
        (back.map (Hunk.movedOn (Hunk.drift front))))
      content front.length := by
  have hrun : (runHunks excerpt 0 0 content front).ok = true := by
    rwa [applyHunks_eq] at hfront
  have hwhole := runHunks_append_eq_followedBy back hrun
  rw [applyHunks_of_ok hrun, applyHunks_eq, applyHunks_eq, hwhole]
  generalize runHunks excerpt 0 0 content front = first
  generalize hsecond : runHunks excerpt 0 0 first.content _ = second
  have hok : (first.followedBy (second.behind front.length)).ok = second.ok := Option.isNone_map
  refine ⟨hok, rfl, fun (h : second.ok = true) => ?_, fun (h : second.ok = false) => ?_,
    fun f (hf : second.failure = some f) => ?_⟩
  · simp only [hok, h, if_true]
    rfl
  · simp only [hok, h, Bool.false_eq_true, if_false]
  · obtain ⟨k, hk⟩ := exists_hunkIndex_of_failure (hsecond ▸ hf)
    exact ⟨f.behind front.length, k, congrArg (Option.map _) hf, rfl, rfl, rfl, hk,
      congrArg (Option.map _) hk⟩

/-- Two hunks for a text of five lines. The first one removes two lines, and the
line that the second one is to change comes before the line of its header. -/
def Hunk.shortening : List Hunk :=
  [{ oldStart := 2, oldLines := [['b'], ['c']] },
   { oldStart := 4, oldLines := [['d']], newLines := [['D'], ['E']] }]

/-- Two hunks for the lines behind. The first one adds a line at the end, and
the second one looks for a line that is gone. -/
def Hunk.lengthening : List Hunk :=
  [{ oldStart := 6, newLines := [['f']] }, { id := .named ['h'], oldLines := [['b']] }]

/-- The first two hunks remove three lines and add two, and the third one is
placed one line before the line of its header. The fourth one is number 1 among
the last two, and number 3 of all. -/
theorem applyHunks_append_shortening :
    (applyHunks {} "a\nb\nc\nd\ne".toList Hunk.shortening).ok = true
      ∧ Hunk.drift Hunk.shortening = -1
      ∧ applyHunks {} "a\nD\nE\ne".toList
          (Hunk.lengthening.map (Hunk.movedOn (Hunk.drift Hunk.shortening)))
        = { content := "a\nD\nE\ne".toList
            strategies := [.positional]
            failure := some
              { expected := [['b']], hunkId := .named ['h'], hunkIndex := some 1 } }
      ∧ (applyHunks {} "a\nb\nc\nd\ne".toList (Hunk.shortening ++ Hunk.lengthening)).failure
        = some { expected := [['b']], hunkId := .named ['h'], hunkIndex := some 3 }
      ∧ (applyHunks {} "a\nb\nc\nd\ne".toList (Hunk.shortening ++ Hunk.lengthening)).Joins
        (applyHunks {} "a\nb\nc\nd\ne".toList Hunk.shortening)
        (applyHunks {} (applyHunks {} "a\nb\nc\nd\ne".toList Hunk.shortening).content
          (Hunk.lengthening.map (Hunk.movedOn (Hunk.drift Hunk.shortening))))
        "a\nb\nc\nd\ne".toList 2 := by
  have hplaced : (applyHunks {} "a\nb\nc\nd\ne".toList Hunk.shortening).ok = true := by decide
  exact ⟨hplaced, by decide, by decide, by decide, applyHunks_append {} _ _ hplaced⟩

end DriftPatch
