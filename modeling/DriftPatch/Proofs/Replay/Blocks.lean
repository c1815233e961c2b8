import DriftPatch.Proofs.Replay.Rewrites

/-!
# Patches that replace blocks of lines

A patch as `diff -u` writes it cuts the old text into gaps, which stay, and
blocks, which are removed, and puts other lines, or none, in the place of
each block. Its headers count the lines of the old text and include the
context that is shown before the block. No header knows of the hunks in
front of it, and none needs to: such a patch is placed by position from one
end to the other (`applyHunks_of_patches`).

There is one thing to ask of a hunk with context. The line that its header
names is the first line of the context, and the lines removed are looked
for at that line first; they must not stand there as well.
-/

namespace DriftPatch

/-- **A block and the gap in front of it.** -/
structure Block where
  /-- The lines that stay, in front of the block. -/
  gap : List Line
  /-- The lines removed. -/
  removed : List Line
  /-- The lines that take their place. -/
  added : List Line
  /-- A block has lines. -/
  removed_ne_nil : removed ≠ []

namespace Block

/-- The lines of the old text. -/
def before (b : Block) : List Line :=
  b.gap ++ b.removed

/-- The lines of the new text. -/
def after (b : Block) : List Line :=
  b.gap ++ b.added

/-- The old text that some blocks are cut from, up to what follows the
last of them. -/
def oldLines (blocks : List Block) (tail : List Line) : List Line :=
  blocks.flatMap before ++ tail

/-- The new text. -/
def newLines (blocks : List Block) (tail : List Line) : List Line :=
  blocks.flatMap after ++ tail

variable (b : Block) (blocks : List Block) (tail : List Line)

theorem oldLines_cons :
    oldLines (b :: blocks) tail = b.gap ++ b.removed ++ oldLines blocks tail := by
  unfold oldLines
  rw [List.flatMap_cons, List.append_assoc]
  rfl

theorem newLines_cons :
    newLines (b :: blocks) tail = b.gap ++ b.added ++ newLines blocks tail := by
  unfold newLines
  rw [List.flatMap_cons, List.append_assoc]
  rfl

theorem oldLines_ne_nil (hblocks : blocks ≠ []) : oldLines blocks tail ≠ [] := by
  cases blocks with
  | nil => exact absurd rfl hblocks
  | cons b blocks =>
    rw [oldLines_cons]
    simp [b.removed_ne_nil]

end Block

/-- **A hunk that replaces a block** of the text `old`, where the gap in
front of the block begins behind `passed` lines. The context is the end of
the gap, as much of it as is shown, and the header names the first line
shown. Nothing is asked of the counts or of the context after the block. -/
structure Hunk.Replaces (h : Hunk) (old : List Line) (passed : Nat) (b : Block) : Prop where
  /-- It removes the block. -/
  oldLines : h.oldLines = b.removed
  /-- It adds what takes its place. -/
  newLines : h.newLines = b.added
  /-- The context is an end of the gap. -/
  context : h.contextBefore <:+ b.gap
  /-- The header names the first line that is shown. -/
  oldStart : h.oldStart + h.contextBefore.length = passed + b.gap.length + 1
  /-- The block does not stand at the first line of the context as well. -/
  apart : h.contextBefore ≠ [] →
    sameStripped (window old (h.oldStart - 1).toNat b.removed.length) b.removed = false

/-- **A patch of a text**: each hunk replaces its block, and the gap of the
next block begins where this one ends. -/
inductive Patches (old : List Line) : Nat → List Block → List Hunk → Prop
  /-- No block, no hunk. -/
  | nil {passed : Nat} : Patches old passed [] []
  /-- A hunk and the patch of what follows its block. -/
  | cons {passed : Nat} {b : Block} {blocks : List Block} {h : Hunk} {hunks : List Hunk}
      (first : h.Replaces old passed b)
      (later : Patches old (passed + b.before.length) blocks hunks) :
      Patches old passed (b :: blocks) (h :: hunks)

theorem Hunk.Replaces.oldLines_ne_nil {h : Hunk} {old : List Line} {passed : Nat}
    {b : Block} (hr : h.Replaces old passed b) : h.oldLines ≠ [] := by
  rw [hr.oldLines]
  exact b.removed_ne_nil

/-- The header of a hunk leads to its block, in the part of the text that
begins with the gap. -/
theorem Hunk.Replaces.leadsTo {h : Hunk} {b : Block} {front rest : List Line}
    (hr : h.Replaces (front ++ (b.gap ++ b.removed ++ rest)) front.length b) :
    h.LeadsTo front.length (b.gap ++ b.removed ++ rest) b.gap.length := by
  have hstart := hr.oldStart
  by_cases hnone : h.contextBefore = []
  · rw [hnone, List.length_nil] at hstart
    refine Hunk.LeadsTo.change ?_
    omega
  · have hwithin := hr.context.length_le
    have hindex : (h.oldStart - 1).toNat
        = front.length + (b.gap.length - h.contextBefore.length) := by
      omega
    refine Hunk.LeadsTo.context hr.oldLines_ne_nil hnone hwithin hstart ?_
    have hapart := hr.apart hnone
    rw [hindex, window_append] at hapart
    rw [standsAt, hr.oldLines, Int.toNat_natCast, hapart, Bool.and_false]

namespace Patches

variable {old : List Line} {passed : Nat} {blocks : List Block} {hunks : List Hunk}

theorem blocks_ne_nil (hp : Patches old passed blocks hunks) (hhunks : hunks ≠ []) :
    blocks ≠ [] := by
  cases hp with
  | nil => exact absurd rfl hhunks
  | cons first later => exact List.cons_ne_nil _ _

/-- What a hunk of a patch adds takes the place of some block. -/
theorem exists_added_of_mem (hp : Patches old passed blocks hunks) {h : Hunk}
    (hh : h ∈ hunks) : ∃ b ∈ blocks, h.newLines = b.added := by
  induction hp with
  | nil => exact absurd hh List.not_mem_nil
  | @cons _ b _ _ _ first later ih =>
    rw [List.mem_cons] at hh
    rcases hh with rfl | hh
    · exact ⟨b, List.mem_cons_self, first.newLines⟩
    · obtain ⟨c, hc, hadded⟩ := ih hh
      exact ⟨c, List.mem_cons_of_mem b hc, hadded⟩

/-- **The hunks of a patch find their blocks.** The induction follows the
blocks; the lines in front of the next gap are those that were gone
through. -/
theorem rewrites {front tail : List Line}
    (hp : Patches (front ++ Block.oldLines blocks tail) front.length blocks hunks) :
    Rewrites front.length (Block.oldLines blocks tail) hunks
      (Block.newLines blocks tail) := by
  induction blocks generalizing front hunks with
  | nil =>
    cases hp
    exact Rewrites.nil
  | cons b blocks ih =>
    rw [Block.oldLines_cons] at hp ⊢
    rw [Block.newLines_cons]
    cases hp with
    | @cons _ _ _ h hunks first later =>
      have hstands : sameStripped b.removed h.oldLines = true := by
        rw [first.oldLines]
        exact sameStripped_refl _
      have hbody : h.hasBody = true := Hunk.hasBody_iff.2 (Or.inl first.oldLines_ne_nil)
      rw [← first.newLines]
      refine Rewrites.cons hbody first.leadsTo hstands ?_ ?_
      · exact fun hne => Block.oldLines_ne_nil blocks tail (later.blocks_ne_nil hne)
      · -- the gap and the block join the lines that were gone through
        have hfront : front.length + b.gap.length + b.removed.length
            = (front ++ (b.gap ++ b.removed)).length := by
          rw [List.length_append, List.length_append, Nat.add_assoc]
        have hlater : Patches (front ++ (b.gap ++ b.removed) ++ Block.oldLines blocks tail)
            (front ++ (b.gap ++ b.removed)).length blocks hunks := by
          rw [List.append_assoc, List.length_append]
          exact later
        rw [hfront]
        exact ih hlater

end Patches

/-- **A patch turns the old text into the new one**, and every hunk is
placed by its position, by however many lines the hunks in front of it have
shifted its block. -/
theorem applyHunks_of_patches (excerpt : Excerpt) {blocks : List Block}
    {tail : List Line} {hunks : List Hunk}
    (hold : ∀ l ∈ Block.oldLines blocks tail, '\n' ∉ l)
    (hadded : ∀ b ∈ blocks, ∀ l ∈ b.added, '\n' ∉ l)
    (hp : Patches (Block.oldLines blocks tail) 0 blocks hunks) :
    applyHunks excerpt (Text.ofLines (Block.oldLines blocks tail)) hunks
      = { content := Text.ofLines (Block.newLines blocks tail)
          strategies := List.replicate hunks.length .positional } := by
  cases hp with
  | nil => rfl
  | @cons _ b blocks h hunks first later =>
    have hp : Patches ([] ++ Block.oldLines (b :: blocks) tail) ([] : List Line).length
        (b :: blocks) (h :: hunks) := Patches.cons first later
    have hr : Rewrites 0 (Block.oldLines (b :: blocks) tail) (h :: hunks)
        (Block.newLines (b :: blocks) tail) := hp.rewrites
    have hlines := Text.lines_ofLines
      (Block.oldLines_ne_nil _ tail (List.cons_ne_nil b blocks)) hold
    rw [← hlines] at hr
    refine applyHunks_of_rewrites excerpt hr fun g hg l hl => ?_
    obtain ⟨c, hc, hnew⟩ := hp.exists_added_of_mem hg
    rw [hnew] at hl
    exact hadded c hc l hl

/-- Three blocks of seven lines. The first grows, the second goes, and the
third follows at once and ends the text. -/
def Block.drifting : List Block :=
  [{ gap := [['a']], removed := [['b']], added := [['b', '1'], ['b', '2'], ['b', '3']]
     removed_ne_nil := List.cons_ne_nil _ _ },
   { gap := [['c']], removed := [['d'], ['e'], ['f']], added := []
     removed_ne_nil := List.cons_ne_nil _ _ },
   { gap := [], removed := [['g']], added := [['G']]
     removed_ne_nil := List.cons_ne_nil _ _ }]

/-- A patch of the three blocks. Its first two hunks show context. -/
def Hunk.drifting : List Hunk :=
  [{ oldStart := 1, contextBefore := [['a']], oldLines := [['b']]
     newLines := [['b', '1'], ['b', '2'], ['b', '3']] },
   { oldStart := 3, contextBefore := [['c']], oldLines := [['d'], ['e'], ['f']]
     contextAfter := [['g']] },
   { oldStart := 7, oldLines := [['g']], newLines := [['G']] }]

/-- The second hunk finds its lines two lines further down than its header
says, the third one finds them one line further up. -/
theorem applyHunks_of_patches_drifting :
    applyHunks {} "a\nb\nc\nd\ne\nf\ng".toList Hunk.drifting
      = { content := "a\nb1\nb2\nb3\nc\nG".toList
          strategies := [.positional, .positional, .positional] } := by
  have hp : Patches (Block.oldLines Block.drifting []) 0 Block.drifting Hunk.drifting := by
    refine Patches.cons ⟨rfl, rfl, by decide, rfl, ?_⟩ (Patches.cons ⟨rfl, rfl, by decide, rfl, ?_⟩
      (Patches.cons ⟨rfl, rfl, by decide, rfl, ?_⟩ Patches.nil))
    · exact fun _ => by decide
    · exact fun _ => by decide
    · exact fun hne => absurd rfl hne
  exact applyHunks_of_patches {} (by decide) (by decide) hp

end DriftPatch
