import DriftPatch.Proofs.Diff.Header
import DriftPatch.Proofs.Replay.Atomic

/-!
# What of a hunk has no say in placing it

A hunk is placed by the lines it removes and by its first old line, and what it
leaves behind is the lines it adds. Of the context before the change only the
number of lines is looked at, for the place behind it, and where nothing is
removed not even that. Nothing else of a hunk is looked at: not what its header
says of the new text, not its counts, and no line of its context. A hunk without
a body is passed over with all it has.

Two hunks that agree in what is looked at make the same change
(`Hunk.SameChange`), and so do two lists of hunks where the hunks with a body do
in order, with any hunks without a body among them (`Hunk.SameChanges`). Such
lists are applied to any text with the same outcome, and where they fail they
do so at the same hunk. Two diff texts that differ in nothing but the numbers of
their headers that are not looked at, and in what stands behind the headers, are
read as such lists (`applyHunks_concurs`).
-/

namespace DriftPatch

namespace Hunk

/-- **Two hunks make the same change**: they agree in all that is looked at when
they are placed. -/
structure SameChange (h g : Hunk) : Prop where
  /-- They remove the same lines. -/
  oldLines : h.oldLines = g.oldLines
  /-- They add the same lines. -/
  newLines : h.newLines = g.newLines
  /-- If they remove or add anything they start at the same line. -/
  oldStart : h.hasBody = true → h.oldStart = g.oldStart
  /-- If they remove anything they have as many lines of context before it. -/
  context : h.oldLines ≠ [] → h.contextBefore.length = g.contextBefore.length

/-- **Two lists of hunks make the same changes**: those that remove or add
anything make the same change one by one, and the others may stand anywhere. -/
inductive SameChanges : List Hunk → List Hunk → Prop
  /-- There are no hunks. -/
  | nil : SameChanges [] []
  /-- The first hunks make the same change. -/
  | cons {h g : Hunk} {hs gs : List Hunk} (first : h.SameChange g)
    (later : SameChanges hs gs) : SameChanges (h :: hs) (g :: gs)
  /-- In one list a hunk without a body comes first. -/
  | left {h : Hunk} {hs gs : List Hunk} (body : h.hasBody = false)
    (later : SameChanges hs gs) : SameChanges (h :: hs) gs
  /-- In the other one it does. -/
  | right {g : Hunk} {hs gs : List Hunk} (body : g.hasBody = false)
    (later : SameChanges hs gs) : SameChanges hs (g :: gs)

/-- **A hunk of one list and a hunk of another one are the same** but for what is
not looked at: they make the same change, and so do the hunks in front of
them. -/
structure SameIn (hs gs : List Hunk) (m n : Nat) (h g : Hunk) : Prop where
  /-- One hunk has this number. -/
  left : hs[m]? = some h
  /-- The other one has that number. -/
  right : gs[n]? = some g
  /-- They make the same change. -/
  change : h.SameChange g
  /-- There is a change to make. -/
  body : h.hasBody = true
  /-- So do the hunks in front of them. -/
  before : SameChanges (hs.take m) (gs.take n)

end Hunk

/-- **Applying one list of hunks concurs with applying another one**: it comes to
the same, and where it fails it fails at the same hunk. -/
structure Concurs (excerpt : Excerpt) (content : Text) (hs gs : List Hunk) : Prop where
  /-- Both succeed or none does. -/
  ok : (applyHunks excerpt content hs).ok = (applyHunks excerpt content gs).ok
  /-- The text is the same. -/
  text : (applyHunks excerpt content hs).content = (applyHunks excerpt content gs).content
  /-- The hunks are located in the same ways. -/
  strategies : (applyHunks excerpt content hs).strategies
    = (applyHunks excerpt content gs).strategies
  /-- Failures report the same, and they are about the same hunk, by its number
  and its name in each list. -/
  failure : ∀ f ∈ (applyHunks excerpt content hs).failure,
    ∃ f' ∈ (applyHunks excerpt content gs).failure,
      f.message = f'.message ∧ f.expected = f'.expected
        ∧ ∃ m n h g, Hunk.SameIn hs gs m n h g
          ∧ f.hunkIndex = some m ∧ f'.hunkIndex = some n
          ∧ f.hunkId = h.id ∧ f'.hunkId = g.id

variable {excerpt : Excerpt} {offset : Int} {content : Text} {h g : Hunk} {hs gs : List Hunk}
variable {i j : Nat}

/-! ## One hunk -/

namespace Hunk.SameChange

theorem hasBody (hsame : h.SameChange g) : h.hasBody = g.hasBody := by
  unfold Hunk.hasBody
  rw [hsame.oldLines, hsame.newLines]

theorem lineDelta (hsame : h.SameChange g) : h.lineDelta = g.lineDelta := by
  unfold Hunk.lineDelta
  rw [hsame.oldLines, hsame.newLines]

theorem anchors (hsame : h.SameChange g) (hbody : h.hasBody = true) (offset : Int) :
    h.anchors offset = g.anchors offset := by
  unfold Hunk.anchors
  rw [hsame.oldStart hbody, hsame.oldLines]
  dsimp only
  split
  · rfl
  · next hold =>
    -- there is context in both hunks or in none
    have hlength := hsame.context (hsame.oldLines ▸ hold)
    have hnone : h.contextBefore = [] ↔ g.contextBefore = [] := by
      rw [← List.length_eq_zero_iff, hlength, List.length_eq_zero_iff]
    simp only [hlength, hnone]

/-- **Hunks that make the same change have the same place.** -/
theorem place? (hsame : h.SameChange g) (hbody : h.hasBody = true) (offset : Int)
    (content : Text) : h.place? offset content = g.place? offset content := by
  unfold Hunk.place? placePositional? placeSubstring? placeNormalized?
  rw [hsame.anchors hbody, hsame.oldLines, hsame.newLines]

/-- Applied to the same text they come to the same, and if they fail each of them
reports itself. -/
theorem applyTo (hsame : h.SameChange g) (excerpt : Excerpt) (offset : Int) (content : Text) :
    (h.applyTo excerpt offset content).ok = true
        ∧ h.applyTo excerpt offset content = g.applyTo excerpt offset content
      ∨ h.hasBody = true ∧ (h.applyTo excerpt offset content).ok = false
        ∧ (g.applyTo excerpt offset content).ok = false := by
  have hg := hsame.hasBody
  rcases h.applyTo_cases excerpt offset content with
    ⟨hbody, e⟩ | ⟨hbody, strategy, text, hplace, e⟩ | ⟨hbody, hplace, e⟩
  · rw [hbody] at hg
    rw [e, Hunk.applyTo, ← hg]
    exact Or.inl ⟨rfl, rfl⟩
  · rw [hsame.place? hbody] at hplace
    rw [hbody] at hg
    rw [e, Hunk.applyTo, ← hg, hplace]
    exact Or.inl ⟨rfl, rfl⟩
  · rw [hsame.place? hbody] at hplace
    refine Or.inr ⟨hbody, by rw [e]; rfl, ?_⟩
    rw [hbody] at hg
    rw [Hunk.applyTo, ← hg, hplace]
    rfl

/-- What is shown of the lines looked for is the same. -/
theorem expected (hsame : h.SameChange g) (excerpt : Excerpt) :
    (h.failure excerpt).expected = (g.failure excerpt).expected :=
  congrArg excerpt.of hsame.oldLines

end Hunk.SameChange

/-! ## Runs -/

namespace Hunk.SameIn

variable {m n : Nat} {a b : Hunk}

theorem cons (hsame : SameIn hs gs m n a b) (hfirst : h.SameChange g) :
    SameIn (h :: hs) (g :: gs) (m + 1) (n + 1) a b :=
  ⟨hsame.left, hsame.right, hsame.change, hsame.body, .cons hfirst hsame.before⟩

theorem consLeft (hsame : SameIn hs gs m n a b) (hbody : h.hasBody = false) :
    SameIn (h :: hs) gs (m + 1) n a b :=
  ⟨hsame.left, hsame.right, hsame.change, hsame.body, .left hbody hsame.before⟩

theorem consRight (hsame : SameIn hs gs m n a b) (hbody : g.hasBody = false) :
    SameIn hs (g :: gs) m (n + 1) a b :=
  ⟨hsame.left, hsame.right, hsame.change, hsame.body, .right hbody hsame.before⟩

end Hunk.SameIn

/-- **Two runs come to the same**, one through the hunks `hs`, which are numbered
from `i` on, and one through the hunks `gs`, which are numbered from `j` on. -/
inductive SameRun (excerpt : Excerpt) (hs gs : List Hunk) (i j : Nat) : Outcome → Outcome → Prop
  /-- All hunks are placed. -/
  | placed (o : Outcome) (ok : o.ok = true) : SameRun excerpt hs gs i j o o
  /-- They stop at the same hunk. -/
  | stopped (o : Outcome) {m n : Nat} {h g : Hunk} (same : Hunk.SameIn hs gs m n h g) :
    SameRun excerpt hs gs i j
      { o with failure := some { h.failure excerpt with hunkIndex := some (i + m) } }
      { o with failure := some { g.failure excerpt with hunkIndex := some (j + n) } }

namespace SameRun

variable {o p : Outcome}

/-- What was placed before is the same in both runs. -/
theorem followedBy (hrun : SameRun excerpt hs gs i j o p) (first : Outcome) :
    SameRun excerpt hs gs i j (first.followedBy o) (first.followedBy p) := by
  cases hrun with
  | placed o ok => exact placed _ ok
  | stopped o same => exact stopped (first.followedBy o) same

theorem cons (hrun : SameRun excerpt hs gs (i + 1) (j + 1) o p) (hfirst : h.SameChange g) :
    SameRun excerpt (h :: hs) (g :: gs) i j o p := by
  cases hrun with
  | placed o ok => exact placed _ ok
  | stopped o same =>
    rw [Nat.add_right_comm i, Nat.add_right_comm j]
    exact stopped o (same.cons hfirst)

theorem consLeft (hrun : SameRun excerpt hs gs (i + 1) j o p) (hbody : h.hasBody = false) :
    SameRun excerpt (h :: hs) gs i j o p := by
  cases hrun with
  | placed o ok => exact placed _ ok
  | stopped o same =>
    rw [Nat.add_right_comm i]
    exact stopped o (same.consLeft hbody)

theorem consRight (hrun : SameRun excerpt hs gs i (j + 1) o p) (hbody : g.hasBody = false) :
    SameRun excerpt hs (g :: gs) i j o p := by
  cases hrun with
  | placed o ok => exact placed _ ok
  | stopped o same =>
    rw [Nat.add_right_comm j]
    exact stopped o (same.consRight hbody)

end SameRun

/-- A run passes over a hunk without a body. -/
theorem runHunks_cons_of_not_hasBody (hbody : h.hasBody = false) (rest : List Hunk) :
    runHunks excerpt i offset content (h :: rest)
      = runHunks excerpt (i + 1) offset content rest := by
  have hnone : h.oldLines = [] ∧ h.newLines = [] := by
    rw [← Bool.not_eq_true, Hunk.hasBody_iff, not_or, not_not, not_not] at hbody
    exact hbody
  have hdelta : h.lineDelta = 0 := by
    rw [Hunk.lineDelta, hnone.1, hnone.2]
    rfl
  have happly : h.applyTo excerpt offset content = { content } := by
    rw [Hunk.applyTo, hbody]
    rfl
  rw [runHunks_cons, happly, hdelta, Int.add_zero]
  rfl

/-- **Hunks that make the same changes are gone through alike.** The induction
follows the two lists; a hunk without a body moves the numbers on in its list
only, and the text and the offset in none. -/
theorem sameRun_of_sameChanges (hsame : Hunk.SameChanges hs gs) (i j : Nat) (offset : Int)
    (content : Text) :
    SameRun excerpt hs gs i j (runHunks excerpt i offset content hs)
      (runHunks excerpt j offset content gs) := by
  induction hsame generalizing i j offset content with
  | nil => exact .placed _ rfl
  | @cons h g hs gs first later ih =>
    rw [runHunks_cons, runHunks_cons]
    rcases first.applyTo excerpt offset content with ⟨hok, hequal⟩ | ⟨hbody, hstop, hstop'⟩
    · rw [← hequal, if_pos hok, if_pos hok, ← first.lineDelta]
      exact ((ih _ _ _ _).cons first).followedBy _
    · rw [if_neg (Bool.eq_false_iff.1 hstop), if_neg (Bool.eq_false_iff.1 hstop')]
      exact SameRun.stopped (m := 0) (n := 0) { content } ⟨rfl, rfl, first, hbody, .nil⟩
  | left hbody later ih =>
    rw [runHunks_cons_of_not_hasBody hbody]
    exact (ih _ _ _ _).consLeft hbody
  | right hbody later ih =>
    rw [runHunks_cons_of_not_hasBody hbody]
    exact (ih _ _ _ _).consRight hbody

/-- Hunks through which a run fails, applied to a text. -/
theorem applyHunks_of_failure {failure : Failure}
    (hfailure : (runHunks excerpt 0 0 content hs).failure = some failure) :
    applyHunks excerpt content hs
      = { content
          strategies := (runHunks excerpt 0 0 content hs).strategies
          failure := some failure } := by
  have hok : (runHunks excerpt 0 0 content hs).ok = false := by
    rw [Outcome.ok, hfailure]
    rfl
  rw [← hfailure]
  exact if_neg (Bool.eq_false_iff.1 hok)

/-- **Hunks that make the same changes are applied alike.** -/
theorem concurs_of_sameChanges (excerpt : Excerpt) (content : Text)
    (hsame : Hunk.SameChanges hs gs) : Concurs excerpt content hs gs := by
  have hrun : SameRun excerpt hs gs 0 0 _ _ := sameRun_of_sameChanges hsame 0 0 0 content
  generalize hleft : runHunks excerpt 0 0 content hs = o at hrun
  generalize hright : runHunks excerpt 0 0 content gs = p at hrun
  cases hrun with
  | placed o ok =>
    have hequal : applyHunks excerpt content hs = applyHunks excerpt content gs := by
      rw [applyHunks_of_ok (hleft ▸ ok), applyHunks_of_ok (hright ▸ ok), hleft, hright]
    have hnone : (applyHunks excerpt content hs).failure = none := by
      rw [applyHunks_of_ok (hleft ▸ ok), hleft]
      exact Option.isNone_iff_eq_none.1 ok
    refine ⟨by rw [hequal], by rw [hequal], by rw [hequal], ?_⟩
    rw [hnone]
    exact nofun
  | @stopped o m n h g same =>
    have hall := applyHunks_of_failure (congrArg Outcome.failure hleft)
    have hall' := applyHunks_of_failure (congrArg Outcome.failure hright)
    have hexpected := same.change.expected excerpt
    rw [hleft, Nat.zero_add] at hall
    rw [hright, Nat.zero_add] at hall'
    refine ⟨by rw [hall, hall']; rfl, by rw [hall, hall'], by rw [hall, hall'], fun f hf => ?_⟩
    rw [hall] at hf
    rw [← Option.some.inj hf, hall']
    refine ⟨_, rfl, ?_, hexpected, m, n, h, g, same, rfl, rfl, rfl, rfl⟩
    unfold Failure.message
    dsimp only
    rw [hexpected]

/-! ## Diff texts -/

open Diff

/-- **Two lines of diff text say the same** but for numbers that are not looked
at: they are the same line, or both are headers, with the same first old line. -/
def SameLine (l m : Line) : Prop :=
  l = m ∨ ∃ v w, Header.written? l = some v ∧ Header.written? m = some w
    ∧ v.old.start = w.old.start

/-- Two meanings of lines of which this holds. -/
def SameMeaning (d e : DiffLine) : Prop :=
  d = e ∨ ∃ v w : Header, d = .header v ∧ e = .header w ∧ v.oldStart = w.oldStart

/-- A header that is read starts where it says. -/
theorem Header.read_start {v : Written} {header : Header} (h : v.read = .ok header) :
    Numeral.read v.old.start = .ok header.oldStart := by
  obtain ⟨hread, rfl⟩ := Written.read_eq_ok_iff.1 h
  exact Numeral.read_eq_ok_iff.2 ⟨(Written.isReadable_iff.1 hread).1, rfl⟩

theorem sameMeaning_of_sameLine {l m : Line} {d e : DiffLine} (hsame : SameLine l m)
    (hl : DiffLine.read l = .ok d) (hm : DiffLine.read m = .ok e) : SameMeaning d e := by
  rcases hsame with rfl | ⟨v, w, hv, hw, hstart⟩
  · rw [hl] at hm
    exact Or.inl (Except.ok.inj hm)
  · obtain ⟨header, hread, rfl⟩ := DiffLine.exists_of_read hv hl
    obtain ⟨header', hread', rfl⟩ := DiffLine.exists_of_read hw hm
    have hstarts := (Header.read_start hread).symm.trans
      ((congrArg Numeral.read hstart).trans (Header.read_start hread'))
    exact Or.inr ⟨header, header', rfl, rfl, Except.ok.inj hstarts⟩

theorem sameMeaning_of_mapM {ls ms : List Line} {ds es : List DiffLine}
    (hsame : List.Forall₂ SameLine ls ms) (hls : ls.mapM DiffLine.read = .ok ds)
    (hms : ms.mapM DiffLine.read = .ok es) : List.Forall₂ SameMeaning ds es := by
  induction hsame generalizing ds es with
  | nil =>
    cases hls
    cases hms
    exact .nil
  | cons first later ih =>
    rw [List.mapM_cons] at hls hms
    obtain ⟨d, hd, hls⟩ := exists_ok_of_bind hls
    obtain ⟨ds, hds, hls⟩ := exists_ok_of_bind hls
    obtain ⟨e, he, hms⟩ := exists_ok_of_bind hms
    obtain ⟨es, hes, hms⟩ := exists_ok_of_bind hms
    cases hls
    cases hms
    exact .cons (sameMeaning_of_sameLine first hd he) (ih hds hes)

theorem sameChange_toHunk {v w : Header} (hstart : v.oldStart = w.oldStart) (b : HunkBody) :
    (b.toHunk v).SameChange (b.toHunk w) :=
  ⟨rfl, rfl, fun _ => congrArg (fun n : Nat => (n : Int)) hstart, fun _ => rfl⟩

/-- **From such lines the same changes are gathered**, and the same body stands
before the first header. -/
theorem sameChanges_gather {ds es : List DiffLine} (hsame : List.Forall₂ SameMeaning ds es) :
    (gather ds).1 = (gather es).1 ∧ Hunk.SameChanges (gather ds).2 (gather es).2 := by
  induction hsame with
  | nil => exact ⟨rfl, .nil⟩
  | @cons d e ds es first later ih =>
    obtain ⟨hbody, hhunks⟩ := ih
    have hheader {v w : Header} (hstart : v.oldStart = w.oldStart) :
        (gather (.header v :: ds)).1 = (gather (.header w :: es)).1
          ∧ Hunk.SameChanges (gather (.header v :: ds)).2 (gather (.header w :: es)).2 := by
      rw [gather, gather]
      dsimp only
      rw [hbody]
      exact ⟨rfl, .cons (sameChange_toHunk hstart _) hhunks⟩
    rcases first with rfl | ⟨v, w, rfl, rfl, hstart⟩
    · cases d with
      | header header => exact hheader rfl
      | removed line => exact ⟨congrArg (HunkBody.consRemoved line) hbody, hhunks⟩
      | added line => exact ⟨congrArg (HunkBody.consAdded line) hbody, hhunks⟩
      | context line => exact ⟨congrArg (HunkBody.consContext line) hbody, hhunks⟩
      | other => exact ⟨hbody, hhunks⟩
    · exact hheader hstart

/-- **Texts that say the same are read as hunks that make the same changes**, if
both can be read. -/
theorem sameChanges_of_parse {t u : Text} {d e : Diff}
    (hsame : List.Forall₂ SameLine (textLines t) (textLines u)) (hd : parse t = .ok d)
    (he : parse u = .ok e) : Hunk.SameChanges d.hunks e.hunks := by
  unfold parse parseHunks at hd he
  obtain ⟨_, hhunks, hd⟩ := exists_ok_of_bind hd
  obtain ⟨ds, hds, hgather⟩ := exists_ok_of_bind hhunks
  obtain ⟨_, hhunks', he⟩ := exists_ok_of_bind he
  obtain ⟨es, hes, hgather'⟩ := exists_ok_of_bind hhunks'
  cases hgather
  cases hgather'
  cases hd
  cases he
  exact (sameChanges_gather (sameMeaning_of_mapM hsame hds hes)).2

/-- **What is not looked at has no say.** Lists of hunks that make the same changes
are applied to any text alike. So are two diff texts that can be read and say the
same line by line, but for numbers of their headers that are not looked at and for
what stands behind the headers. -/
theorem applyHunks_concurs (excerpt : Excerpt) (content : Text) :
    (∀ hs gs, Hunk.SameChanges hs gs → Concurs excerpt content hs gs)
      ∧ ∀ t u d e, List.Forall₂ SameLine (textLines t) (textLines u) →
        parse t = .ok d → parse u = .ok e → Concurs excerpt content d.hunks e.hunks :=
  ⟨fun _ _ hsame => concurs_of_sameChanges excerpt content hsame,
    fun _ _ _ _ hsame hd he =>
      concurs_of_sameChanges excerpt content (sameChanges_of_parse hsame hd he)⟩

/-- Two hunks of which the second one cannot be placed behind the first one. -/
def bareHunks : List Hunk :=
  [{ oldLines := [['a']], newLines := [['b']] }, { oldLines := [['a']] }]

/-- The same two hunks with other counts and context, among hunks without a
body. -/
def dressedHunks : List Hunk :=
  [{ oldStart := 9, contextBefore := [['x']] },
   { oldCount := 5, newStart := 7, oldLines := [['a']], newLines := [['b']],
     contextAfter := [['y']] },
   { newCount := 3 },
   { oldLines := [['a']], newCount := 4 }]

/-- The text of a diff whose header has little to say. -/
def bareText : Text :=
  Text.ofLines (["@@ -2 +2 @@", " x", "-a", "+b"].map String.toList)

/-- A text with another header over the same lines. -/
def dressedText : Text :=
  Text.ofLines (["@@ -2,0 +7,9 @@ def f", " x", "-a", "+b"].map String.toList)

/-- What is read from the first text. -/
def bareDiff : Diff where
  hunks := [{ oldStart := 2, oldCount := 1, newStart := 2, newCount := 1, oldLines := [['a']],
              newLines := [['b']], contextBefore := [['x']] }]

/-- What is read from the second text. -/
def dressedDiff : Diff where
  hunks := [{ oldStart := 2, oldCount := 0, newStart := 7, newCount := 9, oldLines := [['a']],
              newLines := [['b']], contextBefore := [['x']] }]

/-- The hunk that fails has another number in each list, and the texts are read as
different hunks that do the same. -/
theorem applyHunks_concurs_dressed :
    Hunk.SameChanges bareHunks dressedHunks
      ∧ (applyHunks {} ['a'] bareHunks).failure.bind (·.hunkIndex) = some 1
      ∧ (applyHunks {} ['a'] dressedHunks).failure.bind (·.hunkIndex) = some 3
      ∧ Concurs {} ['a'] bareHunks dressedHunks
      ∧ List.Forall₂ SameLine (textLines bareText) (textLines dressedText)
      ∧ parse bareText = .ok bareDiff ∧ parse dressedText = .ok dressedDiff
      ∧ Concurs {} ['x', '\n', 'a'] bareDiff.hunks dressedDiff.hunks := by
  have hchanges : Hunk.SameChanges bareHunks dressedHunks :=
    .right rfl (.cons ⟨rfl, rfl, fun _ => rfl, fun _ => rfl⟩
      (.right rfl (.cons ⟨rfl, rfl, fun _ => rfl, fun _ => rfl⟩ .nil)))
  have hlines : List.Forall₂ SameLine (textLines bareText) (textLines dressedText) :=
    .cons (Or.inr ⟨_, _, rfl, rfl, rfl⟩)
      (.cons (Or.inl rfl) (.cons (Or.inl rfl) (.cons (Or.inl rfl) .nil)))
  have hbare : parse bareText = .ok bareDiff := by decide +kernel
  have hdressed : parse dressedText = .ok dressedDiff := by decide +kernel
  exact ⟨hchanges, by decide, by decide, (applyHunks_concurs {} ['a']).1 _ _ hchanges, hlines,
    hbare, hdressed, (applyHunks_concurs {} ['x', '\n', 'a']).2 _ _ _ _ hlines hbare hdressed⟩

end DriftPatch
