import DriftPatch.Proofs.Replay.Generated
import DriftPatch.Proofs.Session.Batch
import Mathlib.Data.List.Chain

/-!
# Replaying the versions of files

A file goes through some versions, and from each of them to the next leads a
**revision**. The diffs of the revisions of several files are submitted, those
of each file in order and otherwise mixed as it may be. Applying all edits
that wait then makes every version of every file in turn
(`Session.run_replays`): whether a text was given for the file or not,
each edit starts from the very version that its diff was made from.
-/

namespace DriftPatch

/-- **From one version of a file to the next.** -/
structure Revision where
  /-- The path of the file. -/
  path : Text
  /-- The version before. -/
  old : Text
  /-- The version after. -/
  new : Text
  deriving DecidableEq, Repr

namespace Revision

/-- The revisions that lead through the versions of a file. -/
def through (path : Text) (versions : List Text) : List Revision :=
  versions.zipWith (fun old new => { path, old, new }) versions.tail

/-- **Revisions that lead through the versions of all files**, mixed in any
way that keeps the order of each file. -/
def Interleave (revisions : List Revision) (versions : Text → List Text) : Prop :=
  ∀ path, revisions.filter (·.path == path) = through path (versions path)

/-- What a revision changes. -/
def diff (settings : Settings) (r : Revision) : Diff :=
  Diff.generate settings r.old r.new r.path

/-- The diff of the revision is submitted. -/
def request (settings : Settings) (r : Revision) : Request :=
  .submit (.text r.path) (some (r.diff settings))

variable {path : Text} {versions : List Text} {revisions : List Revision} {r : Revision}

theorem through_cons_cons (path old new : Text) (versions : List Text) :
    through path (old :: new :: versions)
      = { path, old, new } :: through path (new :: versions) :=
  rfl

/-- The new versions are all versions but the first. -/
theorem map_new_through (path : Text) (versions : List Text) :
    (through path versions).map (·.new) = versions.tail := by
  induction versions with
  | nil => rfl
  | cons old versions ih =>
    cases versions with
    | nil => rfl
    | cons new versions => exact congrArg (new :: ·) ih

/-- The first revision leads from the first version. -/
theorem head?_through (h : r ∈ (through path versions).head?) : versions.head? = some r.old := by
  cases versions with
  | nil => exact absurd h (Option.not_mem_none r)
  | cons old versions =>
    cases versions with
    | nil => exact absurd h (Option.not_mem_none r)
    | cons new versions =>
      obtain rfl := Option.some.inj h
      rfl

/-- **Each revision leads from where the one before it has led.** -/
theorem isChain_through (path : Text) (versions : List Text) :
    (through path versions).IsChain fun q r => q.new = r.old := by
  induction versions with
  | nil => exact List.IsChain.nil
  | cons old versions ih =>
    cases versions with
    | nil => exact List.IsChain.nil
    | cons new versions =>
      rw [through_cons_cons]
      refine List.isChain_cons.2 ⟨fun r hr => ?_, ih⟩
      exact Option.some.inj (head?_through hr)

/-- **A revision leads from the version that the latest one of its file has
led to**, or from the first version where it is the first of its file. -/
theorem Interleave.old_eq {versions : Text → List Text} {front back : List Revision}
    (h : Interleave (front ++ r :: back) versions) :
    some r.old = ((front.filter (·.path == r.path)).getLast?.map (·.new)).or
      (versions r.path).head? := by
  have hthrough := h r.path
  rw [List.filter_append, List.filter_cons_of_pos (by simp)] at hthrough
  cases hlast : (front.filter (·.path == r.path)).getLast? with
  | none =>
    rw [List.getLast?_eq_none_iff.1 hlast, List.nil_append] at hthrough
    have hfirst : r ∈ (through r.path (versions r.path)).head? := by
      rw [← hthrough]
      rfl
    exact (head?_through hfirst).symm
  | some q =>
    have hchain := isChain_through r.path (versions r.path)
    rw [← hthrough, List.isChain_append] at hchain
    exact congrArg some (hchain.2.2 q hlast r rfl).symm

end Revision

/-- **An edit makes the change of a revision.** -/
structure Edit.Revises (e : Edit) (choice : Settings) (r : Revision) : Prop where
  /-- It is an edit of the file. -/
  filePath : e.filePath = r.path
  /-- Its diff is the one between the two versions. -/
  diff : e.diff = r.diff choice

/-- **An attempt makes the version that a revision leads to.** -/
structure Attempt.Makes (a : Attempt) (r : Revision) : Prop where
  /-- It is an attempt on the file. -/
  filePath : a.edit.filePath = r.path
  /-- It succeeds. -/
  failure : a.outcome.failure = none
  /-- The text made is the version. -/
  content : a.outcome.content = r.new

/-- **Tried on the version before, the edit makes the version after.** -/
theorem Edit.Revises.makes {choice : Settings} {excerpt : Excerpt} {a : Attempt} {r : Revision}
    (h : a.edit.Revises choice r) (hbase : a.base = r.old)
    (houtcome : a.outcome = applyHunks excerpt a.base a.edit.diff.hunks) : a.Makes r := by
  rw [hbase, h.diff] at houtcome
  obtain ⟨hfailure, hcontent⟩ :=
    Diff.content_applyHunks_hunks choice excerpt r.old r.new r.path
  exact ⟨h.filePath, houtcome ▸ hfailure, houtcome ▸ hcontent⟩

namespace Session

/-- **The texts given are first versions** of their files. -/
def GivesFirst (contents : Option (Table Text Text)) (versions : Text → List Text) : Prop :=
  ∀ path text, contents.bind (·.get? path) = some text → (versions path).head? = some text

variable {s : Session} {choice : Settings} {contents : Option (Table Text Text)}
variable {attempts : List Attempt} {revisions : List Revision} {versions : Text → List Text}

/-! ## The attempts on the versions -/

/-- All of the attempts succeed. -/
theorem ok_of_makes (h : List.Forall₂ Attempt.Makes attempts revisions) :
    ∀ a ∈ attempts, a.outcome.ok = true := by
  induction h with
  | nil => exact fun _ ha => absurd ha List.not_mem_nil
  | cons ha _ ih => exact List.forall_mem_cons.2 ⟨Option.isNone_iff_eq_none.2 ha.failure, ih⟩

/-- The attempts on a file make the versions that its revisions lead to, in
order. -/
theorem filter_of_makes (h : List.Forall₂ Attempt.Makes attempts revisions) (path : Text) :
    List.Forall₂ Attempt.Makes (attempts.filter (·.edit.filePath == path))
      (revisions.filter (·.path == path)) := by
  refine List.rel_filter (fun a r ha => ?_) h
  show (a.edit.filePath == path) = true ↔ (r.path == path) = true
  rw [ha.filePath]

/-- What can be read off each of some attempts and off its version comes to the
same list. -/
theorem map_eq_map_of_makes {α : Type} {f : Attempt → α} {g : Revision → α}
    (h : List.Forall₂ Attempt.Makes attempts revisions)
    (hread : ∀ a r, Attempt.Makes a r → f a = g r) : attempts.map f = revisions.map g := by
  have hmap := List.rel_map (P := Eq) (fun a r => hread a r) h
  rwa [List.forall₂_eq_eq_eq] at hmap

/-- Of a file the latest version is the one that was made last. -/
theorem made_of_makes (h : List.Forall₂ Attempt.Makes attempts revisions) (path : Text) :
    made attempts path = (revisions.filter (·.path == path)).getLast?.map (·.new) := by
  have hfilter : (attempts.filter fun a => a.edit.filePath == path && a.outcome.ok)
      = attempts.filter (·.edit.filePath == path) :=
    List.filter_congr fun a ha => by rw [ok_of_makes h a ha, Bool.and_true]
  rw [made, hfilter, ← List.getLast?_map, ← List.getLast?_map,
    map_eq_map_of_makes (filter_of_makes h path) fun _ _ ha => ha.content]

/-- **An edit starts from the version that its diff was made from**, be a text
given for its file or not. -/
theorem startText_of_makes {front : List Attempt} {frontRevisions backRevisions : List Revision}
    {r : Revision} {e : Edit} (hmakes : List.Forall₂ Attempt.Makes front frontRevisions)
    (he : e.Revises choice r)
    (hinter : Revision.Interleave (frontRevisions ++ r :: backRevisions) versions)
    (hcontents : GivesFirst contents versions) :
    startText contents front e = r.old := by
  have hold := hinter.old_eq
  unfold startText
  rw [he.filePath, he.diff, made_of_makes hmakes]
  cases hgiven : contents.bind (·.get? r.path) with
  | none => rfl
  | some given =>
    -- The text given is the first version, and stands in where none was made.
    rw [hcontents r.path given hgiven] at hold
    dsimp only
    cases hmade : (frontRevisions.filter (·.path == r.path)).getLast?.map (·.new) with
    | none =>
      rw [hmade] at hold
      exact (Option.some.inj hold).symm
    | some text =>
      rw [hmade] at hold
      exact (Option.some.inj hold).symm

/-- **All attempts make their versions.** The induction follows the attempts
that are left; those before have made theirs. -/
theorem AppliedInTurn.makes (h : s.AppliedInTurn contents attempts)
    (hedits : List.Forall₂ (fun e => Edit.Revises e choice) s.waitingEdits revisions)
    (hinter : Revision.Interleave revisions versions)
    (hcontents : GivesFirst contents versions) :
    List.Forall₂ Attempt.Makes attempts revisions := by
  rw [← h.edits, List.forall₂_map_left_iff] at hedits
  -- What an attempt starts from is a matter of those before it, so an induction
  -- on the attempts that are left has to keep the ones before.
  suffices hrest : ∀ front frontRevisions back backRevisions,
      attempts = front ++ back → revisions = frontRevisions ++ backRevisions →
      List.Forall₂ Attempt.Makes front frontRevisions →
      List.Forall₂ (fun a r => a.edit.Revises choice r) back backRevisions →
      List.Forall₂ Attempt.Makes attempts revisions from
    hrest [] [] attempts revisions rfl rfl List.Forall₂.nil hedits
  intro front frontRevisions back backRevisions hattempts hrevisions hfront hback
  induction hback generalizing front frontRevisions with
  | nil =>
    rw [hattempts, hrevisions, List.append_nil, List.append_nil]
    exact hfront
  | @cons a r back backRevisions ha hback ih =>
    have hmem : a ∈ attempts := by
      rw [hattempts]
      exact List.mem_append_right front List.mem_cons_self
    have hbase : a.base = r.old := by
      rw [hrevisions] at hinter
      rw [h.base front a back hattempts]
      exact startText_of_makes hfront ha hinter hcontents
    have hmakes : a.Makes r := ha.makes hbase (h.outcome a hmem)
    refine ih (front ++ [a]) (frontRevisions ++ [r]) ?_ ?_ ?_
    · rw [hattempts, List.append_assoc]
      rfl
    · rw [hrevisions, List.append_assoc]
      rfl
    · exact List.rel_append hfront (List.Forall₂.cons hmakes List.Forall₂.nil)

/-! ## Submitting the revisions -/

/-- The edits that come in when the diffs of some revisions are submitted. -/
theorem run_requests_revisions (s : Session) (choice : Settings) (revisions : List Revision) :
    ∃ es, (s.run (revisions.map (·.request choice))).session
        = { s with pending := s.pending ++ es, issued := s.issued + revisions.length }
      ∧ (s.run (revisions.map (·.request choice))).answer = es.map (fun e => Answer.issued e.id)
      ∧ (∀ e ∈ es, e.status = .pending)
      ∧ List.Forall₂ (fun e r => Edit.Revises e choice r) es revisions := by
  induction revisions generalizing s with
  | nil =>
    refine ⟨[], ?_, rfl, fun _ he => absurd he List.not_mem_nil, List.Forall₂.nil⟩
    rw [List.append_nil]
    rfl
  | cons r revisions ih =>
    obtain ⟨es, hsession, hanswer, hwait, hrevise⟩ :=
      ih (s.submit r.path (r.diff choice)).session
    refine ⟨{ id := .issued s.issued, filePath := r.path, diff := r.diff choice } :: es,
      ?_, ?_, List.forall_mem_cons.2 ⟨rfl, hwait⟩, List.Forall₂.cons ⟨rfl, rfl⟩ hrevise⟩
    · refine hsession.trans ?_
      show { s with
        pending := s.pending ++ [_] ++ es, issued := s.issued + 1 + revisions.length } = _
      rw [List.append_assoc, Nat.add_assoc, Nat.add_comm 1]
      rfl
    · exact congrArg (Answer.issued (.issued s.issued) :: ·) hanswer

/-- The edits of the revisions are all that waits then, if nothing has waited
before. -/
theorem waitingEdits_append {es : List Edit} (hnone : ∀ e ∈ s.pending, e.status ≠ .pending)
    (hes : ∀ e ∈ es, e.status = .pending) (issued : Nat) :
    { s with pending := s.pending ++ es, issued }.waitingEdits = es := by
  unfold waitingEdits
  rw [List.filter_append, List.filter_eq_nil_iff.2, List.filter_eq_self.2, List.nil_append]
  · exact fun e he => beq_iff_eq.2 (hes e he)
  · exact fun e he => fun hwaits => hnone e he (beq_iff_eq.1 hwaits)

/-! ## Replaying the versions -/

/-- The diffs of some revisions are submitted, and then all edits that wait are
applied. -/
def replayed (s : Session) (choice : Settings) (revisions : List Revision)
    (contents : Option (Table Text Text)) : Effect Answer :=
  (s.run (revisions.map (·.request choice))).session.perform (.applyAll contents)

/-- **Replaying some revisions makes all versions.** -/
structure Replays (s : Session) (choice : Settings) (revisions : List Revision)
    (versions : Text → List Text) (contents : Option (Table Text Text)) : Prop where
  /-- All edits succeed. The texts that were given are as they were. -/
  answer : (s.replayed choice revisions contents).answer
    = .tally { succeeded := revisions.length, failed := 0 } contents
  /-- The edits submitted move to the archive, in order, and of each file they
  have made the versions after the first, in order. -/
  applied : ∃ applied : List Edit,
    (s.run (revisions.map (·.request choice))).answer = applied.map (fun e => .issued e.id)
    ∧ (s.replayed choice revisions contents).session.archive = s.archive ++ applied
    ∧ (∀ e ∈ applied, (s.replayed choice revisions contents).session.get? e.id = some e)
    ∧ ∀ path, (applied.filter (·.filePath == path)).map (fun e => (e.status, e.result))
      = (versions path).tail.map fun text => (.applied, some text)

/-- **In a session where nothing waits, revisions can be replayed**, whatever
was done before. -/
theorem Sound.replays (hs : s.Sound) (hnone : ∀ e ∈ s.pending, e.status ≠ .pending)
    (hinter : Revision.Interleave revisions versions)
    (hcontents : GivesFirst contents versions) :
    s.Replays choice revisions versions contents := by
  have hsound := hs.run (revisions.map (·.request choice))
  obtain ⟨es, hsession, hanswer, hwait, hrevise⟩ := run_requests_revisions s choice revisions
  have hturn := hsound.appliedInTurn contents
  generalize attemptsOn _ contents = attempts at hturn
  have hwaiting : (s.run (revisions.map (·.request choice))).session.waitingEdits = es := by
    rw [hsession]
    exact waitingEdits_append hnone hwait _
  have hmakes : List.Forall₂ Attempt.Makes attempts revisions := by
    rw [← hwaiting] at hrevise
    exact hturn.makes hrevise hinter hcontents
  have hok : ∀ a ∈ attempts, a.outcome.ok = true := ok_of_makes hmakes
  have hcount : attempts.countP (·.outcome.ok) = revisions.length := by
    rw [List.countP_eq_length.2 hok]
    exact hmakes.length_eq
  have hfailed : attempts.countP (!·.outcome.ok) = 0 :=
    List.countP_eq_zero.2 fun a ha => by simp [hok a ha]
  -- the edits as they are applied
  let applied (a : Attempt) : Edit :=
    { a.edit with status := .applied, result := some a.outcome.content, error := none }
  refine ⟨?_, attempts.map applied, ?_, ?_, ?_, fun path => ?_⟩
  · rw [replayed, hturn.answer, hcount, hfailed]
  · rw [hanswer, ← hwaiting, ← hturn.edits, List.map_map, List.map_map]
    rfl
  · rw [replayed, hturn.archive, List.filter_eq_self.2 hok, hsession]
  · rw [List.forall_mem_map]
    exact fun a ha => hturn.applied a ha (Option.isNone_iff_eq_none.1 (hok a ha))
  · have hfilter : (attempts.map applied).filter (·.filePath == path)
        = (attempts.filter (·.edit.filePath == path)).map applied :=
      List.filter_map
    rw [← Revision.map_new_through path, ← hinter path, hfilter, List.map_map, List.map_map]
    refine map_eq_map_of_makes (filter_of_makes hmakes path) fun a r ha => ?_
    exact congrArg (fun text => (Status.applied, some text)) ha.content

/-- **At any moment of a run at which nothing waits, the revisions of some files
can be replayed**, with or without the first versions of some of them. -/
theorem run_replays (settings : Settings) (level : Level) (requests : List Request)
    (choice : Settings)
    (hnone : ∀ e ∈ ((fresh settings level).run requests).session.pending, e.status ≠ .pending)
    (hinter : Revision.Interleave revisions versions)
    (hcontents : GivesFirst contents versions) :
    ((fresh settings level).run requests).session.Replays choice revisions versions contents :=
  (sound_run settings level requests).replays hnone hinter hcontents

/-- The versions of two files, one of which is empty at first. -/
def twoFiles (path : Text) : List Text :=
  if path = ['f'] then [['a'], ['b', '\n', 'c'], ['b']]
  else if path = ['g'] then [[], ['x']]
  else []

/-- The revisions of the two files. The one of the second file comes between
those of the first. -/
def twoFilesRevisions : List Revision :=
  [{ path := ['f'], old := ['a'], new := ['b', '\n', 'c'] },
   { path := ['g'], old := [], new := ['x'] },
   { path := ['f'], old := ['b', '\n', 'c'], new := ['b'] }]

/-- Of the edits of `mixedRequests` some are in the archive then, and the others
have failed or were turned down. -/
theorem run_replays_twoFiles :
    (∀ e ∈ ((fresh .standard .info).run mixedRequests.dropLast).session.pending,
      e.status ≠ .pending)
      ∧ Revision.Interleave twoFilesRevisions twoFiles
      ∧ GivesFirst (some [(['f'], ['a'])]) twoFiles
      ∧ ((fresh .standard .info).run mixedRequests.dropLast).session.Replays .standard
        twoFilesRevisions twoFiles (some [(['f'], ['a'])]) := by
  have hnone : ∀ e ∈ ((fresh .standard .info).run mixedRequests.dropLast).session.pending,
      e.status ≠ .pending := by decide
  have hinter : Revision.Interleave twoFilesRevisions twoFiles := by
    intro path
    by_cases hf : path = ['f']
    · subst hf
      decide
    by_cases hg : path = ['g']
    · subst hg
      decide
    · have hversions : twoFiles path = [] := by rw [twoFiles, if_neg hf, if_neg hg]
      rw [hversions, Revision.through, List.zipWith_nil_left, List.filter_eq_nil_iff]
      simp [twoFilesRevisions, Ne.symm hf, Ne.symm hg]
  have hfirst : GivesFirst (some [(['f'], ['a'])]) twoFiles := by
    intro path text htext
    rw [Option.bind_some, Table.get?_cons] at htext
    split at htext
    · next hf =>
      obtain rfl := Option.some.inj htext
      rw [eq_of_beq hf]
      rfl
    · exact absurd htext (Option.some_ne_none text).symm
  exact ⟨hnone, hinter, hfirst, run_replays .standard .info _ .standard hnone hinter hfirst⟩

end Session

end DriftPatch
