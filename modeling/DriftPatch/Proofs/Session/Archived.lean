import DriftPatch.Proofs.Session.Final
import DriftPatch.Proofs.Session.Preview
import DriftPatch.Proofs.Session.Rejections

/-!
# What is in the archive stays there

From outside an edit may be given any status at any moment, and then the status
does not tell any more in which queue the edit is: one in the archive may be
said to wait, and one that waits to be applied. Nothing of this reaches the
archive. Operations look for an edit in the first queue alone, so one in the
archive is unknown to them, whatever its status (`Session.Refuses`), and a batch
goes over the first queue alone.

What is left for the archive is to grow at its end until all edits are
forgotten. A status given from outside changes nothing but the status, so that
apart from their status the edits of the archive are a beginning of those of any
later one (`Session.Steps.archive_grows`).
-/

namespace DriftPatch.Session

/-- The edit with the status that it had when it came into the archive. -/
def asArchived (e : Edit) : Edit :=
  { e with status := .applied }

variable {s t : Session} {e : Edit} {id : EditId} {deed : Deed} {deeds : List Deed}

/-! ## Operations on edits that are not in the first queue -/

/-- **Every operation on the edit of a name is refused**, as if there were no
edit of this name, and nothing is done or reported. -/
structure Refuses (s : Session) (id : EditId) : Prop where
  /-- It is not applied. -/
  apply : ∀ content, s.apply id content
    = { session := s, answer := false, notices := [.unknownEdit id] }
  /-- Nor is it turned down. -/
  reject : s.reject id = { session := s, answer := false, notices := [.unknownEdit id] }
  /-- Nothing is foretold of it. -/
  preview : ∀ content, s.preview id content
    = { session := s, answer := none, notices := [.unknownEdit id] }

theorem refuses_of_notMem (h : id ∉ ids s.pending) : s.Refuses id := by
  have hwaiting : s.waiting id = .error (.unknownEdit id) := by
    rw [waiting, findIn_eq_none_iff.2 h]
  exact ⟨fun _ => apply_of_error hwaiting, reject_of_error hwaiting, preview_of_error hwaiting⟩

/-! ## The archive from step to step -/

theorem asArchived_setStatus (s : Session) (id : EditId) (status : Status) :
    (s.setStatus id status).archive.map asArchived = s.archive.map asArchived := by
  unfold setStatus
  dsimp only
  split
  · rfl
  · unfold change
    rw [List.map_map]
    refine List.map_congr_left fun a _ => ?_
    show asArchived (if a.id = id then { a with status } else a) = asArchived a
    split <;> rfl

/-- **A step that forgets nothing leaves the archive as it is**, apart from
statuses, and may add to its end. -/
theorem Step.archive_grows (hstep : Step s deed t) (hkept : deed ≠ .cleared) :
    s.archive.map asArchived <+: t.archive.map asArchived := by
  cases hstep with
  | apply waits content =>
    rw [List.map_append]
    exact List.prefix_append _ _
  | clear => exact absurd rfl hkept
  | assign id status =>
    have hsame := asArchived_setStatus s id status
    exact hsame ▸ List.prefix_rfl
  | _ => exact List.prefix_rfl

theorem Steps.archive_grows (hsteps : Steps s deeds t) (hkept : .cleared ∉ deeds) :
    s.archive.map asArchived <+: t.archive.map asArchived := by
  induction hsteps with
  | nil s => exact List.prefix_rfl
  | cons first later ih =>
    rw [List.mem_cons, not_or] at hkept
    exact (first.archive_grows (Ne.symm hkept.1)).trans (ih hkept.2)

/-- **An edit of the archive is there again**, with another status at most. -/
theorem exists_mem_archive (h : s.archive.map asArchived <+: t.archive.map asArchived)
    (he : e ∈ s.archive) : ∃ status, { e with status } ∈ t.archive := by
  have hmem : asArchived e ∈ t.archive.map asArchived := h.subset (List.mem_map_of_mem he)
  obtain ⟨a, ha, hae⟩ := List.mem_map.1 hmem
  have hsame : a = { e with status := a.status } := by
    calc a = { asArchived a with status := a.status } := rfl
      _ = { asArchived e with status := a.status } := by rw [hae]
  exact ⟨a.status, hsame ▸ ha⟩

/-! ## Runs -/

/-- **What is in the archive is out of reach**, at the moment at which a session
is and while it answers some more requests. -/
structure OutOfReach (s : Session) (requests : List Request) : Prop where
  /-- Nothing is being applied. -/
  idle : s.applying = false
  /-- No name is in both queues. -/
  apart : ∀ id, ¬ (id ∈ ids s.pending ∧ id ∈ ids s.archive)
  /-- With the edits in the first queue no text is kept. -/
  unmade : ∀ e ∈ s.pending, e.result = none
  /-- Every operation on an edit of the archive is refused. -/
  refuses : ∀ e ∈ s.archive, s.Refuses e.id
  /-- Applying all edits that wait tries none of the archive, and counts those
  that it tries. -/
  applyAll : ∀ contents, ∃ attempts, s.AppliedInTurn contents attempts
    ∧ ∀ a ∈ attempts, a.edit ∈ s.pending ∧ a.edit.id ∉ ids s.archive
  /-- Turning all down goes over the first queue, and counts those that wait in
  it. -/
  rejectAll : s.rejectAll
    = { session := { s with pending := s.pending.map turnedDown }
        answer := s.waitingEdits.length
        events := s.waitingEdits.flatMap fun e => s.report (.ofReject (asRejected e))
        notices := (s.pending.filter (·.status != .pending)).map
          fun e => .notPending e.id e.status }
  /-- Until all edits are forgotten, the archive stays as it is, apart from
  statuses, and grows at its end. -/
  grows : .clear ∉ requests →
    s.archive.map asArchived <+: (s.run requests).session.archive.map asArchived
  /-- Each of its edits stays there, with another status at most. -/
  stays : .clear ∉ requests → ∀ e ∈ s.archive, ∃ status,
    { e with status } ∈ (s.run requests).session.archive
      ∧ (s.run requests).session.get? e.id = some { e with status }
  /-- None of them is in the first queue again. -/
  gone : ∀ e ∈ s.archive, e.id ∉ ids (s.run requests).session.pending

/-- A batch that applies edits tries those of the first queue. -/
theorem Sound.exists_appliedInTurn (hs : s.Sound) (contents : Option (Table Text Text)) :
    ∃ attempts, s.AppliedInTurn contents attempts
      ∧ ∀ a ∈ attempts, a.edit ∈ s.pending ∧ a.edit.id ∉ ids s.archive := by
  refine ⟨_, hs.appliedInTurn contents, fun a ha => ?_⟩
  have hwaits := (hs.due_attemptsOn contents).waits a ha
  exact ⟨hwaits.mem, fun harchive => hs.apart _ ⟨mem_ids_of_mem hwaits.mem, harchive⟩⟩

/-- An edit of the archive does not come back to the first queue: either it is
still in the archive, or its name is older than all names in the queues. -/
theorem Sound.notMem_pending_run (hs : s.Sound) (requests : List Request) (he : e ∈ s.archive) :
    e.id ∉ ids (s.run requests).session.pending := by
  have hsteps := steps_run s requests
  intro hpending
  by_cases hcleared : Deed.cleared ∈ s.history requests
  · obtain ⟨l, hl⟩ := hs.agrees
    have hnone := hsteps.get?_eq_none_of_cleared hl hcleared (List.mem_append_right _ he)
    refine get?_eq_none_iff.1 hnone ?_
    unfold edits
    rw [ids_append]
    exact List.mem_append_left _ hpending
  · obtain ⟨status, hmem⟩ := exists_mem_archive (hsteps.archive_grows hcleared) he
    have hname := mem_ids_of_mem hmem
    exact (hs.run requests).apart e.id ⟨hpending, hname⟩

theorem Sound.outOfReach (hs : s.Sound) (requests : List Request) : s.OutOfReach requests := by
  have ht := hs.run requests
  have hgrows (hkept : .clear ∉ requests) :
      s.archive.map asArchived <+: (s.run requests).session.archive.map asArchived :=
    (steps_run s requests).archive_grows fun h => hkept (cleared_mem_history_iff.1 h)
  refine ⟨hs.idle, hs.apart, hs.unmade, fun e he => ?_, hs.exists_appliedInTurn, hs.rejectAll_eq,
    hgrows, fun hkept e he => ?_, fun e he => hs.notMem_pending_run requests he⟩
  · exact refuses_of_notMem fun hpending => hs.apart e.id ⟨hpending, mem_ids_of_mem he⟩
  · obtain ⟨status, hmem⟩ := exists_mem_archive (hgrows hkept) he
    exact ⟨status, hmem, get?_of_mem ht.distinct (List.mem_append_right _ hmem)⟩

/-- **At any moment of a run the archive is out of reach**, whatever statuses are
given from outside before and after. -/
theorem run_outOfReach (settings : Settings) (level : Level) (before after : List Request) :
    ((fresh settings level).run before).session.OutOfReach after :=
  (sound_run settings level before).outOfReach after

/-- An edit that was applied is said to wait again, and all that can be done to
edits that wait is asked for. It stays what it was, and where it was. -/
example :
    ((fresh .standard .info).run
      [.submit (.text ['f']) (some { oldContent := ['a'] }), .apply (.issued 0) none,
       .setStatus (.issued 0) .pending, .applyAll none, .rejectAll, .reject (.issued 0),
       .apply (.issued 0) (some ['b'])]).session.archive
      = [{ id := .issued 0, filePath := ['f'], diff := { oldContent := ['a'] }
           status := .pending, result := some ['a'] }] := by
  decide

end DriftPatch.Session
