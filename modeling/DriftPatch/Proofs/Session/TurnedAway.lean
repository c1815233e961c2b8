import DriftPatch.Proofs.Session.Archived
import DriftPatch.Proofs.Session.Commute

/-!
# Requests that are turned away

A request that a session has no use for is answered, and that is all: the
session stays as it is, to the number it will issue next, and nothing is
reported (`Session.TurnsAway`). Each request looks before it writes. An
operation on an edit looks for one that waits, a diff is checked before it gets
a number, and a batch goes over the edits that wait and finds none.

What a request leaves behind has no use for it any more. An edit that is turned
down does not wait, and neither kind of batch leaves any edit behind that does
(`Session.Exhausted`), whatever statuses were given from outside before.
-/

namespace DriftPatch.Session

variable {s : Session} {e : Edit} {id : EditId} {request : Request} {answer : Answer}

/-- **A request is turned away** with an answer: it is answered, and nothing
else happens. -/
structure TurnsAway (s : Session) (request : Request) (answer : Answer) : Prop where
  /-- This is the answer. -/
  answer : (s.perform request).answer = answer
  /-- The session stays as it is. -/
  untouched : (s.perform request).session = s
  /-- Nothing is reported. -/
  unreported : (s.perform request).events = []

theorem turnsAway_of_eq {notices : List Notice}
    (h : s.perform request = { session := s, answer, notices }) :
    s.TurnsAway request answer := by
  refine ⟨?_, ?_, ?_⟩ <;> rw [h]

/-! ## Operations on an edit that does not wait -/

theorem noneWaits_of_notMem (h : id ∉ ids s.pending) : s.NoneWaits id := by
  rintro e he rfl
  exact absurd (mem_ids_of_mem he) h

theorem Sound.noneWaits_of_status (hs : s.Sound) (he : e ∈ s.edits)
    (hstatus : e.status ≠ .pending) : s.NoneWaits e.id := by
  intro a ha hid
  have hsame : a = e := hs.eq_of_id_eq (List.mem_append_left _ ha) he hid
  rwa [hsame]

/-- **Where no edit of a name waits, an operation on it is turned away.** -/
theorem NoneWaits.turnsAway (h : s.NoneWaits id) (x : Operation) :
    s.TurnsAway (x.on id) (refusal x) := by
  cases hwaiting : s.waiting id with
  | error notice => exact turnsAway_of_eq (perform_of_error hwaiting x)
  | ok e =>
    obtain ⟨hwaits, hid⟩ := waits_of_waiting hwaiting
    exact absurd hwaits.status (h e hwaits.mem hid)

/-- An edit that was asked to be turned down does not wait afterwards. -/
theorem Sound.noneWaits_reject (hs : s.Sound) (id : EditId) :
    (s.reject id).session.NoneWaits id := by
  cases hwaiting : s.waiting id with
  | error notice =>
    rw [reject_of_error hwaiting]
    exact hs.noneWaits_of_waiting hwaiting
  | ok e =>
    rw [reject_of_ok hwaiting]
    intro a ha hid
    obtain ⟨b, -, rfl⟩ := List.mem_map.1 ha
    by_cases hb : b.id = id
    · rw [if_pos hb]
      exact nofun
    · rw [if_neg hb] at hid
      exact absurd hid hb

/-! ## Batches that meet no edit that waits -/

/-- **Nothing is left to do**: both kinds of batches are turned away. -/
structure Exhausted (s : Session) : Prop where
  /-- No edit is applied, and none is counted. -/
  applyAll : ∀ contents, s.TurnsAway (.applyAll contents) (.tally {} contents)
  /-- No edit is turned down. -/
  rejectAll : s.TurnsAway .rejectAll (.count 0)

theorem waitingEdits_eq_nil (h : ∀ e ∈ s.pending, e.status ≠ .pending) : s.waitingEdits = [] :=
  List.filter_eq_nil_iff.2 fun e he hstatus => h e he (eq_of_beq hstatus)

/-- **Where no edit of the first queue waits, nothing is left to do.** -/
theorem Sound.exhausted (hs : s.Sound) (h : ∀ e ∈ s.pending, e.status ≠ .pending) :
    s.Exhausted := by
  have hnone : s.waitingEdits = [] := waitingEdits_eq_nil h
  have hkept : s.pending.map turnedDown = s.pending :=
    (List.map_congr_left fun e he => turnedDown_of_ne (h e he)).trans (List.map_id' _)
  constructor
  · intro contents
    have hbatch : s.applyAll contents
        = { session := s, answer := { texts := .copied contents } } := by
      show applyEach s.waitingEdits (.copied contents) s = _
      rw [hnone, applyEach]
    have hanswer := congrArg (Effect.map fun batch : Batch =>
      Answer.tally batch.tally batch.texts.given) hbatch
    exact turnsAway_of_eq hanswer
  · have hbatch := hs.rejectAll_eq
    rw [hkept, hnone] at hbatch
    exact turnsAway_of_eq (congrArg (Effect.map Answer.count) hbatch)

theorem Sound.exhausted_applyAll (hs : s.Sound) (contents : Option (Table Text Text)) :
    (s.applyAll contents).session.Exhausted :=
  (hs.run [.applyAll contents]).exhausted (hs.appliedInTurn contents).noneWaits

theorem Sound.exhausted_rejectAll (hs : s.Sound) : s.rejectAll.session.Exhausted := by
  refine (hs.run [.rejectAll]).exhausted fun e he => ?_
  rw [show (s.run [.rejectAll]).session = s.rejectAll.session from rfl, hs.rejectAll_eq] at he
  obtain ⟨a, -, rfl⟩ := List.mem_map.1 he
  unfold turnedDown
  split
  · exact nofun
  · assumption

/-! ## Runs -/

/-- **A session does nothing that it has no use for.** -/
structure Guarded (s : Session) : Prop where
  /-- An operation on an edit that is in neither queue is turned away. -/
  unknown : ∀ id, id ∉ ids s.edits → ∀ x : Operation, s.TurnsAway (x.on id) (refusal x)
  /-- So is one on an edit of the archive, whatever its status. -/
  archived : ∀ e ∈ s.archive, ∀ x : Operation, s.TurnsAway (x.on e.id) (refusal x)
  /-- So is one on an edit that does not wait, wherever it is. -/
  settled : ∀ e ∈ s.edits, e.status ≠ .pending →
    ∀ x : Operation, s.TurnsAway (x.on e.id) (refusal x)
  /-- A submission that fails its check is refused, and no number is issued. -/
  unchecked : ∀ filePath diff problems, Edit.draft filePath diff = .invalid problems →
    s.TurnsAway (.submit filePath diff) (.refused problems)
  /-- A batch is turned away where no edit of the first queue waits. -/
  idle : (∀ e ∈ s.pending, e.status ≠ .pending) → s.Exhausted
  /-- An edit is not turned down a second time. -/
  again : ∀ id, (s.perform (.reject id)).session.TurnsAway (.reject id) (.done false)
  /-- After all edits were applied nothing is left to do. -/
  applied : ∀ contents, (s.perform (.applyAll contents)).session.Exhausted
  /-- Nor is there after all were turned down. -/
  rejected : (s.perform .rejectAll).session.Exhausted

theorem Sound.guarded (hs : s.Sound) : s.Guarded where
  unknown id h x := by
    refine (noneWaits_of_notMem fun hpending => h ?_).turnsAway x
    rw [edits, ids_append]
    exact List.mem_append_left _ hpending
  archived e he x :=
    (noneWaits_of_notMem fun hpending => hs.apart e.id ⟨hpending, mem_ids_of_mem he⟩).turnsAway x
  settled e he hstatus x := (hs.noneWaits_of_status he hstatus).turnsAway x
  unchecked filePath diff problems h := by
    have hrefused : s.perform (.submit filePath diff)
        = { session := s, answer := .refused problems } := by
      rw [perform, h]
    exact turnsAway_of_eq hrefused
  idle := hs.exhausted
  again id := (hs.noneWaits_reject id).turnsAway .reject
  applied := hs.exhausted_applyAll
  rejected := hs.exhausted_rejectAll

/-- **At any moment of a run, what a session has no use for it turns away**, whatever
statuses were given from outside before. -/
theorem run_guarded (settings : Settings) (level : Level) (requests : List Request) :
    ((fresh settings level).run requests).session.Guarded :=
  (sound_run settings level requests).guarded

end DriftPatch.Session
