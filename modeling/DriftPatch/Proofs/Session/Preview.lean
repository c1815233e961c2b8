import DriftPatch.Proofs.Session.Attempt

/-!
# Trying an edit out

Trying an edit out answers with what applying it to the same text would come
to, and leaves the session alone. The two requests look for the edit in the
same way and place its hunks in the same way, so an outcome that is foretold
is the one that comes about (`Session.run_foretells`): the text foretold is
the one kept with the edit, the failure foretold is the one that is reported
of it. Where nothing is foretold, applying is refused, and only there.
-/

namespace DriftPatch

/-- Whether a notice says that a request for an edit was refused. -/
def Notice.isRefusal : Notice → Bool
  | .unknownEdit _ | .notPending .. => true
  | _ => false

namespace Session

variable {s : Session} {e : Edit} {id : EditId} {content : Option Text} {o : Outcome}

/-! ## Refusals -/

/-- **No edit of a name waits**: there is none in the first queue, or the one
that is there has been settled. -/
def NoneWaits (s : Session) (id : EditId) : Prop :=
  ∀ e ∈ s.pending, e.id = id → e.status ≠ .pending

theorem isRefusal_of_waiting {notice : Notice} (h : s.waiting id = .error notice) :
    notice.isRefusal = true := by
  unfold waiting at h
  split at h
  · rw [← Except.error.inj h]
    rfl
  · split at h
    · exact nomatch h
    · rw [← Except.error.inj h]
      rfl

theorem Sound.noneWaits_of_waiting {notice : Notice} (hs : s.Sound)
    (h : s.waiting id = .error notice) : s.NoneWaits id := by
  rintro e he rfl hstatus
  rw [hs.waiting_of_waits ⟨he, hstatus⟩] at h
  exact nomatch h

theorem isRefusal_ofHunk (h : Hunk) (o : Outcome) : (Notice.ofHunk h o).isRefusal = false := by
  unfold Notice.ofHunk
  split
  · rfl
  · split <;> rfl

/-- **An edit that waits is not refused**: neither the placing of its hunks nor
a failure is noticed in this way. -/
theorem Sound.isRefusal_of_mem_notices (hs : s.Sound) (hwaits : s.Waits e) {notice : Notice}
    (h : notice ∈ (s.apply e.id content).notices) : notice.isRefusal = false := by
  rw [hs.apply_eq hwaits] at h
  rcases List.mem_append.1 h with h | h
  · obtain ⟨⟨hunk, outcome⟩, -, rfl⟩ := List.mem_map.1 h
    exact isRefusal_ofHunk hunk outcome
  · unfold Attempt.regret at h
    split at h
    · exact absurd h List.not_mem_nil
    · rw [List.mem_singleton.1 h]
      rfl

/-! ## What is foretold -/

theorem preview_of_error {notice : Notice} (h : s.waiting id = .error notice)
    (content : Option Text) :
    s.preview id content = { session := s, answer := none, notices := [notice] } := by
  rw [preview, h]

theorem preview_of_ok (h : s.waiting id = .ok e) (content : Option Text) :
    s.preview id content
      = { session := s
          answer := some (s.outcomeOf e content)
          notices := s.noticesOf e content } := by
  rw [preview, h]

/-- **An outcome comes true** for an edit that waits, when the edit is applied:
the text, the failure and the ways in which hunks were located are those of
the outcome. -/
inductive ComesTrue (s : Session) (e : Edit) (content : Option Text) (o : Outcome) : Prop
  /-- The edit is applied, and the text is kept with it. -/
  | applied (ok : o.failure = none) (answer : (s.apply e.id content).answer = true)
    (kept : (s.apply e.id content).session.get? e.id
      = some { e with status := .applied, result := some o.content, error := none })
    (events : (s.apply e.id content).events
      = s.report
        { kind := .applied
          editId := some e.id
          filePath := some e.filePath
          status := some .applied
          strategies := some (o.strategies.map (·.word)) })
  /-- The edit fails, and the report of the failure is kept with it. -/
  | failed {failure : Failure} (fails : o.failure = some failure)
    (answer : (s.apply e.id content).answer = false)
    (kept : (s.apply e.id content).session.get? e.id
      = some { e with status := .failed, result := none, error := some failure.message })
    (events : (s.apply e.id content).events
      = s.report
        { kind := .failed
          editId := some e.id
          filePath := some e.filePath
          status := some .failed
          hunkId := some failure.hunkId
          hunkIndex := failure.hunkIndex.map fun (n : Nat) => (n : Int)
          expected := some failure.expected })

theorem ComesTrue.answer_eq (h : s.ComesTrue e content o) :
    (s.apply e.id content).answer = o.ok := by
  unfold Outcome.ok
  cases h with
  | applied ok answer => rw [answer, ok]; rfl
  | failed fails answer => rw [answer, fails]; rfl

/-- **What applying an edit that waits comes to comes true.** -/
theorem Sound.comesTrue (hs : s.Sound) (hwaits : s.Waits e) (content : Option Text) :
    s.ComesTrue e content (s.outcomeOf e content) := by
  have happly := hs.apply_eq hwaits content
  have hfound := hs.get?_settle hwaits (baseText e content)
  cases hfailure : (s.outcomeOf e content).failure with
  | none =>
    have hnone : (s.attempt e (baseText e content)).outcome.failure = none := hfailure
    rw [Attempt.settled_of_none hnone] at hfound
    refine ComesTrue.applied hfailure ?_ ?_ ?_
    · rw [happly]
      exact Option.isNone_iff_eq_none.2 hnone
    · rw [happly]
      exact hfound
    · rw [happly, tried, Attempt.event_of_none hnone]
      rfl
  | some failure =>
    have hsome : (s.attempt e (baseText e content)).outcome.failure = some failure := hfailure
    rw [hs.settled_of_some hwaits hsome] at hfound
    refine ComesTrue.failed hfailure ?_ ?_ ?_
    · rw [happly, tried, Outcome.ok, hsome]
      rfl
    · rw [happly]
      exact hfound
    · rw [happly, tried, Attempt.event_of_some hsome]
      rfl

/-- **Trying an edit out tells what applying it comes to**, and changes
nothing. -/
structure Foretells (s : Session) (id : EditId) (content : Option Text) : Prop where
  /-- The session stays as it is. -/
  untouched : (s.preview id content).session = s
  /-- Nothing is reported. -/
  unreported : (s.preview id content).events = []
  /-- Nothing is foretold exactly if applying is refused. -/
  refused : (s.preview id content).answer = none
    ↔ ∃ notice ∈ (s.apply id content).notices, notice.isRefusal = true
  /-- It is refused exactly if no edit of the name waits. -/
  noneWaits : (s.preview id content).answer = none ↔ s.NoneWaits id
  /-- An outcome that is foretold says whether the edit is applied. -/
  answer : ∀ o, (s.preview id content).answer = some o → (s.apply id content).answer = o.ok
  /-- It comes true. -/
  comesTrue : ∀ o, (s.preview id content).answer = some o →
    ∃ e, s.Waits e ∧ e.id = id ∧ s.ComesTrue e content o

theorem Sound.foretells (hs : s.Sound) (id : EditId) (content : Option Text) :
    s.Foretells id content := by
  cases hwaiting : s.waiting id with
  | error notice =>
    have hpreview := preview_of_error hwaiting content
    have hnone : (s.preview id content).answer = none := by rw [hpreview]
    have hrefused : ∃ n ∈ (s.apply id content).notices, n.isRefusal = true := by
      rw [apply_of_error hwaiting]
      exact ⟨notice, List.mem_singleton_self notice, isRefusal_of_waiting hwaiting⟩
    refine ⟨by rw [hpreview], by rw [hpreview], iff_of_true hnone hrefused,
      iff_of_true hnone (hs.noneWaits_of_waiting hwaiting), ?_, ?_⟩
    · rw [hnone]
      exact nofun
    · rw [hnone]
      exact nofun
  | ok e =>
    obtain ⟨hwaits, rfl⟩ := waits_of_waiting hwaiting
    have hpreview := preview_of_ok hwaiting content
    have hsome : (s.preview e.id content).answer = some (s.outcomeOf e content) := by
      rw [hpreview]
    have hne : (s.preview e.id content).answer ≠ none := by
      rw [hsome]
      exact Option.some_ne_none _
    have htrue : ∀ o, (s.preview e.id content).answer = some o → s.ComesTrue e content o := by
      intro o ho
      rw [hsome, Option.some.injEq] at ho
      rw [← ho]
      exact hs.comesTrue hwaits content
    refine ⟨by rw [hpreview], by rw [hpreview], iff_of_false hne ?_, iff_of_false hne ?_,
      fun o ho => (htrue o ho).answer_eq, fun o ho => ⟨e, hwaits, rfl, htrue o ho⟩⟩
    · rintro ⟨notice, hnotice, hrefusal⟩
      rw [hs.isRefusal_of_mem_notices hwaits hnotice] at hrefusal
      exact Bool.false_ne_true hrefusal
    · exact fun hnone => hnone e hwaits.mem rfl hwaits.status

/-- **At any moment of a run an edit that is tried out foretells what applying
it comes to**, whatever was done to the session before. -/
theorem run_foretells (settings : Settings) (level : Level) (requests : List Request)
    (id : EditId) (content : Option Text) :
    ((fresh settings level).run requests).session.Foretells id content :=
  (sound_run settings level requests).foretells id content

end Session

end DriftPatch
