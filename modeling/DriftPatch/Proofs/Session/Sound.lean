import DriftPatch.Proofs.Session.Orderly

/-!
# What holds whatever is done from outside

A status that is given from outside may be at odds with the queue that the
edit is in, and with what is kept with the edit. Three things hold all the
same (`Session.Sound`): every edit has its own name, no text is kept with an
edit of the first queue, and nothing is being applied. They hold of a session
that is just beginning and every step keeps them, so they hold after every
run.
-/

namespace DriftPatch.Session

/-- **What holds of a session in every run.** -/
structure Sound (s : Session) : Prop where
  /-- Its queues agree with what it has told. -/
  agrees : ∃ l, s.Agrees l
  /-- With the edits in the first queue no text is kept. -/
  unmade : ∀ e ∈ s.pending, e.result = none
  /-- None is being applied. -/
  idle : s.applying = false

variable {s t : Session} {e a : Edit} {id : EditId}

/-- In the first queue, giving a status leaves what is kept with an edit, and
nothing else is done to it. -/
theorem exists_of_mem_pending_setStatus {status : Status}
    (h : e ∈ (s.setStatus id status).pending) : ∃ a ∈ s.pending, e.result = a.result := by
  unfold setStatus at h
  dsimp only at h
  split at h
  · obtain ⟨a, ha, rfl⟩ := List.mem_map.1 h
    refine ⟨a, ha, ?_⟩
    split <;> rfl
  · exact ⟨e, h, rfl⟩

theorem applying_setStatus (s : Session) (id : EditId) (status : Status) :
    (s.setStatus id status).applying = s.applying := by
  unfold setStatus
  dsimp only
  split <;> rfl

namespace Sound

theorem distinct (h : s.Sound) : (ids s.edits).Nodup := by
  obtain ⟨l, hl⟩ := h.agrees
  exact hl.nodup

theorem nodup_pending (h : s.Sound) : (ids s.pending).Nodup := by
  have hall := h.distinct
  unfold edits at hall
  rw [ids_append] at hall
  exact (List.nodup_append'.1 hall).1

/-- No name is in both queues. -/
theorem apart (h : s.Sound) (id : EditId) : ¬ (id ∈ ids s.pending ∧ id ∈ ids s.archive) := by
  have hall := h.distinct
  unfold edits at hall
  rw [ids_append] at hall
  exact fun hboth => (List.nodup_append'.1 hall).2.2 hboth.1 hboth.2

/-- Of two edits in a session the same one is meant by the same name. -/
theorem eq_of_id_eq (h : s.Sound) (he : e ∈ s.edits) (ha : a ∈ s.edits) (hid : e.id = a.id) :
    e = a := by
  obtain ⟨l, hl⟩ := h.agrees
  exact hl.eq_of_id_eq he ha hid

/-- **An edit that waits is found by its name.** -/
theorem waiting_of_waits (h : s.Sound) (hwaits : s.Waits e) : s.waiting e.id = .ok e := by
  rw [waiting, findIn_of_mem h.nodup_pending hwaits.mem]
  exact if_pos hwaits.status

/-- **Every step keeps a session sound**, also one that comes from outside. -/
theorem step {deed : Deed} (h : s.Sound) (hstep : Step s deed t) : t.Sound := by
  obtain ⟨l, hl⟩ := h.agrees
  have hagrees : ∃ l, t.Agrees l := ⟨l.enter deed, hl.step hstep⟩
  cases hstep with
  | idle settings level => exact ⟨hagrees, h.unmade, h.idle⟩
  | submit filePath diff =>
    exact ⟨hagrees, List.forall_mem_append.2 ⟨h.unmade, List.forall_mem_singleton.2 rfl⟩, h.idle⟩
  | apply waits content =>
    exact ⟨hagrees, fun a ha => h.unmade a (List.mem_of_mem_filter ha), rfl⟩
  | @fail e waits failure =>
    have hresult : (asFailed e failure).result = none := h.unmade e waits.mem
    exact ⟨hagrees, forall_mem_change hresult h.unmade, rfl⟩
  | @reject e waits =>
    have hresult : (asRejected e).result = none := h.unmade e waits.mem
    exact ⟨hagrees, forall_mem_change hresult h.unmade, h.idle⟩
  | clear => exact ⟨hagrees, fun _ ha => absurd ha List.not_mem_nil, h.idle⟩
  | assign id status =>
    refine ⟨hagrees, fun a ha => ?_, (applying_setStatus s id status).trans h.idle⟩
    obtain ⟨b, hb, hresult⟩ := exists_of_mem_pending_setStatus ha
    exact hresult.trans (h.unmade b hb)

theorem steps {deeds : List Deed} (h : s.Sound) (hsteps : Steps s deeds t) : t.Sound := by
  induction hsteps with
  | nil s => exact h
  | cons first later ih => exact ih (h.step first)

theorem run (h : s.Sound) (requests : List Request) : (s.run requests).session.Sound :=
  h.steps (steps_run s requests)

end Sound

theorem sound_fresh (settings : Settings) (level : Level) : (fresh settings level).Sound :=
  ⟨⟨{}, agrees_fresh settings level⟩, fun _ h => absurd h List.not_mem_nil, rfl⟩

/-- **Every run leaves a session sound.** -/
theorem sound_run (settings : Settings) (level : Level) (requests : List Request) :
    ((fresh settings level).run requests).session.Sound :=
  (sound_fresh settings level).run requests

end DriftPatch.Session
