import DriftPatch.Proofs.Session.Sound

/-!
# Attempts

An **attempt** is one edit that waits, a text, and what placing the hunks of
the edit in that text comes to. It says all there is to say of applying the
edit: how the edit is settled, what is reported, and how the session goes on
(`Session.Sound.apply_eq`). Which text the request came with, or whether it
came with one, does not matter beyond the text that the hunks are placed in.

Settling an edit concerns no other one. Every edit of another name stays as
it is and where it is, and waits if it waited (`Session.mem_settle`).
-/

namespace DriftPatch

/-- **One edit that is tried on a text.** -/
structure Attempt where
  /-- The edit as it waits. -/
  edit : Edit
  /-- The text that its hunks are placed in. -/
  base : Text
  /-- What this comes to. -/
  outcome : Outcome

namespace Attempt

/-- The edit as it is afterwards: applied, with the text it made, or failed,
with the report. -/
def settled (a : Attempt) : Edit :=
  match a.outcome.failure with
  | none => Session.asApplied a.edit a.outcome.content
  | some failure => Session.asFailed a.edit failure

/-- What is reported of it. -/
def event (a : Attempt) : Event :=
  match a.outcome.failure with
  | none => .ofApply a.settled a.outcome.strategies
  | some failure => .ofFailure a.settled failure

/-- What is noticed at its end: a failure is. -/
def regret (a : Attempt) : List Notice :=
  match a.outcome.failure with
  | none => []
  | some failure => [.editFailed a.edit.id a.edit.filePath failure.hunkIndex]

theorem settled_of_none {a : Attempt} (h : a.outcome.failure = none) :
    a.settled = Session.asApplied a.edit a.outcome.content := by
  unfold settled
  rw [h]

theorem settled_of_some {a : Attempt} {failure : Failure} (h : a.outcome.failure = some failure) :
    a.settled = Session.asFailed a.edit failure := by
  unfold settled
  rw [h]

theorem event_of_none {a : Attempt} (h : a.outcome.failure = none) :
    a.event = .ofApply (Session.asApplied a.edit a.outcome.content) a.outcome.strategies := by
  unfold event
  rw [h, settled_of_none h]

theorem event_of_some {a : Attempt} {failure : Failure} (h : a.outcome.failure = some failure) :
    a.event = .ofFailure (Session.asFailed a.edit failure) failure := by
  unfold event
  rw [h, settled_of_some h]

@[simp] theorem id_settled (a : Attempt) : a.settled.id = a.edit.id := by
  unfold settled
  split <;> rfl

/-- An edit that was tried does not wait any more. -/
theorem isTerminal_settled (a : Attempt) : a.settled.isTerminal = true := by
  unfold settled
  split <;> rfl

end Attempt

namespace Session

variable {s : Session} {e : Edit} {a : Attempt} {content : Option Text}

/-- An edit, tried on a text. -/
def attempt (s : Session) (e : Edit) (base : Text) : Attempt :=
  { edit := e, base, outcome := applyHunks s.settings.excerpt base e.diff.hunks }

/-- **The session once an edit was tried**: applied, it has moved to the end of
the archive, and failed it stays where it was. -/
def settle (s : Session) (a : Attempt) : Session :=
  if a.outcome.ok then
    { s with
      pending := s.pending.filter (·.id != a.edit.id)
      archive := s.archive ++ [a.settled]
      applying := false }
  else
    { s with
      pending := change a.edit.id (fun _ => a.settled) s.pending
      applying := false }

/-- What an attempt does. The answer is whether it succeeded. -/
def tried (s : Session) (a : Attempt) : Effect Bool :=
  { session := s.settle a
    answer := a.outcome.ok
    events := s.report a.event
    notices := s.noticesOf a.edit (some a.base) ++ a.regret }

/-- With an edit that waits no text is kept, so none is when it has failed. -/
theorem Sound.settled_of_some (hs : s.Sound) (hwaits : s.Waits a.edit) {failure : Failure}
    (h : a.outcome.failure = some failure) :
    a.settled
      = { a.edit with status := .failed, result := none, error := some failure.message } := by
  rw [Attempt.settled_of_some h, ← hs.unmade a.edit hwaits.mem]
  rfl

/-- **Applying an edit that waits is an attempt.** -/
theorem Sound.apply_eq (hs : s.Sound) (hwaits : s.Waits e) (content : Option Text) :
    s.apply e.id content = s.tried (s.attempt e (baseText e content)) := by
  have hwaiting := hs.waiting_of_waits hwaits
  have houtcome : (s.attempt e (baseText e content)).outcome = s.outcomeOf e content := rfl
  have hnotices : s.noticesOf (s.attempt e (baseText e content)).edit
      (some (s.attempt e (baseText e content)).base) = s.noticesOf e content := rfl
  unfold tried settle Attempt.event Attempt.regret Attempt.settled Outcome.ok
  rw [houtcome, hnotices]
  cases hfailure : (s.outcomeOf e content).failure with
  | none =>
    rw [apply_of_ok hwaiting hfailure]
    dsimp only
    rw [List.append_nil]
    rfl
  | some failure =>
    rw [apply_of_failure hwaiting hfailure]
    rfl

/-! ## What an attempt leaves alone -/

theorem settings_settle (s : Session) (a : Attempt) : (s.settle a).settings = s.settings := by
  unfold settle
  split <;> rfl

theorem archive_settle (s : Session) (a : Attempt) :
    (s.settle a).archive = s.archive ++ if a.outcome.ok then [a.settled] else [] := by
  unfold settle
  split
  · rfl
  · exact (List.append_nil _).symm

/-- **An edit of another name stays as it is** and where it is. -/
theorem mem_settle (h : e.id ≠ a.edit.id) :
    (e ∈ s.pending → e ∈ (s.settle a).pending)
      ∧ (e ∈ s.archive → e ∈ (s.settle a).archive) := by
  unfold settle
  split
  · exact ⟨fun he => List.mem_filter.2 ⟨he, bne_iff_ne.2 h⟩, List.mem_append_left _⟩
  · refine ⟨fun he => ?_, id⟩
    unfold change
    exact List.mem_map.2 ⟨e, he, if_neg h⟩

theorem waits_settle (h : e.id ≠ a.edit.id) (hwaits : s.Waits e) : (s.settle a).Waits e :=
  ⟨(mem_settle h).1 hwaits.mem, hwaits.status⟩

/-- What is in the first queue afterwards was there before, or it is the edit
that was tried and has failed. -/
theorem mem_pending_settle (h : e ∈ (s.settle a).pending) :
    e ∈ s.pending ∧ e.id ≠ a.edit.id ∨ e = a.settled := by
  unfold settle at h
  split at h
  · obtain ⟨he, hid⟩ := List.mem_filter.1 h
    exact Or.inl ⟨he, bne_iff_ne.1 hid⟩
  · obtain ⟨b, hb, rfl⟩ := List.mem_map.1 h
    split
    · exact Or.inr rfl
    · next hid => exact Or.inl ⟨hb, hid⟩

/-- The edit that was tried is in one of the queues. -/
theorem mem_edits_settle (h : a.edit ∈ s.pending) : a.settled ∈ (s.settle a).edits := by
  unfold settle
  split
  · exact List.mem_append_right _ (List.mem_append_right _ (List.mem_singleton_self _))
  · refine List.mem_append_left _ ?_
    exact (mem_change_iff (Attempt.id_settled a) (mem_ids_of_mem h)).2 (Or.inl rfl)

theorem Sound.settle (hs : s.Sound) (hwaits : s.Waits e) (base : Text) :
    (s.settle (s.attempt e base)).Sound := by
  have hstep := step_apply s e.id (some base)
  rw [hs.apply_eq hwaits] at hstep
  exact hs.step hstep

/-- **The edit is found as it was settled.** -/
theorem Sound.get?_settle (hs : s.Sound) (hwaits : s.Waits e) (base : Text) :
    (s.settle (s.attempt e base)).get? e.id = some (s.attempt e base).settled := by
  have hmem : (s.attempt e base).settled ∈ (s.settle (s.attempt e base)).edits :=
    mem_edits_settle hwaits.mem
  have hfound := get?_of_mem (hs.settle hwaits base).distinct hmem
  rwa [Attempt.id_settled] at hfound

end Session

end DriftPatch
