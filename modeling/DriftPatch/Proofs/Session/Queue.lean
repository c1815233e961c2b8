import DriftPatch.Session.Basic
import Mathlib.Data.List.Nodup

/-!
# Queues of edits

What the operations of a session do to a queue, said of the names in it. A
change made to the edit of a name leaves the names alone, and taking an edit
out takes out its name. As long as no name comes twice, an edit is found by
its name, in whichever queue it is (`Session.get?_of_mem`).

The session in which an edit is being applied is never seen from outside: it
goes over at once into the one in which the edit has been applied or has
failed (`Session.finish_start`, `Session.giveUp_start`). With this, applying
and turning down are each one equation for each of the things that can come
of it.
-/

namespace DriftPatch.Session

/-- The names of some edits, in order. -/
def ids (queue : List Edit) : List EditId :=
  queue.map (·.id)

/-- All edits of a session, those in the archive last. -/
def edits (s : Session) : List Edit :=
  s.pending ++ s.archive

/-- The edit waits to be applied. -/
structure Waits (s : Session) (e : Edit) : Prop where
  /-- It is in the first queue. -/
  mem : e ∈ s.pending
  /-- Nothing has come of it yet. -/
  status : e.status = .pending

variable {id : EditId} {queue : List Edit} {e : Edit}

theorem Waits.mem_edits {s : Session} (h : s.Waits e) : e ∈ s.edits :=
  List.mem_append_left _ h.mem

/-- A settled edit does not wait. -/
theorem not_pending_of_isTerminal (h : e.isTerminal = true) : e.status ≠ .pending := by
  intro hstatus
  unfold Edit.isTerminal at h
  rw [hstatus] at h
  exact Bool.false_ne_true h

/-! ## Names -/

@[simp] theorem ids_append (front back : List Edit) :
    ids (front ++ back) = ids front ++ ids back :=
  List.map_append

theorem mem_ids_of_mem (he : e ∈ queue) : e.id ∈ ids queue :=
  List.mem_map_of_mem he

/-- A change that keeps the name of the edit keeps all names. -/
theorem ids_change {f : Edit → Edit} (hf : ∀ a, a.id = id → (f a).id = id) :
    ids (change id f queue) = ids queue := by
  unfold ids change
  rw [List.map_map]
  refine List.map_congr_left fun a _ => ?_
  show (if a.id = id then f a else a).id = a.id
  split
  · next ha => rw [hf a ha, ha]
  · rfl

theorem ids_filter_ne :
    ids (queue.filter (·.id != id)) = (ids queue).filter (· != id) := by
  unfold ids
  rw [List.filter_map]
  rfl

/-! ## Changes -/

theorem mem_change_iff {a : Edit} (ha : a.id = id) (hid : id ∈ ids queue) :
    e ∈ change id (fun _ => a) queue ↔ e = a ∨ e ∈ queue ∧ e.id ≠ id := by
  unfold change
  rw [List.mem_map]
  constructor
  · rintro ⟨b, hb, rfl⟩
    split
    · exact Or.inl rfl
    · next hne => exact Or.inr ⟨hb, hne⟩
  · rintro (rfl | ⟨he, hne⟩)
    · obtain ⟨b, hb, hbid⟩ := List.mem_map.1 hid
      exact ⟨b, hb, if_pos hbid⟩
    · exact ⟨e, he, if_neg hne⟩

theorem change_eq_self (h : id ∉ ids queue) (f : Edit → Edit) :
    change id f queue = queue := by
  refine (List.map_congr_left fun a ha => if_neg ?_).trans (List.map_id queue)
  rintro rfl
  exact h (mem_ids_of_mem ha)

/-- Where no name comes twice, a change to the edit of a name changes one
edit. -/
theorem change_append_cons {front back : List Edit} (hnodup : (ids (front ++ e :: back)).Nodup)
    (f : Edit → Edit) : change e.id f (front ++ e :: back) = front ++ f e :: back := by
  rw [ids_append, List.nodup_append'] at hnodup
  obtain ⟨-, hback, hdisjoint⟩ := hnodup
  have hfront : e.id ∉ ids front := fun h => hdisjoint h List.mem_cons_self
  have hself : change e.id f (e :: back) = f e :: change e.id f back :=
    congrArg (· :: _) (if_pos rfl)
  calc change e.id f (front ++ e :: back)
      = change e.id f front ++ change e.id f (e :: back) := List.map_append
    _ = front ++ f e :: back := by
        rw [hself, change_eq_self hfront, change_eq_self (List.nodup_cons.1 hback).1]

/-- What is true of the edits of a queue and of the one put in is true of
the edits of the changed queue. -/
theorem forall_mem_change {P : Edit → Prop} {a : Edit} (ha : P a)
    (hqueue : ∀ b ∈ queue, P b) : ∀ b ∈ change id (fun _ => a) queue, P b := by
  intro b hb
  obtain ⟨c, hc, rfl⟩ := List.mem_map.1 hb
  split
  · exact ha
  · exact hqueue c hc

/-- Of two changes to the edit of a name, the one that puts another edit in
its place is all that counts. -/
theorem change_change {f : Edit → Edit} (hf : ∀ a, a.id = id → (f a).id = id) (a : Edit) :
    change id (fun _ => a) (change id f queue) = change id (fun _ => a) queue := by
  unfold change
  rw [List.map_map]
  refine List.map_congr_left fun b _ => ?_
  show (if (if b.id = id then f b else b).id = id then a else _) = _
  by_cases hb : b.id = id
  · rw [if_pos hb, if_pos (hf b hb), if_pos hb]
  · rw [if_neg hb, if_neg hb]

/-- Nor does a change count to the edit that is taken out. -/
theorem filter_change {f : Edit → Edit} (hf : ∀ a, a.id = id → (f a).id = id) :
    (change id f queue).filter (·.id != id) = queue.filter (·.id != id) := by
  induction queue with
  | nil => rfl
  | cons b queue ih =>
    show List.filter _ ((if b.id = id then f b else b) :: change id f queue) = _
    by_cases hb : b.id = id
    · rw [if_pos hb, List.filter_cons_of_neg (by simp [hf b hb]),
        List.filter_cons_of_neg (by simp [hb]), ih]
    · rw [if_neg hb, List.filter_cons_of_pos (by simp [hb]),
        List.filter_cons_of_pos (by simp [hb]), ih]

/-! ## Looking for a name -/

theorem mem_of_findIn (h : findIn id queue = some e) : e ∈ queue ∧ e.id = id := by
  unfold findIn at h
  have hid := List.find?_some h
  exact ⟨List.mem_of_find?_eq_some h, beq_iff_eq.1 hid⟩

theorem findIn_eq_none_iff : findIn id queue = none ↔ id ∉ ids queue := by
  unfold findIn ids
  rw [List.find?_eq_none, List.mem_map]
  constructor
  · rintro h ⟨a, ha, rfl⟩
    exact h a ha (beq_self_eq_true a.id)
  · intro h a ha heq
    exact h ⟨a, ha, beq_iff_eq.1 heq⟩

/-- Where no name comes twice, an edit is found by its name. -/
theorem findIn_of_mem (hnodup : (ids queue).Nodup) (he : e ∈ queue) :
    findIn e.id queue = some e := by
  cases hfound : findIn e.id queue with
  | none => exact absurd (mem_ids_of_mem he) (findIn_eq_none_iff.1 hfound)
  | some a =>
    obtain ⟨ha, haid⟩ := mem_of_findIn hfound
    rw [List.inj_on_of_nodup_map hnodup ha he haid]

variable {s : Session}

theorem get?_eq_findIn : s.get? id = findIn id s.edits :=
  (List.find?_append).symm

theorem get?_of_mem (hnodup : (ids s.edits).Nodup) (he : e ∈ s.edits) :
    s.get? e.id = some e :=
  get?_eq_findIn.trans (findIn_of_mem hnodup he)

theorem mem_of_get? (h : s.get? id = some e) : e ∈ s.edits ∧ e.id = id :=
  mem_of_findIn (get?_eq_findIn.symm.trans h)

theorem get?_eq_none_iff : s.get? id = none ↔ id ∉ ids s.edits := by
  rw [get?_eq_findIn, findIn_eq_none_iff]

theorem waits_of_waiting (h : s.waiting id = .ok e) : s.Waits e ∧ e.id = id := by
  unfold waiting at h
  split at h
  · exact nomatch h
  · next hfound =>
    split at h
    · next hstatus =>
      obtain rfl := Except.ok.inj h
      obtain ⟨hmem, hid⟩ := mem_of_findIn hfound
      exact ⟨⟨hmem, hstatus⟩, hid⟩
    · exact nomatch h

/-! ## Giving a status -/

theorem ids_setStatus (s : Session) (id : EditId) (status : Status) :
    ids (s.setStatus id status).pending = ids s.pending
      ∧ ids (s.setStatus id status).archive = ids s.archive
      ∧ (s.setStatus id status).issued = s.issued := by
  unfold setStatus
  dsimp only
  split
  · exact ⟨ids_change fun _ h => h, rfl, rfl⟩
  · exact ⟨rfl, ids_change fun _ h => h, rfl⟩

/-! ## Applying and turning down -/

theorem giveUp_start (s : Session) {a : Edit} (ha : a.id = id) :
    (s.start id).giveUp a
      = { s with pending := change id (fun _ => a) s.pending, applying := false } := by
  unfold start giveUp
  dsimp only
  rw [ha, change_change (f := fun e => { e with status := .applying }) fun _ h => h]

theorem finish_start (s : Session) {a : Edit} (ha : a.id = id) :
    (s.start id).finish a
      = { s with
          pending := s.pending.filter (·.id != id)
          archive := s.archive ++ [a]
          applying := false } := by
  unfold start finish
  dsimp only
  rw [ha, filter_change (f := fun e => { e with status := .applying }) fun _ h => h]

variable {content : Option Text}

theorem apply_of_error {notice : Notice} (h : s.waiting id = .error notice) :
    s.apply id content = { session := s, answer := false, notices := [notice] } := by
  rw [apply, h]

theorem apply_of_failure {failure : Failure} (h : s.waiting id = .ok e)
    (hfailure : (s.outcomeOf e content).failure = some failure) :
    s.apply id content
      = { session :=
            { s with
              pending := change id (fun _ => asFailed e failure) s.pending
              applying := false }
          answer := false
          events := s.report (.ofFailure (asFailed e failure) failure)
          notices := s.noticesOf e content
            ++ [.editFailed e.id e.filePath failure.hunkIndex] } := by
  have hid : (asFailed e failure).id = id := (waits_of_waiting h).2
  rw [apply, h]
  dsimp only
  rw [hfailure]
  dsimp only
  rw [giveUp_start s hid]

theorem apply_of_ok (h : s.waiting id = .ok e)
    (hok : (s.outcomeOf e content).failure = none) :
    s.apply id content
      = { session :=
            { s with
              pending := s.pending.filter (·.id != id)
              archive := s.archive ++ [asApplied e (s.outcomeOf e content).content]
              applying := false }
          answer := true
          events := s.report (.ofApply (asApplied e (s.outcomeOf e content).content)
            (s.outcomeOf e content).strategies)
          notices := s.noticesOf e content } := by
  have hid : (asApplied e (s.outcomeOf e content).content).id = id := (waits_of_waiting h).2
  rw [apply, h]
  dsimp only
  rw [hok]
  dsimp only
  rw [finish_start s hid]

theorem reject_of_error {notice : Notice} (h : s.waiting id = .error notice) :
    s.reject id = { session := s, answer := false, notices := [notice] } := by
  rw [reject, h]

theorem reject_of_ok (h : s.waiting id = .ok e) :
    s.reject id
      = { session := { s with pending := change id (fun _ => asRejected e) s.pending }
          answer := true
          events := s.report (.ofReject (asRejected e)) } := by
  rw [reject, h]

end DriftPatch.Session
