import DriftPatch.Proofs.Session.Batch

/-!
# Turning down all edits that wait

All edits are turned down by a walk along the names of the first queue as it
is at the start, which asks for each edit to be turned down and counts how
often that is done. Each edit is met once, as it was at the start, since no
name comes twice and an edit that is met changes no other one. So the walk
comes to one change of the queue (`Session.Sound.rejectAll_eq`): the edits that
wait are turned down where they are, and all others stay as they are. The
archive is not walked along.
-/

namespace DriftPatch.Session

/-- The edit once all edits that wait were turned down. -/
def turnedDown (e : Edit) : Edit :=
  if e.status = .pending then asRejected e else e

variable {s : Session} {e : Edit} {front back : List Edit}

@[simp] theorem id_turnedDown (e : Edit) : (turnedDown e).id = e.id := by
  unfold turnedDown
  split <;> rfl

theorem turnedDown_of_pending (h : e.status = .pending) : turnedDown e = asRejected e :=
  if_pos h

theorem turnedDown_of_ne (h : e.status ≠ .pending) : turnedDown e = e :=
  if_neg h

/-- **An edit of the queue is asked to be turned down**: where it is it becomes
what it will be, and the answer tells whether it waited. -/
theorem reject_eq (hs : s.pending = front ++ e :: back)
    (hnodup : (ids (front ++ e :: back)).Nodup) :
    s.reject e.id
      = { session := { s with pending := front ++ turnedDown e :: back }
          answer := e.status == .pending
          events := ([e].filter (·.status == .pending)).flatMap
            fun e => s.report (.ofReject (asRejected e))
          notices := ([e].filter (·.status != .pending)).map
            fun e => .notPending e.id e.status } := by
  have hfound : findIn e.id s.pending = some e := by
    rw [hs]
    exact findIn_of_mem hnodup (List.mem_append_right _ List.mem_cons_self)
  by_cases hstatus : e.status = .pending
  · have hwaiting : s.waiting e.id = .ok e := by
      rw [waiting, hfound]
      exact if_pos hstatus
    rw [reject_of_ok hwaiting, hs, change_append_cons hnodup, turnedDown_of_pending hstatus]
    simp [hstatus]
  · have hwaiting : s.waiting e.id = .error (.notPending e.id e.status) := by
      rw [waiting, hfound]
      exact if_neg hstatus
    rw [reject_of_error hwaiting, turnedDown_of_ne hstatus, ← hs]
    simp [hstatus]

/-- **A walk along the end of a queue** turns down what waits there. The
induction follows that end; the part that was walked along is already as it will
be. -/
theorem rejectEach_eq (hs : s.pending = front ++ back) (hnodup : (ids (front ++ back)).Nodup) :
    rejectEach (ids back) s
      = { session := { s with pending := front ++ back.map turnedDown }
          answer := back.countP (·.status == .pending)
          events := (back.filter (·.status == .pending)).flatMap
            fun e => s.report (.ofReject (asRejected e))
          notices := (back.filter (·.status != .pending)).map
            fun e => .notPending e.id e.status } := by
  induction back generalizing s front with
  | nil =>
    rw [List.append_nil] at hs
    show _ = Effect.mk { s with pending := front ++ [] } 0 [] []
    rw [List.append_nil, ← hs]
    rfl
  | cons e back ih =>
    -- the edit that was just met joins the part that was walked along
    have hwalked (rest : List Edit) :
        front ++ turnedDown e :: rest = front ++ [turnedDown e] ++ rest := by
      rw [List.append_assoc]
      rfl
    have hnodup' : (ids (front ++ [turnedDown e] ++ back)).Nodup := by
      have hids : ids (front ++ [turnedDown e] ++ back) = ids (front ++ e :: back) := by
        simp [ids]
      rwa [hids]
    have hfilter (p : Edit → Bool) : (e :: back).filter p = [e].filter p ++ back.filter p :=
      List.filter_append [e] back
    show (s.reject e.id).andThen (fun t => (rejectEach (ids back) t).map fun count =>
      if (s.reject e.id).answer then count + 1 else count) = _
    rw [reject_eq hs hnodup]
    unfold Effect.andThen Effect.map
    dsimp only
    rw [ih (hwalked back) hnodup', List.map_cons, hwalked (back.map turnedDown), List.countP_cons,
      hfilter, hfilter, List.flatMap_append, List.map_append]
    cases e.status == .pending <;> rfl

/-- **Turning down all edits that wait** changes these in the first queue and
nothing else, and answers how many they are. -/
theorem Sound.rejectAll_eq (hs : s.Sound) :
    s.rejectAll
      = { session := { s with pending := s.pending.map turnedDown }
          answer := s.waitingEdits.length
          events := s.waitingEdits.flatMap fun e => s.report (.ofReject (asRejected e))
          notices := (s.pending.filter (·.status != .pending)).map
            fun e => .notPending e.id e.status } := by
  have hwalk := @rejectEach_eq s [] s.pending rfl hs.nodup_pending
  rw [List.countP_eq_length_filter] at hwalk
  exact hwalk

end DriftPatch.Session
