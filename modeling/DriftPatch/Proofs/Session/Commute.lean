import DriftPatch.Proofs.Session.Preview

/-!
# Operations on different edits commute

Two operations on different edits can be done in either order. An operation on
one edit sees of the session the edit that waits under the name, if one does,
and what the user has chosen (`Session.SameFor`). What it does is a **move** of
that edit: something else may take its place in the first queue, or nothing,
and something may come to the end of the archive (`Session.exists_move`).

Moves of different edits do not meet in the first queue, and none of them
changes what an operation on another edit sees. So each operation does and
answers and reports the same whether the other one came before it or not. Only
where both add to something at its end is the order to be seen: in the archive
and in the journal.
-/

namespace DriftPatch

/-- **What can be asked for one edit** that is in a session. -/
inductive Operation where
  /-- Apply it to a text. -/
  | apply (content : Option Text)
  /-- Turn it down. -/
  | reject
  /-- Try it out on a text. -/
  | preview (content : Option Text)

/-- The request for an operation on the edit of a name. -/
def Operation.on (id : EditId) : Operation → Request
  | .apply content => .apply id content
  | .reject => .reject id
  | .preview content => .preview id content

/-- **What becomes of an edit of the first queue.** Where nothing else is said it
stays as it is. -/
structure Move where
  /-- What takes its place, if anything does. -/
  place : Edit → Option Edit := some
  /-- What comes to the archive, if anything does. -/
  archived : Option Edit := none

/-- A move that leaves the edit its name. -/
structure Move.Names (m : Move) (id : EditId) : Prop where
  /-- In its place is an edit of the name. -/
  place : ∀ e a, m.place e = some a → e.id = id → a.id = id
  /-- In the archive it has the name. -/
  archived : ∀ a ∈ m.archived, a.id = id

namespace Session

/-- What is in the place of an edit once the one of a name was moved. -/
def altered (id : EditId) (m : Move) (e : Edit) : Option Edit :=
  if e.id = id then m.place e else some e

/-- The session once an edit was moved. -/
def move (s : Session) (id : EditId) (m : Move) : Session :=
  { s with
    pending := s.pending.filterMap (altered id m)
    archive := s.archive ++ m.archived.toList }

variable {s t : Session} {e : Edit} {id a b : EditId} {queue : List Edit} {m n : Move}

/-! ## Moves of different edits -/

theorem altered_of_ne (m : Move) (h : e.id ≠ id) : altered id m e = some e :=
  if_neg h

theorem id_eq_of_altered (hm : m.Names id) {e' : Edit} (h : altered id m e = some e') :
    e'.id = e.id := by
  unfold altered at h
  split at h
  · next hid => rw [hm.place e e' h hid, hid]
  · rw [Option.some.inj h]

theorem filterMap_altered_stay (id : EditId) (queue : List Edit) :
    queue.filterMap (altered id {}) = queue := by
  have hsome : altered id {} = some := by
    funext e
    exact ite_self _
  rw [hsome, List.filterMap_some]

theorem filterMap_altered_replace (id : EditId) (a : Edit) (queue : List Edit) :
    queue.filterMap (altered id { place := fun _ => some a })
      = change id (fun _ => a) queue := by
  have hsome : altered id { place := fun _ => some a }
      = some ∘ fun e : Edit => if e.id = id then a else e := by
    funext e
    show (if e.id = id then some a else some e) = some (if e.id = id then a else e)
    split <;> rfl
  rw [hsome, List.filterMap_eq_map]
  rfl

theorem filterMap_altered_remove (id : EditId) (archived : Option Edit) (queue : List Edit) :
    queue.filterMap (altered id { place := fun _ => none, archived })
      = queue.filter (·.id != id) := by
  have hguard : altered id { place := fun _ => none, archived }
      = Option.guard (·.id != id) := by
    funext e
    unfold altered Option.guard
    by_cases h : e.id = id <;> simp [h]
  rw [hguard, List.filterMap_eq_filter]

/-- **An edit of another name is found as before.** -/
theorem findIn_filterMap_altered (hm : m.Names a) (h : id ≠ a) :
    findIn id (queue.filterMap (altered a m)) = findIn id queue := by
  have htest (e : Edit) : (altered a m e).any (·.id == id) = (e.id == id) := by
    cases haltered : altered a m e with
    | none =>
      have hid : e.id = a := by
        by_contra hne
        exact Option.some_ne_none e ((altered_of_ne m hne).symm.trans haltered)
      rw [hid]
      exact (beq_false_of_ne (Ne.symm h)).symm
    | some e' =>
      show (e'.id == id) = _
      rw [id_eq_of_altered hm haltered]
  unfold findIn
  rw [List.find?_filterMap]
  simp only [htest]
  cases hfound : queue.find? (·.id == id) with
  | none => rfl
  | some e =>
    have hid : e.id = id := (mem_of_findIn hfound).2
    exact altered_of_ne m (hid ▸ h)

/-- What a move leaves in the place of an edit another move leaves alone, if it
is of an edit of another name. -/
theorem bind_altered_of_ne (hm : m.Names a) (n : Move) (h : e.id ≠ b) :
    (altered a m e).bind (altered b n) = altered a m e := by
  cases haltered : altered a m e with
  | none => rfl
  | some e' =>
    refine altered_of_ne n ?_
    rwa [id_eq_of_altered hm haltered]

/-- **Two edits are moved in either order.** -/
theorem filterMap_altered_comm (hm : m.Names a) (hn : n.Names b) (hab : a ≠ b) :
    (queue.filterMap (altered a m)).filterMap (altered b n)
      = (queue.filterMap (altered b n)).filterMap (altered a m) := by
  rw [List.filterMap_filterMap, List.filterMap_filterMap]
  refine List.filterMap_congr fun e _ => ?_
  by_cases ha : e.id = a
  · have hb : e.id ≠ b := ha ▸ hab
    rw [bind_altered_of_ne hm n hb, altered_of_ne n hb]
    rfl
  · rw [bind_altered_of_ne hn m ha, altered_of_ne m ha]
    rfl

/-! ## What an operation sees and does -/

/-- **Two sessions look the same** to an operation on the edit of a name. -/
structure SameFor (id : EditId) (s t : Session) : Prop where
  /-- The same edit waits under the name, or for the same reason none does. -/
  waiting : t.waiting id = s.waiting id
  /-- The user has chosen the same. -/
  settings : t.settings = s.settings
  /-- The journal has the same level. -/
  journalLevel : t.journalLevel = s.journalLevel
  /-- Nothing is being applied. -/
  idle : t.applying = false

/-- The move of an edit is not seen by operations on other edits. -/
theorem sameFor_move (hs : s.applying = false) (hm : m.Names a) (h : id ≠ a) :
    SameFor id s (s.move a m) := by
  refine ⟨?_, rfl, rfl, hs⟩
  unfold waiting move
  dsimp only
  rw [findIn_filterMap_altered hm h]

theorem move_stay (s : Session) (id : EditId) : s.move id {} = s := by
  unfold move
  rw [filterMap_altered_stay]
  show { s with archive := s.archive ++ [] } = s
  rw [List.append_nil]

theorem move_replace (s : Session) (id : EditId) (a : Edit) :
    s.move id { place := fun _ => some a }
      = { s with pending := change id (fun _ => a) s.pending } := by
  unfold move
  rw [filterMap_altered_replace]
  show Session.mk _ _ (s.archive ++ []) _ _ _ = _
  rw [List.append_nil]

theorem move_archive (s : Session) (id : EditId) (a : Edit) :
    s.move id { place := fun _ => none, archived := some a }
      = { s with
          pending := s.pending.filter (·.id != id)
          archive := s.archive ++ [a] } := by
  unfold move
  rw [filterMap_altered_remove]
  rfl

theorem names_stay (id : EditId) : Move.Names {} id :=
  ⟨fun _ _ h hid => Option.some.inj h ▸ hid, nofun⟩

theorem names_replace {a : Edit} (h : a.id = id) : Move.Names { place := fun _ => some a } id :=
  ⟨fun _ _ ha _ => Option.some.inj ha ▸ h, nofun⟩

theorem names_archive {a : Edit} (h : a.id = id) :
    Move.Names { place := fun _ => none, archived := some a } id :=
  ⟨fun _ a ha _ => absurd ha.symm (Option.some_ne_none a), fun _ ha => Option.some.inj ha ▸ h⟩

namespace SameFor

variable (h : SameFor id s t)
include h

theorem outcomeOf (e : Edit) (content : Option Text) :
    t.outcomeOf e content = s.outcomeOf e content := by
  unfold Session.outcomeOf
  rw [h.settings]

theorem noticesOf (e : Edit) (content : Option Text) :
    t.noticesOf e content = s.noticesOf e content := by
  unfold Session.noticesOf
  rw [h.settings]

theorem report (ev : Event) : t.report ev = s.report ev := by
  unfold Session.report
  rw [h.settings, h.journalLevel]

end SameFor

/-- The answer that refuses an operation. -/
def refusal : Operation → Answer
  | .apply _ | .reject => .done false
  | .preview _ => .outcome none

theorem perform_of_error {notice : Notice} (h : s.waiting id = .error notice) (x : Operation) :
    s.perform (x.on id) = { session := s, answer := refusal x, notices := [notice] } := by
  cases x with
  | apply content => exact congrArg (Effect.map Answer.done) (apply_of_error h)
  | reject => exact congrArg (Effect.map Answer.done) (reject_of_error h)
  | preview content => exact congrArg (Effect.map Answer.outcome) (preview_of_error h content)

/-- **An operation moves the edit of its name**, and which way it does this,
what it answers and what it reports is the same in all sessions that look the
same to it. -/
theorem exists_move (s : Session) (id : EditId) (x : Operation) :
    ∃ m : Move, ∃ answer events notices, m.Names id ∧ ∀ t, SameFor id s t →
      t.perform (x.on id) = { session := t.move id m, answer, events, notices } := by
  cases hwaiting : s.waiting id with
  | error notice =>
    refine ⟨{}, refusal x, [], [notice], names_stay id, fun t ht => ?_⟩
    rw [perform_of_error (ht.waiting.trans hwaiting), move_stay]
  | ok e =>
    have hid : e.id = id := (waits_of_waiting hwaiting).2
    cases x with
    | apply content =>
      cases hfailure : (s.outcomeOf e content).failure with
      | none =>
        refine ⟨_, .done true, s.report (.ofApply (asApplied e (s.outcomeOf e content).content)
          (s.outcomeOf e content).strategies), s.noticesOf e content,
          names_archive (a := asApplied e (s.outcomeOf e content).content) hid, fun t ht => ?_⟩
        have hok : (t.outcomeOf e content).failure = none := by rw [ht.outcomeOf, hfailure]
        show (t.apply id content).map Answer.done = _
        rw [apply_of_ok (ht.waiting.trans hwaiting) hok, move_archive, ht.idle, ht.outcomeOf,
          ht.report, ht.noticesOf]
        rfl
      | some failure =>
        refine ⟨_, .done false, s.report (.ofFailure (asFailed e failure) failure),
          s.noticesOf e content ++ [.editFailed e.id e.filePath failure.hunkIndex],
          names_replace (a := asFailed e failure) hid, fun t ht => ?_⟩
        have hfails : (t.outcomeOf e content).failure = some failure := by
          rw [ht.outcomeOf, hfailure]
        show (t.apply id content).map Answer.done = _
        rw [apply_of_failure (ht.waiting.trans hwaiting) hfails, move_replace, ht.idle, ht.report,
          ht.noticesOf]
        rfl
    | reject =>
      refine ⟨_, .done true, s.report (.ofReject (asRejected e)), [],
        names_replace (a := asRejected e) hid, fun t ht => ?_⟩
      show (t.reject id).map Answer.done = _
      rw [reject_of_ok (ht.waiting.trans hwaiting), move_replace, ht.report]
      rfl
    | preview content =>
      refine ⟨{}, .outcome (some (s.outcomeOf e content)), [], s.noticesOf e content,
        names_stay id, fun t ht => ?_⟩
      show (t.preview id content).map Answer.outcome = _
      rw [preview_of_ok (ht.waiting.trans hwaiting), move_stay, ht.outcomeOf, ht.noticesOf]
      rfl

/-! ## Two operations -/

/-- Sessions with the same edits, be it in another order, find the same edit
under a name. -/
theorem get?_eq_of_perm (hnodup : (ids s.edits).Nodup) (h : s.edits.Perm t.edits)
    (id : EditId) : t.get? id = s.get? id := by
  have hids : (ids s.edits).Perm (ids t.edits) := h.map _
  cases hfound : s.get? id with
  | none => rwa [get?_eq_none_iff, ← hids.mem_iff, ← get?_eq_none_iff]
  | some e =>
    obtain ⟨he, rfl⟩ := mem_of_get? hfound
    exact get?_of_mem (hids.nodup_iff.1 hnodup) (h.mem_iff.1 he)

/-- **The order of two operations does not matter**, of which the first is on
the edit `a` and the second on the edit `b`. -/
structure Commutes (s : Session) (a b : EditId) (x y : Operation) : Prop where
  /-- Each of them has the same answer in both orders. -/
  answers : ∃ first second, (s.run [x.on a, y.on b]).answer = [first, second]
    ∧ (s.run [y.on b, x.on a]).answer = [second, first]
  /-- The first queue is the same, its order included. -/
  pending : (s.run [y.on b, x.on a]).session.pending = (s.run [x.on a, y.on b]).session.pending
  /-- Under every name the same edit is found. -/
  found : ∀ id, (s.run [y.on b, x.on a]).session.get? id
    = (s.run [x.on a, y.on b]).session.get? id
  /-- The same is reported, be it in another order. -/
  events : (s.run [y.on b, x.on a]).events.Perm (s.run [x.on a, y.on b]).events
  /-- The archive is the same, but that the two edits, where they came into it,
  came in the order of the operations. -/
  archive : ∃ first second : Option Edit, (∀ e ∈ first, e.id = a) ∧ (∀ e ∈ second, e.id = b)
    ∧ (s.run [x.on a, y.on b]).session.archive = s.archive ++ first.toList ++ second.toList
    ∧ (s.run [y.on b, x.on a]).session.archive = s.archive ++ second.toList ++ first.toList
  /-- Besides the queues the sessions are the same. -/
  others : { (s.run [y.on b, x.on a]).session with pending := [], archive := [] }
    = { (s.run [x.on a, y.on b]).session with pending := [], archive := [] }

theorem run_pair {u : Session} {p q : Request} {first second : Answer}
    {pevents qevents : List Event} {pnotices qnotices : List Notice}
    (hp : s.perform p
      = { session := t, answer := first, events := pevents, notices := pnotices })
    (hq : t.perform q
      = { session := u, answer := second, events := qevents, notices := qnotices }) :
    s.run [p, q]
      = { session := u
          answer := [first, second]
          events := pevents ++ qevents
          notices := pnotices ++ qnotices } := by
  unfold run run run Effect.andThen Effect.map
  dsimp only
  rw [hp]
  dsimp only
  rw [hq, List.append_nil, List.append_nil]

/-- **Operations on different edits commute.** What one of them does is the same
before and after the other one, and the two moves are of different edits. -/
theorem Sound.commutes (hs : s.Sound) (hab : a ≠ b) (x y : Operation) : s.Commutes a b x y := by
  obtain ⟨m, first, xevents, xnotices, hm, hx⟩ := exists_move s a x
  obtain ⟨n, second, yevents, ynotices, hn, hy⟩ := exists_move s b y
  have hself (id : EditId) : SameFor id s s := ⟨rfl, rfl, rfl, hs.idle⟩
  have hxy := run_pair (hx s (hself a)) (hy _ (sameFor_move hs.idle hm (Ne.symm hab)))
  have hyx := run_pair (hy s (hself b)) (hx _ (sameFor_move hs.idle hn hab))
  have hpending : ((s.move b n).move a m).pending = ((s.move a m).move b n).pending :=
    (filterMap_altered_comm hm hn hab).symm
  have harchive : ((s.move a m).move b n).archive.Perm ((s.move b n).move a m).archive := by
    show (s.archive ++ _ ++ _).Perm (s.archive ++ _ ++ _)
    rw [List.append_assoc, List.append_assoc]
    exact List.perm_append_comm.append_left s.archive
  have hdistinct : (ids ((s.move a m).move b n).edits).Nodup := by
    have hrun := hs.run [x.on a, y.on b]
    rw [hxy] at hrun
    exact hrun.distinct
  have hedits : ((s.move a m).move b n).edits.Perm ((s.move b n).move a m).edits := by
    unfold edits
    rw [hpending]
    exact harchive.append_left _
  exact
    { answers := ⟨first, second, by rw [hxy], by rw [hyx]⟩
      pending := by rw [hxy, hyx]; exact hpending
      found := fun id => by rw [hxy, hyx]; exact get?_eq_of_perm hdistinct hedits id
      events := by rw [hxy, hyx]; exact List.perm_append_comm
      archive := ⟨m.archived, n.archived, hm.archived, hn.archived, by rw [hxy]; rfl,
        by rw [hyx]; rfl⟩
      others := by rw [hxy, hyx]; rfl }

/-- **At any moment of a run, operations on different edits commute**, whatever
was done to the session before. -/
theorem run_commutes (settings : Settings) (level : Level) (requests : List Request)
    (hab : a ≠ b) (x y : Operation) :
    ((fresh settings level).run requests).session.Commutes a b x y :=
  (sound_run settings level requests).commutes hab x y

/-- Two edits that come in, each for a file of its own. -/
def pairRequests : List Request :=
  [.submit (.text ['f']) (some { oldContent := ['a'] }),
   .submit (.text ['g']) (some { hunks := [{ oldLines := [['a']], newLines := [['b']] }] })]

/-- Both edits are applied, and in the archive their order tells which one was
applied first. -/
theorem run_commutes_pair :
    EditId.issued 0 ≠ .issued 1
      ∧ ids (((fresh .standard .info).run pairRequests).session.run
          [.apply (.issued 0) none, .apply (.issued 1) (some ['a'])]).session.archive
        = [.issued 0, .issued 1]
      ∧ ids (((fresh .standard .info).run pairRequests).session.run
          [.apply (.issued 1) (some ['a']), .apply (.issued 0) none]).session.archive
        = [.issued 1, .issued 0]
      ∧ ((fresh .standard .info).run pairRequests).session.Commutes (.issued 0) (.issued 1)
        (.apply none) (.apply (some ['a'])) := by
  have hne : EditId.issued 0 ≠ .issued 1 := by decide
  exact ⟨hne, by decide, by decide, run_commutes .standard .info pairRequests hne _ _⟩

end Session

end DriftPatch
