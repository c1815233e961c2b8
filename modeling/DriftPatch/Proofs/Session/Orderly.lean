import DriftPatch.Proofs.Session.Step

/-!
# What holds of every session

Two things hold of a session at any time. Its queues agree with what its
answers have told (`Session.Agrees`): the archive holds what was applied, in
order, and the first queue holds the rest of what was submitted, in order.
And what is kept with each edit fits its status, and its status fits its
queue (`Session.Consistent`). Every step keeps both, the second unless a
status is given from outside; so they hold after every run. Together they say
in full what a session looks like from outside (`Session.run_orderly`).
-/

namespace DriftPatch

/-- **What came in and what was applied** since all edits were forgotten the
last time, each in order. -/
structure Ledger where
  /-- The edits that came in. -/
  submitted : List EditId := []
  /-- The edits that were applied. -/
  applied : List EditId := []
  deriving DecidableEq, Repr

namespace Ledger

/-- The ledger after a deed. -/
def enter (l : Ledger) : Deed → Ledger
  | .submitted id => { l with submitted := l.submitted ++ [id] }
  | .applied id => { l with applied := l.applied ++ [id] }
  | .cleared => {}
  | .assigned | .other => l

/-- The ledger of some deeds. -/
def of (deeds : List Deed) : Ledger :=
  deeds.foldl enter {}

end Ledger

namespace Session

/-! ## The queues and the ledger -/

/-- **The queues of a session agree with a ledger.** -/
structure Agrees (s : Session) (l : Ledger) : Prop where
  /-- What came in was given a number. -/
  numbered : ∀ id ∈ l.submitted, ∃ n < s.issued, id = .issued n
  /-- Nothing came in twice. -/
  submitted_nodup : l.submitted.Nodup
  /-- Nothing was applied twice. -/
  applied_nodup : l.applied.Nodup
  /-- What was applied came in. -/
  applied_subset : ∀ id ∈ l.applied, id ∈ l.submitted
  /-- The first queue holds what came in and was not applied. -/
  pending : ids s.pending = l.submitted.filter (· ∉ l.applied)
  /-- The archive holds what was applied. -/
  archive : ids s.archive = l.applied

namespace Agrees

variable {s t : Session} {l : Ledger}

theorem mem_pending_iff (h : s.Agrees l) {id : EditId} :
    id ∈ ids s.pending ↔ id ∈ l.submitted ∧ id ∉ l.applied := by
  rw [h.pending, List.mem_filter, decide_eq_true_iff]

/-- No name comes twice. -/
theorem nodup (h : s.Agrees l) : (ids s.edits).Nodup := by
  unfold edits
  rw [ids_append, h.archive, List.nodup_append']
  refine ⟨?_, h.applied_nodup, fun id hid happlied => ?_⟩
  · rw [h.pending]
    exact h.submitted_nodup.filter _
  · exact (h.mem_pending_iff.1 hid).2 happlied

/-- Of two edits in a session the same one is meant by the same name. -/
theorem eq_of_id_eq (h : s.Agrees l) {e a : Edit} (he : e ∈ s.edits) (ha : a ∈ s.edits)
    (hid : e.id = a.id) : e = a :=
  List.inj_on_of_nodup_map h.nodup he ha hid

/-- All names are numbers that were issued. -/
theorem exists_issued (h : s.Agrees l) {id : EditId} (hid : id ∈ ids s.edits) :
    ∃ n < s.issued, id = .issued n := by
  unfold edits at hid
  rw [ids_append, List.mem_append, h.archive, h.mem_pending_iff] at hid
  exact h.numbered id (hid.elim And.left (h.applied_subset id))

/-- Another session with the same names agrees too. -/
theorem of_ids (h : s.Agrees l) (hpending : ids t.pending = ids s.pending)
    (harchive : ids t.archive = ids s.archive) (hissued : t.issued = s.issued) :
    t.Agrees l where
  numbered := hissued ▸ h.numbered
  submitted_nodup := h.submitted_nodup
  applied_nodup := h.applied_nodup
  applied_subset := h.applied_subset
  pending := hpending.trans h.pending
  archive := harchive.trans h.archive

/-- **Every step keeps the queues and the ledger in agreement.** -/
theorem step {deed : Deed} (h : s.Agrees l) (hstep : Step s deed t) :
    t.Agrees (l.enter deed) := by
  cases hstep with
  | idle settings level => exact h.of_ids rfl rfl rfl
  | submit filePath diff =>
    have hnew : EditId.issued s.issued ∉ l.submitted := by
      intro hmem
      obtain ⟨n, hn, he⟩ := h.numbered _ hmem
      exact Nat.lt_irrefl n (EditId.issued.inj he ▸ hn)
    have hnew' : EditId.issued s.issued ∉ l.applied :=
      fun hmem => hnew (h.applied_subset _ hmem)
    refine ⟨?_, ?_, h.applied_nodup, ?_, ?_, h.archive⟩
    · intro id hid
      rcases List.mem_append.1 hid with hid | hid
      · obtain ⟨n, hn, he⟩ := h.numbered id hid
        exact ⟨n, Nat.lt_succ_of_lt hn, he⟩
      · exact ⟨s.issued, Nat.lt_succ_self _, List.mem_singleton.1 hid⟩
    · exact List.nodup_append'.2 ⟨h.submitted_nodup, List.nodup_singleton _,
        List.disjoint_singleton.2 hnew⟩
    · exact fun id hid => List.mem_append_left _ (h.applied_subset id hid)
    · have hkept : [EditId.issued s.issued].filter (· ∉ l.applied) = [.issued s.issued] :=
        List.filter_eq_self.2 fun id hid => by
          rw [List.mem_singleton.1 hid]
          exact decide_eq_true hnew'
      show ids (s.pending ++ _) = (l.submitted ++ [EditId.issued s.issued]).filter (· ∉ l.applied)
      rw [ids_append, h.pending, List.filter_append, hkept]
      rfl
  | @apply e waits content =>
    obtain ⟨hsubmitted, hwaits⟩ := h.mem_pending_iff.1 (mem_ids_of_mem waits.mem)
    refine ⟨h.numbered, h.submitted_nodup, ?_, ?_, ?_, ?_⟩
    · exact List.nodup_append'.2 ⟨h.applied_nodup, List.nodup_singleton _,
        List.disjoint_singleton.2 hwaits⟩
    · intro id hid
      rcases List.mem_append.1 hid with hid | hid
      · exact h.applied_subset id hid
      · rw [List.mem_singleton.1 hid]
        exact hsubmitted
    · show ids (s.pending.filter _) = l.submitted.filter (· ∉ l.applied ++ [e.id])
      rw [ids_filter_ne, h.pending, List.filter_filter]
      refine List.filter_congr fun id _ => ?_
      rw [Bool.eq_iff_iff]
      simp [and_comm]
    · show ids (s.archive ++ _) = l.applied ++ [e.id]
      rw [ids_append, h.archive]
      rfl
  | fail waits failure => exact h.of_ids (ids_change fun _ _ => rfl) rfl rfl
  | reject waits => exact h.of_ids (ids_change fun _ _ => rfl) rfl rfl
  | clear =>
    exact ⟨fun _ h => absurd h List.not_mem_nil, List.nodup_nil, List.nodup_nil,
      fun _ h => absurd h List.not_mem_nil, rfl, rfl⟩
  | assign id status =>
    obtain ⟨hpending, harchive, hissued⟩ := ids_setStatus s id status
    exact h.of_ids hpending harchive hissued

theorem steps {deeds : List Deed} (h : s.Agrees l) (hsteps : Steps s deeds t) :
    t.Agrees (deeds.foldl Ledger.enter l) := by
  induction hsteps generalizing l with
  | nil s => exact h
  | cons first later ih => exact ih (h.step first)

end Agrees

theorem agrees_fresh (settings : Settings) (level : Level) :
    (fresh settings level).Agrees {} :=
  ⟨fun _ h => absurd h List.not_mem_nil, List.nodup_nil, List.nodup_nil,
    fun _ h => absurd h List.not_mem_nil, rfl, rfl⟩

/-! ## What is kept with an edit -/

/-- **What is kept with an edit fits its status.** -/
structure Fits (e : Edit) : Prop where
  /-- The text it made, if it was applied. -/
  result : e.result.isSome = true ↔ e.status = .applied
  /-- The report of its failure, if it failed. -/
  error : e.error.isSome = true ↔ e.status = .failed

/-- **What is kept with the edits of a session fits their status, and their
status fits their queue.** -/
structure Consistent (s : Session) : Prop where
  /-- The edits in the first queue wait, failed or were turned down. -/
  pending : ∀ e ∈ s.pending, e.status = .pending ∨ e.status = .failed ∨ e.status = .rejected
  /-- Those in the archive were applied. -/
  archive : ∀ e ∈ s.archive, e.status = .applied
  /-- What is kept with them fits. -/
  fits : ∀ e ∈ s.edits, Fits e
  /-- None is being applied. -/
  applying : s.applying = false

namespace Consistent

variable {s t : Session} {e : Edit}

/-- With an edit that waits nothing is kept yet. -/
theorem of_waits (h : s.Consistent) (hwaits : s.Waits e) :
    e.result = none ∧ e.error = none := by
  have hfits := h.fits e hwaits.mem_edits
  have hstatus := hwaits.status
  constructor
  · rw [← Option.not_isSome_iff_eq_none, hfits.result, hstatus]
    exact nofun
  · rw [← Option.not_isSome_iff_eq_none, hfits.error, hstatus]
    exact nofun

/-- **Every step from within keeps a session consistent.** -/
theorem step {deed : Deed} (h : s.Consistent) (hstep : Step s deed t)
    (hinside : deed ≠ .assigned) : t.Consistent := by
  have hfits := List.forall_mem_append.1 h.fits
  cases hstep with
  | idle settings level => exact ⟨h.pending, h.archive, h.fits, h.applying⟩
  | submit filePath diff =>
    refine ⟨?_, h.archive, ?_, h.applying⟩
    · exact List.forall_mem_append.2 ⟨h.pending, List.forall_mem_singleton.2 (Or.inl rfl)⟩
    · refine List.forall_mem_append.2 ⟨List.forall_mem_append.2 ⟨hfits.1, ?_⟩, hfits.2⟩
      exact List.forall_mem_singleton.2 ⟨⟨nofun, nofun⟩, ⟨nofun, nofun⟩⟩
  | @apply e waits content =>
    refine ⟨?_, ?_, ?_, rfl⟩
    · exact fun a ha => h.pending a (List.mem_of_mem_filter ha)
    · exact List.forall_mem_append.2 ⟨h.archive, List.forall_mem_singleton.2 rfl⟩
    · refine List.forall_mem_append.2 ⟨fun a ha => hfits.1 a (List.mem_of_mem_filter ha),
        List.forall_mem_append.2 ⟨hfits.2, ?_⟩⟩
      exact List.forall_mem_singleton.2 ⟨⟨fun _ => rfl, fun _ => rfl⟩, ⟨nofun, nofun⟩⟩
  | @fail e waits failure =>
    have hnone := (h.of_waits waits).1
    refine ⟨forall_mem_change (Or.inr (Or.inl rfl)) h.pending, h.archive, ?_, rfl⟩
    refine List.forall_mem_append.2 ⟨forall_mem_change ⟨?_, ?_⟩ hfits.1, hfits.2⟩
    · show e.result.isSome = true ↔ _
      rw [hnone]
      exact ⟨nofun, nofun⟩
    · exact ⟨fun _ => rfl, fun _ => rfl⟩
  | @reject e waits =>
    obtain ⟨hresult, herror⟩ := h.of_waits waits
    refine ⟨forall_mem_change (Or.inr (Or.inr rfl)) h.pending, h.archive, ?_, h.applying⟩
    refine List.forall_mem_append.2 ⟨forall_mem_change ⟨?_, ?_⟩ hfits.1, hfits.2⟩
    · show e.result.isSome = true ↔ _
      rw [hresult]
      exact ⟨nofun, nofun⟩
    · show e.error.isSome = true ↔ _
      rw [herror]
      exact ⟨nofun, nofun⟩
  | clear =>
    exact ⟨fun _ he => absurd he List.not_mem_nil, fun _ he => absurd he List.not_mem_nil,
      fun _ he => absurd he List.not_mem_nil, h.applying⟩
  | assign id status => exact absurd rfl hinside

theorem steps {deeds : List Deed} (h : s.Consistent) (hsteps : Steps s deeds t)
    (hinside : Deed.assigned ∉ deeds) : t.Consistent := by
  induction hsteps with
  | nil s => exact h
  | cons first later ih =>
    rw [List.mem_cons, not_or] at hinside
    exact ih (h.step first (Ne.symm hinside.1)) hinside.2

end Consistent

theorem consistent_fresh (settings : Settings) (level : Level) :
    (fresh settings level).Consistent :=
  ⟨fun _ h => absurd h List.not_mem_nil, fun _ h => absurd h List.not_mem_nil,
    fun _ h => absurd h List.not_mem_nil, rfl⟩

/-! ## A session, seen from outside -/

/-- **What a session looks like**, when the ledger `l` was kept of it. -/
structure Orderly (s : Session) (l : Ledger) : Prop where
  /-- No name comes twice, be it in one queue or in both. -/
  distinct : (ids s.edits).Nodup
  /-- Every edit is found by its name. -/
  found : ∀ e ∈ s.edits, s.get? e.id = some e
  /-- The edits in the first queue wait, failed or were turned down. -/
  pending : ∀ e ∈ s.pending, e.status = .pending ∨ e.status = .failed ∨ e.status = .rejected
  /-- Those in the archive were applied. -/
  archive : ∀ e ∈ s.archive, e.status = .applied
  /-- A text is kept with exactly the edits that were applied. -/
  result : ∀ e ∈ s.edits, (e.result.isSome = true ↔ e.status = .applied)
  /-- A report is kept with exactly the edits that failed. -/
  error : ∀ e ∈ s.edits, (e.error.isSome = true ↔ e.status = .failed)
  /-- Nothing is being applied. -/
  idle : s.applying = false ∧ ∀ e ∈ s.edits, e.status ≠ .applying
  /-- What came in is in one of the queues and not in the other. -/
  covered : ∀ id ∈ l.submitted,
    id ∈ ids s.pending ∧ id ∉ ids s.archive ∨ id ∉ ids s.pending ∧ id ∈ ids s.archive
  /-- The first queue is in the order in which edits came in. -/
  pending_order : (ids s.pending).Sublist l.submitted
  /-- The archive is in the order in which edits were applied. -/
  archive_order : ids s.archive = l.applied

theorem Agrees.orderly {s : Session} {l : Ledger} (hagrees : s.Agrees l)
    (hconsistent : s.Consistent) : s.Orderly l where
  distinct := hagrees.nodup
  found := fun _ he => get?_of_mem hagrees.nodup he
  pending := hconsistent.pending
  archive := hconsistent.archive
  result := fun e he => (hconsistent.fits e he).result
  error := fun e he => (hconsistent.fits e he).error
  idle := by
    refine ⟨hconsistent.applying, List.forall_mem_append.2 ⟨fun e he => ?_, fun e he => ?_⟩⟩
    · rcases hconsistent.pending e he with h | h | h
      all_goals rw [h]; exact nofun
    · rw [hconsistent.archive e he]
      exact nofun
  covered := by
    intro id hid
    rw [hagrees.mem_pending_iff, hagrees.archive]
    by_cases happlied : id ∈ l.applied
    · exact Or.inr ⟨fun h => h.2 happlied, happlied⟩
    · exact Or.inl ⟨⟨hid, happlied⟩, happlied⟩
  pending_order := by
    rw [hagrees.pending]
    exact List.filter_sublist
  archive_order := hagrees.archive

/-- **Every run leaves a session orderly**, as its history tells, if no status
is given from outside. -/
theorem run_orderly (settings : Settings) (level : Level) {requests : List Request}
    (hinside : ∀ request ∈ requests, request.isInside = true) :
    ((fresh settings level).run requests).session.Orderly
      (Ledger.of ((fresh settings level).history requests)) := by
  have hsteps := steps_run (fresh settings level) requests
  have hagrees := (agrees_fresh settings level).steps hsteps
  have hconsistent := (consistent_fresh settings level).steps hsteps
    (assigned_notMem_history hinside)
  exact hagrees.orderly hconsistent

/-- Seven edits of one file, each of which puts `b` for its only line `a`,
behind one that is forgotten. One is turned down, one is tried on another
text, and the rest is applied out of order or all at once, until one finds the
line gone. -/
def mixedRequests : List Request :=
  let submit : Request := .submit (.text ['f'])
    (some { hunks := [{ oldLines := [['a']], newLines := [['b']] }], oldContent := ['a'] })
  [submit, .apply (.issued 0) none, .clear, submit, submit, submit, submit, submit,
   .reject (.issued 2), .apply (.issued 3) (some ['x']), .preview (.issued 1) none,
   .configure { Settings.standard with telemetry := false }, .apply (.issued 4) none,
   .get (.issued 4), .applyAll (some [(['f'], ['a'])]), .apply (.named ['e']) none, submit,
   .rejectAll, submit]

theorem run_orderly_mixed :
    (∀ request ∈ mixedRequests, request.isInside = true)
      ∧ ((fresh .standard .info).run mixedRequests).session.Orderly
        { submitted := (List.range 7).map fun n => .issued (n + 1)
          applied := [.issued 4, .issued 1] } := by
  have hinside : ∀ request ∈ mixedRequests, request.isInside = true := by
    unfold mixedRequests
    simp [Request.isInside]
  have hledger : Ledger.of ((fresh .standard .info).history mixedRequests)
      = { submitted := (List.range 7).map fun n => .issued (n + 1)
          applied := [.issued 4, .issued 1] } := by decide
  exact ⟨hinside, hledger ▸ run_orderly .standard .info hinside⟩

end Session

end DriftPatch
