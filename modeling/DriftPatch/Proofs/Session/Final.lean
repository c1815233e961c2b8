import DriftPatch.Proofs.Session.Orderly

/-!
# What is settled stays settled

An edit waits until it is applied, fails or is turned down, and after that
nothing more becomes of it. Seen between a session and a later one, with
nothing forgotten in between, an edit is either as it was, in the queue it was
in, or it waited and has been settled since (`Session.Fate`). This is shown of
one step, and goes on from step to step because a settled edit does not wait.

What is forgotten does not come back: names are numbers that only grow, and
once all edits were forgotten the queues hold newer numbers only
(`Session.Steps.issued_le_of_cleared`). Nor is a name applied a second time,
for it never waits again (`Session.Spent`).
-/

namespace DriftPatch.Session

variable {s t u : Session} {deed : Deed} {deeds : List Deed} {l : Ledger} {e : Edit}

/-! ## Names -/

/-- A step brings no name into the first queue but the next number. -/
theorem Step.mem_ids_pending (hstep : Step s deed t) {id : EditId} (hid : id ∈ ids t.pending) :
    id ∈ ids s.pending ∨ id = .issued s.issued := by
  cases hstep with
  | idle settings level => exact Or.inl hid
  | submit filePath diff =>
    rw [ids_append, List.mem_append] at hid
    exact hid.imp_right List.mem_singleton.1
  | apply waits content =>
    rw [ids_filter_ne] at hid
    exact Or.inl (List.mem_of_mem_filter hid)
  | fail waits failure =>
    rw [ids_change] at hid
    · exact Or.inl hid
    · exact fun _ _ => rfl
  | reject waits =>
    rw [ids_change] at hid
    · exact Or.inl hid
    · exact fun _ _ => rfl
  | clear => exact absurd hid List.not_mem_nil
  | assign id status =>
    rw [(ids_setStatus s id status).1] at hid
    exact Or.inl hid

/-- It brings no name into the archive that was not in the first queue. -/
theorem Step.mem_ids_archive (hstep : Step s deed t) {id : EditId} (hid : id ∈ ids t.archive) :
    id ∈ ids s.pending ∨ id ∈ ids s.archive := by
  cases hstep with
  | @apply e waits content =>
    rw [ids_append, List.mem_append] at hid
    rcases hid with hid | hid
    · exact Or.inr hid
    · have hname : id = e.id := List.mem_singleton.1 hid
      rw [hname]
      exact Or.inl (mem_ids_of_mem waits.mem)
  | clear => exact absurd hid List.not_mem_nil
  | assign id status =>
    rw [(ids_setStatus s id status).2.1] at hid
    exact Or.inr hid
  | _ => exact Or.inr hid

theorem Step.mem_ids (hstep : Step s deed t) {id : EditId} (hid : id ∈ ids t.edits) :
    id ∈ ids s.edits ∨ id = .issued s.issued := by
  unfold edits at hid ⊢
  rw [ids_append, List.mem_append] at hid ⊢
  rcases hid with hid | hid
  · exact (hstep.mem_ids_pending hid).imp_left Or.inl
  · exact Or.inl (hstep.mem_ids_archive hid)

theorem Step.issued_le (hstep : Step s deed t) : s.issued ≤ t.issued := by
  cases hstep with
  | submit filePath diff => exact Nat.le_succ _
  | assign id status => exact Nat.le_of_eq (ids_setStatus s id status).2.2.symm
  | _ => exact Nat.le_refl _

/-- Names that are new enough are followed by such names only. -/
theorem Steps.le_of_mem_ids (hsteps : Steps s deeds t) {low : Nat} (hlow : low ≤ s.issued)
    (hids : ∀ id ∈ ids s.edits, ∃ n, id = .issued n ∧ low ≤ n) :
    ∀ id ∈ ids t.edits, ∃ n, id = .issued n ∧ low ≤ n := by
  induction hsteps with
  | nil s => exact hids
  | cons first later ih =>
    refine ih (Nat.le_trans hlow first.issued_le) fun id hid => ?_
    rcases first.mem_ids hid with hid | rfl
    · exact hids id hid
    · exact ⟨_, rfl, hlow⟩

/-- **Once all edits were forgotten the queues hold newer numbers only.** -/
theorem Steps.issued_le_of_cleared (hsteps : Steps s deeds t) (hcleared : .cleared ∈ deeds) :
    ∀ id ∈ ids t.edits, ∃ n, id = .issued n ∧ s.issued ≤ n := by
  induction hsteps with
  | nil s => exact absurd hcleared List.not_mem_nil
  | cons first later ih =>
    rcases List.mem_cons.1 hcleared with rfl | hcleared
    · cases first with
      | clear => exact later.le_of_mem_ids (Nat.le_refl _) fun _ hid => absurd hid List.not_mem_nil
    · intro id hid
      obtain ⟨n, hn, hle⟩ := ih hcleared id hid
      exact ⟨n, hn, Nat.le_trans first.issued_le hle⟩

/-- What was forgotten is not found any more. -/
theorem Steps.get?_eq_none_of_cleared (hagrees : s.Agrees l) (hsteps : Steps s deeds t)
    (hcleared : .cleared ∈ deeds) (he : e ∈ s.edits) : t.get? e.id = none := by
  rw [get?_eq_none_iff]
  intro hid
  obtain ⟨n, hn, hle⟩ := hsteps.issued_le_of_cleared hcleared _ hid
  obtain ⟨m, hm, hname⟩ := hagrees.exists_issued (mem_ids_of_mem he)
  rw [hname] at hn
  exact Nat.lt_irrefl m (Nat.lt_of_lt_of_le hm (EditId.issued.inj hn ▸ hle))

/-! ## What becomes of an edit -/

/-- **What becomes of an edit** between a session and a later one. -/
inductive Fate (s t : Session) (e : Edit) : Prop
  /-- Nothing: it is as it was, and where it was. -/
  | stays (pending : e ∈ s.pending → e ∈ t.pending) (archive : e ∈ s.archive → e ∈ t.archive)
      (found : t.get? e.id = some e)
  /-- It waited and was applied, failed or was turned down. -/
  | settled {e' : Edit} (waited : e.status = .pending) (found : t.get? e.id = some e')
      (terminal : e'.isTerminal = true) (filePath : e'.filePath = e.filePath)
      (diff : e'.diff = e.diff)

/-- Nothing more becomes of a settled edit. -/
theorem Fate.of_isTerminal (h : Fate s t e) (hterminal : e.isTerminal = true) :
    (e ∈ s.pending → e ∈ t.pending) ∧ (e ∈ s.archive → e ∈ t.archive)
      ∧ t.get? e.id = some e := by
  cases h with
  | stays pending archive found => exact ⟨pending, archive, found⟩
  | settled waited found terminal filePath diff =>
    exact absurd waited (not_pending_of_isTerminal hterminal)

/-- **What becomes of an edit goes on** from what has become of it. -/
theorem Fate.trans (h : Fate s t e) (hnext : ∀ a, t.get? e.id = some a → Fate t u a) :
    Fate s u e := by
  cases h with
  | stays pending archive found =>
    cases hnext e found with
    | stays pending' archive' found' =>
      exact Fate.stays (fun h => pending' (pending h)) (fun h => archive' (archive h)) found'
    | settled waited found' terminal filePath diff =>
      exact Fate.settled waited found' terminal filePath diff
  | @settled e' waited found terminal filePath diff =>
    obtain ⟨-, hid⟩ := mem_of_get? found
    obtain ⟨-, -, found'⟩ := (hnext e' found).of_isTerminal terminal
    rw [hid] at found'
    exact Fate.settled waited found' terminal filePath diff

/-- What becomes of an edit where one that waits is settled in its place. -/
theorem Agrees.fate_change (h : s.Agrees l) (h' : t.Agrees l) {a : Edit} (hwaits : s.Waits a)
    (settled : Edit) (hid : settled.id = a.id) (hterminal : settled.isTerminal = true)
    (hpath : settled.filePath = a.filePath) (hdiff : settled.diff = a.diff)
    (hpending : t.pending = change a.id (fun _ => settled) s.pending)
    (harchive : t.archive = s.archive) (he : e ∈ s.edits) : Fate s t e := by
  have hmem := mem_ids_of_mem hwaits.mem
  have ht : ∀ b, b ∈ t.pending ↔ b = settled ∨ b ∈ s.pending ∧ b.id ≠ a.id := by
    intro b
    rw [hpending]
    exact mem_change_iff hid hmem
  by_cases hname : e.id = a.id
  · obtain rfl := h.eq_of_id_eq he hwaits.mem_edits hname
    have hsettled : settled ∈ t.edits := List.mem_append_left _ ((ht settled).2 (Or.inl rfl))
    have hfound := get?_of_mem h'.nodup hsettled
    rw [hid] at hfound
    exact Fate.settled hwaits.status hfound hterminal hpath hdiff
  · have hstays : e ∈ s.pending → e ∈ t.pending := fun hp => (ht e).2 (Or.inr ⟨hp, hname⟩)
    have hedits : e ∈ t.edits := by
      refine List.mem_append.2 ((List.mem_append.1 he).imp hstays fun ha => ?_)
      rwa [harchive]
    exact Fate.stays hstays (fun ha => harchive ▸ ha) (get?_of_mem h'.nodup hedits)

/-- **What becomes of an edit in one step** that forgets nothing and comes
from within. -/
theorem Agrees.fate_step (h : s.Agrees l) (hstep : Step s deed t) (hkept : deed ≠ .cleared)
    (hinside : deed ≠ .assigned) (he : e ∈ s.edits) : Fate s t e := by
  have h' := h.step hstep
  cases hstep with
  | idle settings level => exact Fate.stays id id (get?_of_mem h'.nodup he)
  | submit filePath diff =>
    have hedits : e ∈ edits { s with
        pending := s.pending ++ [{ id := .issued s.issued, filePath, diff }]
        issued := s.issued + 1 } :=
      List.mem_append.2 ((List.mem_append.1 he).imp_left (List.mem_append_left _))
    exact Fate.stays (List.mem_append_left _) id (get?_of_mem h'.nodup hedits)
  | @apply a waits content =>
    by_cases hname : e.id = a.id
    · obtain rfl := h.eq_of_id_eq he waits.mem_edits hname
      have hfound := get?_of_mem (e := asApplied e content) h'.nodup
        (List.mem_append_right _ (List.mem_append_right _ (List.mem_singleton_self _)))
      exact Fate.settled waits.status hfound rfl rfl rfl
    · have hstays : e ∈ s.pending → e ∈ s.pending.filter (·.id != a.id) :=
        fun hp => List.mem_filter.2 ⟨hp, bne_iff_ne.2 hname⟩
      have harchive : e ∈ s.archive → e ∈ s.archive ++ [asApplied a content] :=
        List.mem_append_left _
      exact Fate.stays hstays harchive (get?_of_mem h'.nodup
        (List.mem_append.2 ((List.mem_append.1 he).imp hstays harchive)))
  | fail waits failure =>
    exact h.fate_change h' waits (asFailed _ failure) rfl rfl rfl rfl rfl rfl he
  | reject waits => exact h.fate_change h' waits (asRejected _) rfl rfl rfl rfl rfl rfl he
  | clear => exact absurd rfl hkept
  | assign id status => exact absurd rfl hinside

/-- What becomes of an edit along some steps. The induction follows the
steps; the names stay distinct all the way. -/
theorem Agrees.fate_steps (h : s.Agrees l) (hsteps : Steps s deeds t)
    (hkept : .cleared ∉ deeds) (hinside : .assigned ∉ deeds) : ∀ e ∈ s.edits, Fate s t e := by
  induction hsteps generalizing l with
  | nil s => exact fun e he => Fate.stays id id (get?_of_mem h.nodup he)
  | cons first later ih =>
    rw [List.mem_cons, not_or] at hkept hinside
    intro e he
    have hfirst := h.fate_step first (Ne.symm hkept.1) (Ne.symm hinside.1) he
    exact hfirst.trans fun a ha =>
      ih (h.step first) hkept.2 hinside.2 a (mem_of_get? ha).1

/-! ## No name is applied twice -/

/-- **The names applied so far are spent**: each was applied once, and none
of them waits. -/
structure Spent (s : Session) (deeds : List Deed) : Prop where
  /-- No name was applied twice. -/
  once : ∀ id, deeds.count (.applied id) ≤ 1
  /-- What was applied was given a number. -/
  numbered : ∀ id, .applied id ∈ deeds → ∃ n < s.issued, id = .issued n
  /-- What was applied is not in the first queue. -/
  gone : ∀ id, .applied id ∈ deeds → id ∉ ids s.pending

namespace Spent

variable {earlier : List Deed}

/-- A step that applies nothing spends nothing. -/
theorem step_of_ne (h : s.Spent earlier) (hstep : Step s deed t)
    (hne : ∀ id, deed ≠ .applied id) : t.Spent (earlier ++ [deed]) := by
  have hmem : ∀ id, Deed.applied id ∈ earlier ++ [deed] → Deed.applied id ∈ earlier := by
    intro id hid
    rcases List.mem_append.1 hid with hid | hid
    · exact hid
    · exact absurd (List.mem_singleton.1 hid).symm (hne id)
  refine ⟨fun id => ?_, fun id hid => ?_, fun id hid hpending => ?_⟩
  · rw [List.count_append, List.count_eq_zero.2 fun hid =>
      hne id (List.mem_singleton.1 hid).symm]
    exact h.once id
  · obtain ⟨n, hn, hname⟩ := h.numbered id (hmem id hid)
    exact ⟨n, Nat.lt_of_lt_of_le hn hstep.issued_le, hname⟩
  · rcases hstep.mem_ids_pending hpending with hpending | hname
    · exact h.gone id (hmem id hid) hpending
    · -- the next number was not given to anyone yet
      obtain ⟨n, hn, hname'⟩ := h.numbered id (hmem id hid)
      rw [hname] at hname'
      exact Nat.lt_irrefl n (EditId.issued.inj hname' ▸ hn)

/-- Nor does one that applies an edit spend a name twice, since that edit
waited. -/
theorem step_apply (h : s.Spent earlier) (hagrees : s.Agrees l) (hwaits : s.Waits e)
    (content : Text) :
    Spent
      { s with
        pending := s.pending.filter (·.id != e.id)
        archive := s.archive ++ [asApplied e content]
        applying := false }
      (earlier ++ [.applied e.id]) := by
  have hname := mem_ids_of_mem hwaits.mem
  refine ⟨fun id => ?_, fun id hid => ?_, fun id hid hpending => ?_⟩
  · rw [List.count_append]
    by_cases hid : id = e.id
    · have hnew : Deed.applied id ∉ earlier := fun hearlier => h.gone id hearlier (hid ▸ hname)
      rw [List.count_eq_zero.2 hnew, Nat.zero_add]
      exact List.count_le_length
    · have hother : Deed.applied id ∉ [Deed.applied e.id] := fun hmem =>
        hid (Deed.applied.inj (List.mem_singleton.1 hmem))
      rw [List.count_eq_zero.2 hother]
      exact h.once id
  · rcases List.mem_append.1 hid with hid | hid
    · exact h.numbered id hid
    · rw [Deed.applied.inj (List.mem_singleton.1 hid)]
      exact hagrees.exists_issued (mem_ids_of_mem hwaits.mem_edits)
  · rw [ids_filter_ne, List.mem_filter, bne_iff_ne] at hpending
    rcases List.mem_append.1 hid with hid | hid
    · exact h.gone id hid hpending.1
    · exact hpending.2 (Deed.applied.inj (List.mem_singleton.1 hid))

theorem step (h : s.Spent earlier) (hagrees : s.Agrees l) (hstep : Step s deed t) :
    t.Spent (earlier ++ [deed]) := by
  cases hstep with
  | apply waits content => exact h.step_apply hagrees waits content
  | idle settings level => exact h.step_of_ne (Step.idle settings level) nofun
  | submit filePath diff => exact h.step_of_ne (Step.submit filePath diff) nofun
  | fail waits failure => exact h.step_of_ne (Step.fail waits failure) nofun
  | reject waits => exact h.step_of_ne (Step.reject waits) nofun
  | clear => exact h.step_of_ne Step.clear nofun
  | assign id status => exact h.step_of_ne (Step.assign id status) nofun

theorem steps (h : s.Spent earlier) (hagrees : s.Agrees l) (hsteps : Steps s deeds t) :
    t.Spent (earlier ++ deeds) := by
  induction hsteps generalizing earlier l with
  | nil s => rwa [List.append_nil]
  | @cons s t u deed deeds first later ih =>
    have hfirst := ih (h.step hagrees first) (hagrees.step first)
    rwa [List.append_assoc] at hfirst

end Spent

theorem spent_nil (s : Session) : s.Spent [] :=
  ⟨fun _ => Nat.zero_le _, fun _ h => absurd h List.not_mem_nil,
    fun _ h => absurd h List.not_mem_nil⟩

/-! ## Runs -/

/-- **What is settled stays settled** while a session answers some requests,
and what is forgotten stays forgotten. -/
structure Lasting (s : Session) (requests : List Request) : Prop where
  /-- An edit stays as it is and where it is, or it waits and is settled. -/
  fate : .clear ∉ requests → ∀ e ∈ s.edits, Fate s (s.run requests).session e
  /-- A settled edit stays as it is and where it is. -/
  settled : .clear ∉ requests → ∀ e ∈ s.edits, e.isTerminal = true →
    (e ∈ s.pending → e ∈ (s.run requests).session.pending)
      ∧ (e ∈ s.archive → e ∈ (s.run requests).session.archive)
      ∧ (s.run requests).session.get? e.id = some e
  /-- Once all edits were forgotten none of them is found again. -/
  forgotten : .clear ∈ requests → ∀ e ∈ s.edits, (s.run requests).session.get? e.id = none

/-- **From any moment of a run on what is settled stays settled**, and in the
whole of the run no edit is applied twice, if no status is given from
outside. The history that this is said of tells of as many edits applied as
the answers of the run, those to batches included. -/
theorem run_lasting (settings : Settings) (level : Level) {before after : List Request}
    (hinside : ∀ request ∈ before ++ after, request.isInside = true) :
    ((fresh settings level).run before).session.Lasting after
      ∧ (∀ id, ((fresh settings level).history (before ++ after)).count (.applied id) ≤ 1)
      ∧ ((fresh settings level).history (before ++ after)).countP Deed.isApplied
        = ((before ++ after).zipWith Request.successes
          ((fresh settings level).run (before ++ after)).answer).foldr (· + ·) 0 := by
  have hagrees := (agrees_fresh settings level).steps (steps_run _ before)
  have hsteps := steps_run ((fresh settings level).run before).session after
  have hassigned := assigned_notMem_history
    (s := ((fresh settings level).run before).session)
    (List.forall_mem_append.1 hinside).2
  have hspent := (spent_nil (fresh settings level)).steps (agrees_fresh settings level)
    (steps_run _ (before ++ after))
  have hfate (hkept : .clear ∉ after) :=
    hagrees.fate_steps hsteps (fun h => hkept (cleared_mem_history_iff.1 h)) hassigned
  refine ⟨⟨hfate, ?_, ?_⟩, hspent.once, countP_history _ _⟩
  · exact fun hkept e he hterminal => (hfate hkept e he).of_isTerminal hterminal
  · exact fun hcleared e he =>
      hsteps.get?_eq_none_of_cleared hagrees (cleared_mem_history_iff.2 hcleared) he

/-- Of the edits of `mixedRequests` the first one is applied and then
forgotten. Of the five that come in next one is turned down and one fails
before any is applied. -/
theorem run_lasting_mixed :
    (∀ request ∈ mixedRequests, request.isInside = true)
      ∧ .clear ∈ mixedRequests.drop 2 ∧ .clear ∉ mixedRequests.drop 10
      ∧ ((fresh .standard .info).run (mixedRequests.take 2)).session.edits.map (·.status)
        = [.applied]
      ∧ ((fresh .standard .info).run (mixedRequests.take 10)).session.edits.map (·.status)
        = [.pending, .rejected, .failed, .pending, .pending]
      ∧ ((fresh .standard .info).run (mixedRequests.take 2)).session.Lasting
        (mixedRequests.drop 2)
      ∧ ((fresh .standard .info).run (mixedRequests.take 10)).session.Lasting
        (mixedRequests.drop 10)
      ∧ (∀ id, ((fresh .standard .info).history mixedRequests).count (.applied id) ≤ 1)
      ∧ ((fresh .standard .info).history mixedRequests).countP Deed.isApplied
        = (mixedRequests.zipWith Request.successes
          ((fresh .standard .info).run mixedRequests).answer).foldr (· + ·) 0 := by
  have hinside : ∀ n, ∀ request ∈ mixedRequests.take n ++ mixedRequests.drop n,
      request.isInside = true := by
    intro n
    rw [List.take_append_drop]
    unfold mixedRequests
    simp [Request.isInside]
  have hlasting := run_lasting .standard .info (hinside 10)
  refine ⟨hinside 0, ?_, ?_, by decide, by decide,
    (run_lasting .standard .info (hinside 2)).1, hlasting.1, hlasting.2⟩
  · unfold mixedRequests
    simp
  · unfold mixedRequests
    simp

end DriftPatch.Session
