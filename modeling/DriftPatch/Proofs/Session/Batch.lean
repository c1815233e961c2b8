import DriftPatch.Proofs.Session.Attempt

/-!
# Applying all edits that wait

A batch tries every edit that waits, in the order of the queue, and each on
its own account. The only thing that one attempt hands on to the later ones
is the text it made, and only to the edits of the same file, and only if a
text was given for that file: `startText` says what an edit starts from in
terms of the texts that were given and the attempts before it. The batch
itself writes to a copy of the texts that it was given; `Carries` says how
that copy follows from them, and they stay as they are
(`Session.given_applyEach`).

What comes of a batch is then a matter of its attempts alone
(`Session.run_appliedInTurn`): the batch does what applying the edits one
after another to these texts does, every edit tried is settled, and no other
edit is touched.
-/

namespace DriftPatch

/-- What is asked for in an attempt: to apply the edit to this very text. -/
def Attempt.request (a : Attempt) : Request :=
  .apply a.edit.id (some a.base)

/-- How many attempts succeeded and how many did not. -/
def Session.Tally.of (answers : List Bool) : Session.Tally :=
  { succeeded := answers.count true, failed := answers.count false }

theorem Effect.andThen_congr {α β : Type} {first : Effect α} {next next' : Session → Effect β}
    (h : next first.session = next' first.session) : first.andThen next = first.andThen next' := by
  unfold andThen
  rw [h]

namespace Session

/-! ## The texts to start from -/

/-- The text that the latest successful attempt on a file has made. -/
def made (attempts : List Attempt) (path : Text) : Option Text :=
  (attempts.filter fun a => a.edit.filePath == path && a.outcome.ok).getLast?.map
    (·.outcome.content)

/-- **The text an edit starts from** in a batch, after some attempts: where a
text was given for its file, the latest that was made of it, or else the text
given; and where none was given the text that its diff was made from. -/
def startText (contents : Option (Table Text Text)) (before : List Attempt) (e : Edit) : Text :=
  match contents.bind (·.get? e.filePath) with
  | some given => (made before e.filePath).getD given
  | none => e.diff.oldContent

/-- The attempts on some edits in order, after those `before`. -/
def attemptsFrom (s : Session) (contents : Option (Table Text Text)) (before : List Attempt) :
    List Edit → List Attempt
  | [] => []
  | e :: es =>
    let a := s.attempt e (startText contents before e)
    a :: attemptsFrom s contents (before ++ [a]) es

/-- **The copy that a batch writes to** holds for each file that a text was
given for the latest text that was made of it, and for no other file a
text. -/
def Carries (contents : Option (Table Text Text)) (before : List Attempt) (texts : Texts) :
    Prop :=
  ∀ path, texts.text? path
    = (contents.bind (·.get? path)).map fun given => (made before path).getD given

variable {s : Session} {e : Edit} {a : Attempt} {before attempts : List Attempt}
variable {es : List Edit} {contents : Option (Table Text Text)} {texts : Texts}

theorem made_append_singleton (before : List Attempt) (a : Attempt) (path : Text) :
    made (before ++ [a]) path
      = if a.edit.filePath == path && a.outcome.ok then some a.outcome.content
        else made before path := by
  unfold made
  rw [List.filter_append, List.filter_singleton]
  cases a.edit.filePath == path && a.outcome.ok with
  | true =>
    rw [cond_true, List.getLast?_concat]
    rfl
  | false =>
    rw [cond_false, List.append_nil]
    rfl

theorem carries_copied (contents : Option (Table Text Text)) :
    Carries contents [] (.copied contents) := by
  intro path
  show _ = (contents.bind (·.get? path)).map id
  rw [Option.map_id, id_eq]
  rfl

theorem Carries.baseText_eq (h : Carries contents before texts) (e : Edit) :
    baseText e (texts.text? e.filePath) = startText contents before e := by
  unfold baseText startText
  rw [h e.filePath]
  cases contents.bind (·.get? e.filePath) <;> rfl

/-- A text takes the place of another one, and is not put where there was
none. -/
theorem Texts.text?_replace (texts : Texts) (path text other : Text) :
    (texts.replace path text).text? other
      = (texts.text? other).map fun old => if path == other then text else old := by
  cases hworking : texts.working with
  | none => simp [replace, text?, hworking]
  | some table =>
    show Option.bind (texts.working.map _) _ = Option.map _ (texts.working.bind _)
    rw [hworking, Option.map_some, Option.bind_some, Option.bind_some,
      Table.holds_eq_isSome_get?]
    by_cases hpath : path = other
    · obtain rfl := hpath
      simp only [beq_self_eq_true, if_true]
      cases hold : table.get? path with
      | none => exact hold
      | some old =>
        show (table.put path text).get? path = some text
        rw [Table.get?_put, beq_self_eq_true, if_pos rfl]
    · have hne : (path == other) = false := beq_false_of_ne hpath
      have hne' : (other == path) = false := beq_false_of_ne (Ne.symm hpath)
      simp only [hne, Bool.false_eq_true, if_false, Option.map_id']
      split
      · rw [Table.get?_put, hne', if_neg Bool.false_ne_true]
      · rfl

theorem carryOver_of_result {b : Edit} {text : Text} (hfound : s.get? e.id = some b)
    (hresult : b.result = some text) (texts : Texts) :
    s.carryOver e texts = texts.replace e.filePath text := by
  rw [carryOver, hfound, Option.bind_some, hresult]

/-- **The copy stays right** when the text that an attempt made is put into
it. -/
theorem Carries.carryOver (h : Carries contents before texts) (hs : s.Sound)
    (hwaits : s.Waits e) (ha : a = s.attempt e (startText contents before e)) :
    Carries contents (before ++ [a])
      (if a.outcome.ok then (s.settle a).carryOver e texts else texts) := by
  intro path
  have hmade := made_append_singleton before a path
  -- A failure makes no text, and the copy is passed on as it is.
  by_cases hok : a.outcome.ok = true
  · have hfound : (s.settle a).get? e.id = some a.settled := by
      rw [ha]
      exact hs.get?_settle hwaits _
    have hresult : a.settled.result = some a.outcome.content := by
      rw [Attempt.settled_of_none (Option.isNone_iff_eq_none.1 hok)]
      rfl
    have hedit : a.edit.filePath = e.filePath := by rw [ha]; rfl
    rw [if_pos hok, carryOver_of_result hfound hresult, Texts.text?_replace, h path,
      Option.map_map]
    rw [hok, Bool.and_true, hedit] at hmade
    refine congrArg (Option.map · (contents.bind (·.get? path))) (funext fun given => ?_)
    show (if e.filePath == path then _ else _) = (made (before ++ [a]) path).getD given
    rw [hmade]
    split <;> rfl
  · rw [Bool.not_eq_true] at hok
    rw [hok, Bool.and_false, if_neg Bool.false_ne_true] at hmade
    rw [hok, if_neg Bool.false_ne_true, hmade]
    exact h path

/-! ## The texts of the caller -/

theorem given_carryOver (s : Session) (e : Edit) (texts : Texts) :
    (s.carryOver e texts).given = texts.given := by
  unfold carryOver
  split <;> rfl

/-- **A batch leaves the texts of the caller as they are**: what it writes goes
into the copy. -/
theorem given_applyEach (es : List Edit) (texts : Texts) (s : Session) :
    (applyEach es texts s).answer.texts.given = texts.given := by
  induction es generalizing texts s with
  | nil => rfl
  | cons e es ih =>
    rw [applyEach]
    refine (ih _ _).trans ?_
    split
    · exact given_carryOver _ e texts
    · rfl

/-! ## What the attempts of a batch are -/

theorem edits_attemptsFrom (s : Session) (contents : Option (Table Text Text))
    (before : List Attempt) (es : List Edit) :
    (s.attemptsFrom contents before es).map (·.edit) = es := by
  induction es generalizing before with
  | nil => rfl
  | cons e es ih => exact congrArg (e :: ·) (ih _)

/-- Every attempt of a batch places the hunks of its edit in the text that the
edit starts from. -/
theorem eq_attempt_of_attemptsFrom {front back : List Attempt}
    (h : s.attemptsFrom contents before es = front ++ a :: back) :
    a = s.attempt a.edit (startText contents (before ++ front) a.edit) := by
  induction es generalizing before front with
  | nil => exact absurd h.symm (List.append_ne_nil_of_right_ne_nil front (List.cons_ne_nil a back))
  | cons e es ih =>
    rw [attemptsFrom] at h
    cases front with
    | nil =>
      obtain ⟨rfl, -⟩ := List.cons.inj h
      rw [List.append_nil]
      rfl
    | cons b front =>
      obtain ⟨rfl, hrest⟩ := List.cons.inj h
      have hlater := ih hrest
      rwa [List.append_assoc] at hlater

theorem attemptsFrom_congr {t : Session} (h : t.settings = s.settings)
    (contents : Option (Table Text Text)) (before : List Attempt) (es : List Edit) :
    t.attemptsFrom contents before es = s.attemptsFrom contents before es := by
  induction es generalizing before with
  | nil => rfl
  | cons e es ih =>
    have hattempt (base : Text) : t.attempt e base = s.attempt e base := by
      unfold attempt
      rw [h]
    rw [attemptsFrom, attemptsFrom, hattempt, ih]

/-! ## Making attempts -/

/-- What attempts on edits do, one after another. The answer is which of them
succeeded. -/
def triedEach : List Attempt → Session → Effect (List Bool)
  | [], s => { session := s, answer := [] }
  | a :: rest, s =>
    (s.tried a).andThen fun s => (triedEach rest s).map (a.outcome.ok :: ·)

/-- **Attempts that a session can make**: the edits wait, none of them comes
twice, and each attempt comes to what placing the hunks of its edit comes
to. -/
structure Due (s : Session) (attempts : List Attempt) : Prop where
  /-- The edits wait. -/
  waits : ∀ a ∈ attempts, s.Waits a.edit
  /-- It comes to what placing the hunks comes to. -/
  eq_attempt : ∀ a ∈ attempts, a = s.attempt a.edit a.base
  /-- No edit comes twice. -/
  distinct : (attempts.map (·.edit.id)).Nodup

theorem Due.id_ne (h : s.Due (a :: attempts)) : a.edit.id ∉ attempts.map (·.edit.id) :=
  (List.nodup_cons.1 h.distinct).1

/-- Once the first of them was made, the others can be made. -/
theorem Due.settle (h : s.Due (a :: attempts)) : (s.settle a).Due attempts := by
  refine ⟨fun b hb => ?_, fun b hb => ?_, (List.nodup_cons.1 h.distinct).2⟩
  · refine waits_settle (fun hid => h.id_ne ?_) (h.waits b (List.mem_cons_of_mem a hb))
    exact List.mem_map.2 ⟨b, hb, hid⟩
  · unfold attempt
    rw [settings_settle]
    exact h.eq_attempt b (List.mem_cons_of_mem a hb)

theorem Sound.settle_of_due (hs : s.Sound) (h : s.Due (a :: attempts)) :
    (s.settle a).Sound := by
  have hsound := hs.settle (h.waits a List.mem_cons_self) a.base
  rwa [← h.eq_attempt a List.mem_cons_self] at hsound

theorem answer_triedEach (attempts : List Attempt) (s : Session) :
    (triedEach attempts s).answer = attempts.map (·.outcome.ok) := by
  induction attempts generalizing s with
  | nil => rfl
  | cons a attempts ih => exact congrArg (a.outcome.ok :: ·) (ih (s.settle a))

theorem session_triedEach (attempts : List Attempt) (s : Session) :
    (triedEach attempts s).session = attempts.foldl settle s := by
  induction attempts generalizing s with
  | nil => rfl
  | cons a attempts ih => exact ih (s.settle a)

/-- **Asking for the attempts one after another makes them.** -/
theorem Sound.run_requests (hs : s.Sound) (hdue : s.Due attempts) :
    s.run (attempts.map (·.request)) = (triedEach attempts s).map (List.map Answer.done) := by
  induction attempts generalizing s with
  | nil => rfl
  | cons a attempts ih =>
    have hfirst : s.perform a.request = (s.tried a).map Answer.done := by
      have happly := hs.apply_eq (hdue.waits a List.mem_cons_self) (some a.base)
      show (s.apply a.edit.id (some a.base)).map Answer.done = _
      rw [happly]
      exact congrArg (fun b => (s.tried b).map Answer.done)
        (hdue.eq_attempt a List.mem_cons_self).symm
    have hrest := ih (hs.settle_of_due hdue) hdue.settle
    calc s.run ((a :: attempts).map (·.request))
        = (s.perform a.request).andThen fun t =>
            (t.run (attempts.map (·.request))).map ((s.perform a.request).answer :: ·) := rfl
      _ = ((s.tried a).map Answer.done).andThen fun t =>
            (t.run (attempts.map (·.request))).map (.done a.outcome.ok :: ·) := by
          rw [hfirst]
          rfl
      _ = ((s.tried a).map Answer.done).andThen fun t =>
            ((triedEach attempts t).map (List.map Answer.done)).map (.done a.outcome.ok :: ·) :=
          Effect.andThen_congr (congrArg (Effect.map _) hrest)
      _ = (triedEach (a :: attempts) s).map (List.map Answer.done) := rfl

theorem Tally.of_cons (applied : Bool) (answers : List Bool) :
    Tally.of (applied :: answers) = (Tally.of answers).counting applied := by
  cases applied with
  | true => simp [Tally.of, counting]
  | false => simp [Tally.of, counting]

/-- **A batch makes its attempts.** The induction follows the edits; what
carries it is that the copy of the texts is right. -/
theorem Sound.applyEach_eq (hs : s.Sound) (hdue : s.Due (s.attemptsFrom contents before es))
    (htexts : Carries contents before texts) :
    (applyEach es texts s).map Batch.tally
      = (triedEach (s.attemptsFrom contents before es) s).map Tally.of := by
  induction es generalizing s before texts with
  | nil => rfl
  | cons e es ih =>
    rw [attemptsFrom] at hdue ⊢
    generalize ha : s.attempt e (startText contents before e) = a at hdue ⊢
    have hwaits : s.Waits e := by
      have hfirst := hdue.waits a List.mem_cons_self
      rwa [← ha] at hfirst
    -- What the copy holds for the file is where the edit starts from.
    have hfirst : s.apply e.id (texts.text? e.filePath) = s.tried a := by
      rw [hs.apply_eq hwaits, htexts.baseText_eq, ha]
    -- The attempts that follow are the same from here on, as settling an edit
    -- leaves the settings alone.
    have hdue' := hdue.settle
    rw [← attemptsFrom_congr (settings_settle s a)] at hdue'
    have hrest := ih (hs.settle_of_due hdue) hdue' (htexts.carryOver hs hwaits ha.symm)
    rw [attemptsFrom_congr (settings_settle s a)] at hrest
    rw [applyEach, hfirst]
    calc _
        = (s.tried a).andThen fun t =>
            ((applyEach es (if a.outcome.ok then (s.settle a).carryOver e texts else texts) t).map
              Batch.tally).map (·.counting a.outcome.ok) := rfl
      _ = (s.tried a).andThen fun t =>
            ((triedEach (s.attemptsFrom contents (before ++ [a]) es) t).map Tally.of).map
              (·.counting a.outcome.ok) :=
          Effect.andThen_congr (congrArg (Effect.map _) hrest)
      _ = (triedEach (a :: s.attemptsFrom contents (before ++ [a]) es) s).map Tally.of := by
          simp only [triedEach, Effect.andThen, Effect.map, Tally.of_cons]

/-! ## The session after some attempts -/

theorem archive_settleEach (s : Session) (attempts : List Attempt) :
    (attempts.foldl settle s).archive
      = s.archive ++ (attempts.filter (·.outcome.ok)).map (·.settled) := by
  induction attempts generalizing s with
  | nil => exact (List.append_nil _).symm
  | cons a attempts ih =>
    rw [List.foldl_cons, ih, archive_settle, List.append_assoc, List.filter_cons]
    split
    · rfl
    · rfl

/-- **An edit that was not tried stays as it is** and where it is. -/
theorem mem_settleEach (h : e.id ∉ attempts.map (·.edit.id)) :
    (e ∈ s.pending → e ∈ (attempts.foldl settle s).pending)
      ∧ (e ∈ s.archive → e ∈ (attempts.foldl settle s).archive) := by
  induction attempts generalizing s with
  | nil => exact ⟨id, id⟩
  | cons a attempts ih =>
    rw [List.map_cons, List.mem_cons, not_or] at h
    obtain ⟨hpending, harchive⟩ := mem_settle (s := s) h.1
    obtain ⟨hpending', harchive'⟩ := ih (s := s.settle a) h.2
    exact ⟨fun he => hpending' (hpending he), fun he => harchive' (harchive he)⟩

/-- What is in the first queue afterwards was not tried, or is as it was
settled. -/
theorem mem_pending_settleEach (h : e ∈ (attempts.foldl settle s).pending) :
    e ∈ s.pending ∧ e.id ∉ attempts.map (·.edit.id) ∨ ∃ a ∈ attempts, e = a.settled := by
  induction attempts generalizing s with
  | nil => exact Or.inl ⟨h, List.not_mem_nil⟩
  | cons a attempts ih =>
    rcases ih h with ⟨he, hid⟩ | ⟨b, hb, he⟩
    · rcases mem_pending_settle he with ⟨he, hne⟩ | rfl
      · refine Or.inl ⟨he, ?_⟩
        rw [List.map_cons, List.mem_cons, not_or]
        exact ⟨hne, hid⟩
      · exact Or.inr ⟨a, List.mem_cons_self, rfl⟩
    · exact Or.inr ⟨b, List.mem_cons_of_mem a hb, he⟩

theorem Sound.settleEach (hs : s.Sound) (hdue : s.Due attempts) :
    (attempts.foldl Session.settle s).Sound := by
  induction attempts generalizing s with
  | nil => exact hs
  | cons a attempts ih => exact ih (hs.settle_of_due hdue) hdue.settle

theorem Due.mem_edits (hdue : s.Due attempts) (ha : a ∈ attempts) :
    a.settled ∈ (attempts.foldl Session.settle s).edits := by
  induction attempts generalizing s with
  | nil => exact absurd ha List.not_mem_nil
  | cons b attempts ih =>
    rcases List.mem_cons.1 ha with rfl | ha
    · have hid : a.settled.id ∉ attempts.map (·.edit.id) := by
        rw [Attempt.id_settled]
        exact hdue.id_ne
      have hfirst := mem_edits_settle (hdue.waits a List.mem_cons_self).mem
      obtain ⟨hpending, harchive⟩ := mem_settleEach (s := s.settle a) hid
      exact List.mem_append.2 ((List.mem_append.1 hfirst).imp hpending harchive)
    · exact ih hdue.settle ha

/-- **Every edit that was tried is found as it was settled.** -/
theorem Sound.get?_settleEach (hs : s.Sound) (hdue : s.Due attempts) (ha : a ∈ attempts) :
    (attempts.foldl Session.settle s).get? a.edit.id = some a.settled := by
  have hfound := get?_of_mem (hs.settleEach hdue).distinct (hdue.mem_edits ha)
  rwa [Attempt.id_settled] at hfound

/-! ## Batches -/

/-- The edits of a session that wait, in order. -/
def waitingEdits (s : Session) : List Edit :=
  s.pending.filter (·.status == .pending)

theorem mem_waitingEdits_iff : e ∈ s.waitingEdits ↔ s.Waits e := by
  unfold waitingEdits
  rw [List.mem_filter, beq_iff_eq]
  exact ⟨fun h => ⟨h.1, h.2⟩, fun h => ⟨h.1, h.2⟩⟩

/-- The attempts of a batch. -/
def attemptsOn (s : Session) (contents : Option (Table Text Text)) : List Attempt :=
  s.attemptsFrom contents [] s.waitingEdits

theorem edits_attemptsOn (s : Session) (contents : Option (Table Text Text)) :
    (s.attemptsOn contents).map (·.edit) = s.waitingEdits :=
  edits_attemptsFrom s contents [] s.waitingEdits

theorem mem_ids_attemptsOn_iff {id : EditId} :
    id ∈ (s.attemptsOn contents).map (·.edit.id) ↔ ∃ e, s.Waits e ∧ e.id = id := by
  have hids : (s.attemptsOn contents).map (·.edit.id) = ids s.waitingEdits := by
    rw [← edits_attemptsOn s contents, ids, List.map_map]
    rfl
  rw [hids, ids, List.mem_map]
  exact exists_congr fun e => and_congr_left fun _ => mem_waitingEdits_iff

theorem Sound.due_attemptsOn (hs : s.Sound) (contents : Option (Table Text Text)) :
    s.Due (s.attemptsOn contents) := by
  have hedits := edits_attemptsOn s contents
  refine ⟨fun a ha => ?_, fun a ha => ?_, ?_⟩
  · rw [← mem_waitingEdits_iff, ← hedits]
    exact List.mem_map_of_mem ha
  · obtain ⟨front, back, hsplit⟩ := List.append_of_mem ha
    have heq := eq_attempt_of_attemptsFrom hsplit
    rw [heq]
    rfl
  · have hsub : (ids s.waitingEdits).Sublist (ids s.edits) :=
      (List.filter_sublist.trans (List.sublist_append_left _ _)).map _
    have hnodup := hsub.nodup hs.distinct
    rwa [← hedits, ids, List.map_map] at hnodup

/-- **A batch makes its attempts**, and answers how many succeeded. The texts
that it was given come back as they were. -/
theorem Sound.perform_applyAll (hs : s.Sound) (contents : Option (Table Text Text)) :
    s.perform (.applyAll contents)
      = (triedEach (s.attemptsOn contents) s).map fun answers =>
          .tally (Tally.of answers) contents := by
  have hbatch : (s.applyAll contents).map Batch.tally
      = (triedEach (s.attemptsOn contents) s).map Tally.of :=
    hs.applyEach_eq (hs.due_attemptsOn contents) (carries_copied contents)
  have hgiven : (s.applyAll contents).answer.texts.given = contents :=
    given_applyEach _ (.copied contents) s
  calc s.perform (.applyAll contents)
      = ((s.applyAll contents).map Batch.tally).map fun tally =>
          .tally tally (s.applyAll contents).answer.texts.given := rfl
    _ = ((triedEach (s.attemptsOn contents) s).map Tally.of).map fun tally =>
          .tally tally contents := by rw [hbatch, hgiven]
    _ = (triedEach (s.attemptsOn contents) s).map fun answers =>
          .tally (Tally.of answers) contents := rfl

/-- **What applying all edits that wait comes to**, told by the attempts that
it makes. -/
structure AppliedInTurn (s : Session) (contents : Option (Table Text Text))
    (attempts : List Attempt) : Prop where
  /-- Every edit that waits is tried once, in order. -/
  edits : attempts.map (·.edit) = s.waitingEdits
  /-- Each starts from the text that the ones before leave it. -/
  base : ∀ before a after, attempts = before ++ a :: after →
    a.base = startText contents before a.edit
  /-- Each comes to what placing its hunks in this text comes to. -/
  outcome : ∀ a ∈ attempts, a.outcome = applyHunks s.settings.excerpt a.base a.edit.diff.hunks
  /-- Nothing else is done than applying the edits to these texts, one after
  another. -/
  inTurn : s.run (attempts.map (·.request))
    = (s.perform (.applyAll contents)).map fun _ => attempts.map fun a => .done a.outcome.ok
  /-- The answer counts successes and failures. The texts that the caller gave
  are as they were. -/
  answer : (s.perform (.applyAll contents)).answer
    = .tally
      { succeeded := attempts.countP (·.outcome.ok), failed := attempts.countP (!·.outcome.ok) }
      contents
  /-- Every edit that waits is counted. -/
  total : attempts.countP (·.outcome.ok) + attempts.countP (!·.outcome.ok)
    = s.waitingEdits.length
  /-- An edit whose hunks were placed is applied, and the text that this made is
  kept with it. -/
  applied : ∀ a ∈ attempts, a.outcome.failure = none →
    (s.perform (.applyAll contents)).session.get? a.edit.id
      = some
        { a.edit with status := .applied, result := some a.outcome.content, error := none }
  /-- Any other edit that was tried has failed, and the report of the failure is
  kept with it. -/
  failed : ∀ a ∈ attempts, ∀ failure, a.outcome.failure = some failure →
    (s.perform (.applyAll contents)).session.get? a.edit.id
      = some { a.edit with status := .failed, result := none, error := some failure.message }
  /-- No edit is left that waits. -/
  noneWaits : ∀ e ∈ (s.perform (.applyAll contents)).session.pending, e.status ≠ .pending
  /-- Those that were applied have moved to the end of the archive, in
  order. -/
  archive : (s.perform (.applyAll contents)).session.archive
    = s.archive ++ (attempts.filter (·.outcome.ok)).map fun a =>
      { a.edit with status := .applied, result := some a.outcome.content, error := none }
  /-- All others are as they were and where they were. -/
  untouched : ∀ e ∈ s.edits, e ∉ s.waitingEdits →
    (e ∈ s.pending → e ∈ (s.perform (.applyAll contents)).session.pending)
      ∧ (e ∈ s.archive → e ∈ (s.perform (.applyAll contents)).session.archive)
      ∧ (s.perform (.applyAll contents)).session.get? e.id = some e

theorem Tally.of_map_ok (attempts : List Attempt) :
    Tally.of (attempts.map (·.outcome.ok))
      = { succeeded := attempts.countP (·.outcome.ok)
          failed := attempts.countP (!·.outcome.ok) } := by
  unfold Tally.of
  rw [List.count_eq_countP, List.count_eq_countP, List.countP_map, List.countP_map]
  congr 1
  · refine List.countP_congr fun a _ => ?_
    simp
  · refine List.countP_congr fun a _ => ?_
    simp

/-- **In a session of any history, applying all edits that wait is applying
them in turn.** -/
theorem Sound.appliedInTurn (hs : s.Sound) (contents : Option (Table Text Text)) :
    s.AppliedInTurn contents (s.attemptsOn contents) := by
  have hdue := hs.due_attemptsOn contents
  have hedits := edits_attemptsOn s contents
  have hbatch := hs.perform_applyAll contents
  have hanswer := answer_triedEach (s.attemptsOn contents) s
  have hsession : (s.perform (.applyAll contents)).session
      = (s.attemptsOn contents).foldl Session.settle s := by
    rw [hbatch]
    exact session_triedEach _ s
  refine ⟨hedits, fun before a after h => ?_, fun a ha => ?_, ?_, ?_, ?_, fun a ha hok => ?_,
    fun a ha failure hfailure => ?_, ?_, ?_, ?_⟩
  · exact congrArg Attempt.base (eq_attempt_of_attemptsFrom h)
  · exact congrArg Attempt.outcome (hdue.eq_attempt a ha)
  · rw [hs.run_requests hdue, hbatch]
    unfold Effect.map
    rw [hanswer, List.map_map]
    rfl
  · rw [hbatch]
    show Answer.tally (Tally.of (triedEach _ s).answer) contents = _
    rw [hanswer, Tally.of_map_ok]
  · rw [← hedits, List.length_map,
      List.length_eq_countP_add_countP fun a : Attempt => a.outcome.ok]
    simp
  · rw [hsession, hs.get?_settleEach hdue ha, Attempt.settled_of_none hok]
    rfl
  · rw [hsession, hs.get?_settleEach hdue ha, hs.settled_of_some (hdue.waits a ha) hfailure]
  · rw [hsession]
    intro e he hstatus
    rcases mem_pending_settleEach he with ⟨he, hid⟩ | ⟨a, -, rfl⟩
    · exact hid (mem_ids_attemptsOn_iff.2 ⟨e, ⟨he, hstatus⟩, rfl⟩)
    · exact not_pending_of_isTerminal a.isTerminal_settled hstatus
  · rw [hsession, archive_settleEach]
    refine congrArg (s.archive ++ ·) (List.map_congr_left fun a ha => ?_)
    exact Attempt.settled_of_none (Option.isNone_iff_eq_none.1 (List.mem_filter.1 ha).2)
  · rw [hsession]
    intro e he hwaits
    have hid : e.id ∉ (s.attemptsOn contents).map (·.edit.id) := by
      rw [mem_ids_attemptsOn_iff]
      rintro ⟨b, hb, hname⟩
      rw [hs.eq_of_id_eq hb.mem_edits he hname, ← mem_waitingEdits_iff] at hb
      exact hwaits hb
    obtain ⟨hpending, harchive⟩ := mem_settleEach (s := s) hid
    refine ⟨hpending, harchive, get?_of_mem (hs.settleEach hdue).distinct ?_⟩
    exact List.mem_append.2 ((List.mem_append.1 he).imp hpending harchive)

/-- **At any moment of a run, applying all edits that wait is applying them in
turn**, whatever was done to the session before. -/
theorem run_appliedInTurn (settings : Settings) (level : Level) (requests : List Request)
    (contents : Option (Table Text Text)) :
    ∃ attempts, ((fresh settings level).run requests).session.AppliedInTurn contents attempts :=
  ⟨_, (sound_run settings level requests).appliedInTurn contents⟩

end Session

end DriftPatch
