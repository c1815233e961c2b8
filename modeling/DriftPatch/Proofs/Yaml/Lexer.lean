import DriftPatch.Proofs.Yaml.Token

/-!
# The next token is always known

Every token passes a character, and a text has so many and no more. So `Lexer.ready`
stops because the next token is known, or the end of the text has been read, and never
for another reason (`Lexer.IsOf.endsIn_ready`).

The end of a text is read only where it does end. If the text breaks off instead, what
stands in front of the break is refused, and no token tells of an end.
-/

namespace DriftPatch.Yaml

open Cursor

/-! ## Where a plain scalar may start -/

namespace Plain

variable {s : Lexer} {char : Char} {rest : Text}

/-- A comment is no plain scalar. -/
theorem peek_ne_of_startsPlain (hrest : s.cursor.rest = char :: rest)
    (h : s.startsPlain char = true) : s.cursor.peek ≠ some '#' := by
  unfold Cursor.peek
  rw [hrest, List.head?_cons]
  rintro ⟨⟩
  simp [Lexer.startsPlain, Lexer.isIndicator] at h

/-- A character that may start a plain scalar is part of one. -/
theorem run_ne_nil_of_startsPlain (hrest : s.cursor.rest = char :: rest)
    (h : s.startsPlain char = true) : run (s.depth != 0) s.cursor.rest ≠ [] := by
  have hsecond : s.cursor.second = rest.head? := by rw [Cursor.second, hrest, List.tail_cons]
  unfold Lexer.startsPlain at h
  rw [hsecond] at h
  rw [hrest, run]
  by_cases hindicator : Lexer.isIndicator char = true
  · simp only [hindicator, Bool.not_true, Bool.false_or, Bool.and_eq_true, Bool.or_eq_true,
      beq_iff_eq] at h
    obtain ⟨hbefore, rfl | ⟨hdepth, rfl | rfl⟩⟩ := h
    · simp [isFlowIndicator, show isSeparator '-' = false by decide]
    · simp [hdepth, show isSeparator '?' = false by decide]
    · cases hnext : rest.head? with
      | none => simp [hnext] at hbefore
      | some next =>
        simp only [hnext, Option.any_some, Bool.not_eq_true'] at hbefore
        simp [endsKey, hbefore, hdepth, show isSeparator ':' = false by decide]
  · have hnone : isSeparator char = false ∧ char ≠ ':' ∧ isFlowIndicator char = false := by
      simp_all [Lexer.isIndicator, isFlowIndicator]
    simp [hnone]

end Plain

namespace Lexer

variable {s t u : Lexer} {c : Cursor} {token : Token}

/-! ## Steps that stay and steps that pass -/

/-- **A state at the same place**, which knows of no other end. -/
structure StaysAt (s t : Lexer) : Prop where
  /-- The cursor is the same. -/
  cursor : t.cursor = s.cursor
  /-- The end of the text has been read if it had been before. -/
  finished : t.finished = s.finished
  /-- A token that tells of the end has been there before. -/
  ended : .streamEnd ∈ t.waiting → .streamEnd ∈ s.waiting

/-- **A state behind the next character**, which knows of no other end. -/
structure Passes (s t : Lexer) : Prop where
  /-- The next character is passed. -/
  cursor : s.cursor.next.Reaches t.cursor
  /-- The end of the text has been read if it had been before. -/
  finished : t.finished = s.finished
  /-- A token that tells of the end has been there before. -/
  ended : .streamEnd ∈ t.waiting → .streamEnd ∈ s.waiting

/-- What stays where it is, or says what is wrong. -/
abbrev Stays (s : Lexer) : Except Fault Lexer → Prop :=
  EndsIn s.StaysAt s.cursor.MayRaise

/-- What passes the next character, or says what is wrong. -/
abbrev ReadsOn (s : Lexer) : Except Fault Lexer → Prop :=
  EndsIn s.Passes s.cursor.MayRaise

namespace StaysAt

theorem refl (s : Lexer) : s.StaysAt s :=
  ⟨rfl, rfl, id⟩

theorem trans (hst : s.StaysAt t) (htu : t.StaysAt u) : s.StaysAt u :=
  ⟨htu.cursor.trans hst.cursor, htu.finished.trans hst.finished, hst.ended ∘ htu.ended⟩

theorem passes (hst : s.StaysAt t) (htu : t.Passes u) : s.Passes u :=
  ⟨hst.cursor ▸ htu.cursor, htu.finished.trans hst.finished, hst.ended ∘ htu.ended⟩

theorem stays {x : Except Fault Lexer} (hst : s.StaysAt t) (hx : t.Stays x) : s.Stays x :=
  hx.mono (fun _ => hst.trans) fun _ => hst.cursor ▸ id

theorem readsOn {x : Except Fault Lexer} (hst : s.StaysAt t) (hx : t.ReadsOn x) : s.ReadsOn x :=
  hx.mono (fun _ => hst.passes) fun _ => hst.cursor ▸ id

end StaysAt

theorem staysAt_push (s : Lexer) (htoken : token ≠ .streamEnd) : s.StaysAt (s.push token) where
  cursor := rfl
  finished := rfl
  ended h := (List.mem_append.1 h).resolve_right fun h => htoken (List.mem_singleton.1 h).symm

theorem staysAt_putIn (s : Lexer) (count : Nat) (htoken : token ≠ .streamEnd) :
    s.StaysAt (s.putIn count token) where
  cursor := rfl
  finished := rfl
  ended h := by
    rcases List.mem_append.1 h with h | h
    · exact List.mem_of_mem_take h
    · exact List.mem_of_mem_drop (List.mem_of_ne_of_mem htoken.symm h)

/-- **A token is put behind those read** as a character is passed. -/
theorem Passes.of_push (htoken : token ≠ .streamEnd) (hcursor : s.cursor.next.Reaches t.cursor)
    (hfinished : t.finished = s.finished) (hwaiting : t.waiting = s.waiting ++ [token]) :
    s.Passes t where
  cursor := hcursor
  finished := hfinished
  ended h := (s.staysAt_push htoken).ended (hwaiting.subst h)

/-! ## Places and indents -/

/-- A state that differs in the places of keys at most. -/
def DiffersInPlaces (s t : Lexer) : Prop :=
  ∃ places, t = { s with places }

theorem DiffersInPlaces.staysAt (h : s.DiffersInPlaces t) : s.StaysAt t := by
  obtain ⟨places, rfl⟩ := h
  exact ⟨rfl, rfl, id⟩

theorem endsIn_forgetStale (s : Lexer) :
    EndsIn s.DiffersInPlaces s.cursor.MayRaise s.forgetStale := by
  unfold forgetStale
  split
  · exact .malformed
  · exact ⟨_, rfl⟩

theorem endsIn_forgetPlace (s : Lexer) :
    EndsIn s.DiffersInPlaces s.cursor.MayRaise s.forgetPlace := by
  unfold forgetPlace
  split
  · exact .malformed
  · exact ⟨_, rfl⟩

theorem endsIn_notePlace (s : Lexer) :
    EndsIn s.DiffersInPlaces s.cursor.MayRaise s.notePlace := by
  unfold notePlace
  split
  · refine s.endsIn_forgetPlace.bind fun t ht => ?_
    obtain ⟨places, rfl⟩ := ht
    exact ⟨_, rfl⟩
  · exact ⟨s.places, rfl⟩

theorem stays_forgetStale (s : Lexer) : s.Stays s.forgetStale :=
  s.endsIn_forgetStale.mono (fun _ => DiffersInPlaces.staysAt) fun _ => id

theorem stays_forgetPlace (s : Lexer) : s.Stays s.forgetPlace :=
  s.endsIn_forgetPlace.mono (fun _ => DiffersInPlaces.staysAt) fun _ => id

theorem stays_notePlace (s : Lexer) : s.Stays s.notePlace :=
  s.endsIn_notePlace.mono (fun _ => DiffersInPlaces.staysAt) fun _ => id

theorem staysAt_unwindTo (column : Int) (outer : List Int) (s : Lexer) :
    s.StaysAt (unwindTo column outer s) := by
  induction outer generalizing s with
  | nil => exact .refl s
  | cons indent outer ih =>
    unfold unwindTo
    split
    · refine .trans (t := { s.push .blockEnd with indent, outerIndents := outer }) ?_ (ih _)
      exact ⟨rfl, rfl, (s.staysAt_push (nofun : Token.blockEnd ≠ .streamEnd)).ended⟩
    · exact .refl s

theorem staysAt_unwind (s : Lexer) (column : Int) : s.StaysAt (s.unwind column) :=
  staysAt_unwindTo ..

theorem stays_unwind_forgetPlace (s : Lexer) (column : Int) :
    s.Stays (s.unwind column).forgetPlace :=
  (s.staysAt_unwind column).stays (stays_forgetPlace _)

theorem staysAt_openIndent (s : Lexer) (column : Nat) : s.StaysAt (s.openIndent column).1 := by
  unfold openIndent
  split
  · exact ⟨rfl, rfl, id⟩
  · exact .refl s

theorem stays_openByIndicator (s : Lexer) (htoken : token ≠ .streamEnd) :
    s.Stays (s.openByIndicator token) := by
  have hopen := s.staysAt_openIndent s.cursor.column
  unfold openByIndicator
  split
  · exact .refl s
  · split
    · exact .malformed
    · dsimp only
      split
      · exact hopen.trans (staysAt_push _ htoken)
      · exact hopen

/-! ## Reading one token -/

theorem reaches_toNextToken (fuel : Nat) (crossed : Bool) (c : Cursor) :
    c.Reaches (toNextToken fuel crossed c).1 := by
  induction fuel generalizing crossed c with
  | zero => exact .refl c
  | succ fuel ih =>
    unfold toNextToken
    dsimp only
    split
    · exact c.reaches_skipComment.trans ((reaches_takeBreak _).trans (ih ..))
    · exact c.reaches_skipComment

theorem reaches_skipToToken (s : Lexer) : s.cursor.Reaches s.skipToToken.cursor := by
  unfold skipToToken
  dsimp only
  split
  · exact s.cursor.reaches_next.trans (reaches_toNextToken ..)
  · exact reaches_toNextToken ..

theorem readsOn_directive (s : Lexer) : s.ReadsOn s.directive := by
  refine (s.stays_unwind_forgetPlace _).bind fun t ht => ht.readsOn ?_
  refine (t.cursor.reaches_next.endsIn (Name.next_readsToken_scanDirective t.cursor)).bind ?_
  exact fun r hr => .of_push hr.2 hr.1 rfl rfl

theorem readsOn_boundary (s : Lexer) (htoken : token ≠ .streamEnd) :
    s.ReadsOn (s.boundary token) :=
  (s.stays_unwind_forgetPlace _).bind fun t ht =>
    ht.passes (.of_push htoken (t.cursor.next_reaches_skip (Nat.succ_ne_zero _)) rfl rfl)

theorem readsOn_openFlow (s : Lexer) (htoken : token ≠ .streamEnd) :
    s.ReadsOn (s.openFlow token) :=
  s.stays_notePlace.bind fun _ ht => ht.passes (.of_push htoken (.refl _) rfl rfl)

theorem readsOn_closeFlow (s : Lexer) (htoken : token ≠ .streamEnd) :
    s.ReadsOn (s.closeFlow token) :=
  s.stays_forgetPlace.bind fun _ ht => ht.passes (.of_push htoken (.refl _) rfl rfl)

theorem readsOn_flowEntry (s : Lexer) : s.ReadsOn s.flowEntry :=
  s.stays_forgetPlace.bind fun _ ht =>
    ht.passes (.of_push (nofun : Token.flowEntry ≠ .streamEnd) (.refl _) rfl rfl)

theorem readsOn_blockEntry (s : Lexer) : s.ReadsOn s.blockEntry := by
  have hopen := s.stays_openByIndicator (nofun : Token.blockSequenceStart ≠ .streamEnd)
  refine hopen.bind fun t ht => ?_
  refine ht.readsOn (t.stays_forgetPlace.bind fun u hu => hu.passes ?_)
  exact .of_push (nofun : Token.blockEntry ≠ .streamEnd) (.refl _) rfl rfl

theorem readsOn_explicitKey (s : Lexer) : s.ReadsOn s.explicitKey := by
  have hopen := s.stays_openByIndicator (nofun : Token.blockMappingStart ≠ .streamEnd)
  refine hopen.bind fun t ht => ?_
  refine ht.readsOn (t.stays_forgetPlace.bind fun u hu => hu.passes ?_)
  exact .of_push (nofun : Token.key ≠ .streamEnd) (.refl _) rfl rfl

/-- The start of a mapping is put in front of its first key. -/
theorem staysAt_putInStart (s : Lexer) (p : KeyPlace) :
    s.StaysAt (if s.depth = 0 then
        if (s.openIndent p.place.column).2 then
          (s.openIndent p.place.column).1.putIn p.tokens .blockMappingStart
        else (s.openIndent p.place.column).1
      else s) := by
  have hopen := s.staysAt_openIndent p.place.column
  split
  · split
    · exact hopen.trans (staysAt_putIn _ _ nofun)
    · exact hopen
  · exact .refl s

theorem readsOn_value (s : Lexer) : s.ReadsOn s.value := by
  unfold value
  split
  · next p _ =>
    have hplaces : s.DiffersInPlaces { s with places := s.places.filter (·.1 != s.depth) } :=
      ⟨_, rfl⟩
    have hkey := hplaces.staysAt.trans
      (staysAt_putIn _ p.tokens (nofun : Token.key ≠ .streamEnd))
    refine StaysAt.passes (hkey.trans (staysAt_putInStart _ p)) ?_
    exact .of_push (nofun : Token.value ≠ .streamEnd) (.refl _) rfl rfl
  · have hopen := s.stays_openByIndicator (nofun : Token.blockMappingStart ≠ .streamEnd)
    refine hopen.bind fun t ht => ?_
    refine ht.readsOn (t.stays_forgetPlace.bind fun u hu => hu.passes ?_)
    exact .of_push (nofun : Token.value ≠ .streamEnd) (.refl _) rfl rfl

theorem readsOn_keyToken (s : Lexer) {scan : Cursor → Except Fault (Token × Cursor)}
    (hscan : ∀ c : Cursor, c.next.ReadsToken (scan c)) : s.ReadsOn (s.keyToken scan) := by
  refine s.stays_notePlace.bind fun t ht => ht.readsOn ?_
  refine (t.cursor.reaches_next.endsIn (hscan t.cursor)).bind ?_
  exact fun r hr => .of_push hr.2 hr.1 rfl rfl

theorem readsOn_quoted (s : Lexer) : s.ReadsOn s.quoted :=
  s.readsOn_keyToken fun c => (Quoted.next_reads_scan c).bind fun _ hr => ⟨hr, nofun⟩

theorem readsOn_block (s : Lexer) : s.ReadsOn s.block := by
  refine s.stays_forgetPlace.bind fun t ht => ht.readsOn ?_
  refine (t.cursor.reaches_next.endsIn (Block.next_reads_scan t.indent t.cursor)).bind ?_
  exact fun r hr => .of_push (nofun : Token.scalar (.text r.1) false ≠ .streamEnd) hr rfl rfl

theorem readsOn_plain {char : Char} {rest : Text} (hrest : s.cursor.rest = char :: rest)
    (h : s.startsPlain char = true) : s.ReadsOn s.plain := by
  refine s.endsIn_notePlace.bind fun t ht => ?_
  obtain ⟨places, rfl⟩ := ht
  have hscan := Plain.next_reads_scan (Plain.peek_ne_of_startsPlain hrest h)
    (Plain.run_ne_nil_of_startsPlain hrest h) (s.indent + 1) false
  refine (s.cursor.reaches_next.endsIn hscan).bind fun r hr => ?_
  exact .of_push (nofun : Token.scalar (.text r.1) true ≠ .streamEnd) hr rfl rfl

theorem looks_mustTellKind (s : Lexer) (char : Char) : s.cursor.Looks (s.mustTellKind char) := by
  unfold mustTellKind
  refine EndsIn.when (looks_mustTellBoundary _ _) ?_
  dsimp only
  split
  · exact looks_mustHold _ _
  · trivial

/-- **A token passes the character that it starts with.** -/
theorem readsOn_readToken {char : Char} {rest : Text} (hrest : s.cursor.rest = char :: rest) :
    s.ReadsOn (s.readToken char) := by
  have hname (f : Text → Token) (hf : ∀ name, f name ≠ .streamEnd) (c : Cursor) :
      c.next.ReadsToken (Name.scanAnchor c >>= fun r => .ok (r.map f id)) :=
    (Name.next_reads_scanAnchor c).bind fun _ hr => ⟨hr, hf _⟩
  unfold readToken
  dsimp only
  refine .ite s.readsOn_directive ?_
  refine .ite (s.readsOn_boundary nofun) ?_
  refine .ite (s.readsOn_boundary nofun) ?_
  refine .ite (s.readsOn_openFlow nofun) ?_
  refine .ite (s.readsOn_openFlow nofun) ?_
  refine .ite (s.readsOn_closeFlow nofun) ?_
  refine .ite (s.readsOn_closeFlow nofun) ?_
  refine .ite s.readsOn_flowEntry ?_
  refine .ite s.readsOn_blockEntry ?_
  refine .ite s.readsOn_explicitKey ?_
  refine .ite s.readsOn_value ?_
  refine .ite (s.readsOn_keyToken (hname .alias nofun)) ?_
  refine .ite (s.readsOn_keyToken (hname .anchor nofun)) ?_
  refine .ite (s.readsOn_keyToken Name.next_readsToken_scanTag) ?_
  refine .ite s.readsOn_block ?_
  refine .ite s.readsOn_block ?_
  refine .ite s.readsOn_quoted ?_
  refine EndsIn.when (looks_mustHold _ 2) ?_
  split
  · next hplain => exact readsOn_plain hrest hplain
  · exact .malformed

/-! ## Reading tokens until the next one is known -/

/-- **A step onwards**: the end of the text is read, where it does end, or a character is
passed. -/
inductive Advances (s t : Lexer) : Prop where
  /-- The end of the text is read. -/
  | ends (cursor : s.cursor.Reaches t.cursor) (whole : s.cursor.after = none)
    (finished : t.finished = true)
  /-- A character is passed, and no end is read. -/
  | passes (cursor : s.cursor.Reaches t.cursor)
    (shorter : t.cursor.rest.length < s.cursor.rest.length) (finished : t.finished = s.finished)
    (ended : .streamEnd ∈ t.waiting → .streamEnd ∈ s.waiting)

theorem endsIn_atEnd (s : Lexer) (hwhole : s.cursor.after = none) :
    EndsIn s.Advances s.cursor.MayRaise s.atEnd :=
  (s.stays_unwind_forgetPlace _).bind fun _ ht => .ends (ht.cursor ▸ .refl _) hwhole rfl

theorem Passes.advances (h : s.Passes t) (hrest : s.cursor.rest ≠ []) : s.Advances t :=
  .passes (s.cursor.reaches_next.trans h.cursor) (h.cursor.length_lt hrest) h.finished h.ended

/-- What advances from a state further on advances from here. -/
theorem Advances.of_reaches (h : t.Advances u) (hcursor : s.cursor.Reaches t.cursor)
    (hfinished : t.finished = s.finished)
    (hended : .streamEnd ∈ t.waiting → .streamEnd ∈ s.waiting) : s.Advances u := by
  cases h with
  | ends cursor whole finished =>
    exact .ends (hcursor.trans cursor) (hcursor.after ▸ whole) finished
  | passes cursor shorter finished ended =>
    exact .passes (hcursor.trans cursor) (Nat.lt_of_lt_of_le shorter hcursor.rest.length_le)
      (finished.trans hfinished) (hended ∘ ended)

theorem endsIn_step (s : Lexer) : EndsIn s.Advances s.cursor.MayRaise s.step := by
  have hskip := s.reaches_skipToToken
  unfold step
  refine (hskip.endsIn (endsIn_mustHold_one _)).bind fun _ hwhole => ?_
  refine (hskip.endsIn (stays_forgetStale _)).bind fun t ht => ?_
  have hunwind := ht.trans (t.staysAt_unwind t.cursor.column)
  generalize t.unwind t.cursor.column = t at hunwind ⊢
  rw [← hunwind.cursor] at hskip hwhole
  refine (hskip.endsIn (P := t.Advances) ?_).mono
    (fun _ h => h.of_reaches hskip hunwind.finished hunwind.ended) fun _ => id
  dsimp only
  cases hrest : t.cursor.rest with
  | nil =>
    rw [Cursor.peek, hrest]
    exact t.endsIn_atEnd (hwhole hrest)
  | cons char rest =>
    rw [Cursor.peek, hrest]
    refine (t.looks_mustTellKind char).bind fun _ _ => ?_
    refine (readsOn_readToken hrest).bind fun u hu => ?_
    have hcursor := t.cursor.reaches_next.trans hu.cursor
    refine (hcursor.endsIn (looks_mustHold _ 1)).bind fun _ _ => ?_
    exact hu.advances (hrest ▸ List.cons_ne_nil char rest)

/-- **A state of reading a text.** Where the text breaks off nothing tells of its end. -/
structure IsOf (c : Cursor) (s : Lexer) : Prop where
  /-- The cursor is a place of the text. -/
  cursor : c.Reaches s.cursor
  /-- The end of the text has been read only if it does end. -/
  finished : c.after ≠ none → s.finished = false
  /-- No token tells of an end that there is not. -/
  ended : c.after ≠ none → .streamEnd ∉ s.waiting

/-- The next token is known, or there is none. -/
def IsReady (s : Lexer) : Prop :=
  s.finished = true ∨ s.waiting ≠ []

theorem finished_of_needsMore (h : s.needsMore = true) : s.finished = false := by
  unfold needsMore at h
  simpa using (Bool.and_eq_true_iff.1 h).1

theorem isReady_of_not_needsMore (h : ¬s.needsMore = true) : s.IsReady := by
  unfold needsMore at h
  unfold IsReady
  cases hfinished : s.finished with
  | true => exact Or.inl rfl
  | false =>
    refine Or.inr fun hwaiting => h ?_
    rw [hfinished, hwaiting]
    rfl

namespace IsOf

theorem atStart (c : Cursor) : (atStart c).IsOf c :=
  ⟨.refl c, fun _ => rfl, fun _ => List.not_mem_nil⟩

theorem of_staysAt (hs : s.IsOf c) (h : s.StaysAt t) : t.IsOf c where
  cursor := h.cursor ▸ hs.cursor
  finished hafter := h.finished.trans (hs.finished hafter)
  ended hafter := mt h.ended (hs.ended hafter)

theorem of_advances (hs : s.IsOf c) (h : s.Advances t) : t.IsOf c := by
  cases h with
  | ends cursor whole finished =>
    have hafter := hs.cursor.after.symm.trans whole
    exact ⟨hs.cursor.trans cursor, absurd hafter, absurd hafter⟩
  | passes cursor shorter finished ended =>
    exact ⟨hs.cursor.trans cursor, fun hafter => finished.trans (hs.finished hafter),
      fun hafter => mt ended (hs.ended hafter)⟩

/-- **Tokens are read until the next one is known**, if there are as many steps left as
characters. -/
theorem endsIn_readyWithin {fuel : Nat} (hs : s.IsOf c)
    (hfuel : s.finished = true ∨ s.cursor.rest.length < fuel) :
    EndsIn (fun t => t.IsOf c ∧ t.IsReady) c.MayRaise (readyWithin fuel s) := by
  induction fuel generalizing s with
  | zero => exact ⟨hs, Or.inl (hfuel.resolve_right (Nat.not_lt_zero _))⟩
  | succ fuel ih =>
    have hgoOn (t : Lexer) (ht : s.StaysAt t) :
        EndsIn (fun t => t.IsOf c ∧ t.IsReady) c.MayRaise
          (if t.needsMore then t.step >>= readyWithin fuel else .ok t) := by
      have hof := hs.of_staysAt ht
      split
      · next hmore =>
        refine (hof.cursor.endsIn t.endsIn_step).bind fun u hu => ih (hof.of_advances hu) ?_
        cases hu with
        | ends cursor whole finished => exact Or.inl finished
        | passes cursor shorter finished ended =>
          rw [← ht.finished, finished_of_needsMore hmore, ← ht.cursor] at hfuel
          have hlength := hfuel.resolve_left Bool.false_ne_true
          exact Or.inr (Nat.lt_of_lt_of_le shorter (Nat.le_of_lt_succ hlength))
      · next hready => exact ⟨hof, isReady_of_not_needsMore hready⟩
    unfold readyWithin
    split
    · exact hgoOn s (.refl s)
    · exact (hs.cursor.endsIn s.stays_forgetStale).bind hgoOn

/-- **The next token is known** where tokens have been read. -/
theorem endsIn_ready (hs : s.IsOf c) (hsize : c.rest.length ≤ c.size) :
    EndsIn (fun t => t.IsOf c ∧ t.IsReady) c.MayRaise s.ready := by
  refine hs.endsIn_readyWithin (Or.inr ?_)
  have hlength := hs.cursor.rest.length_le
  have hsame := hs.cursor.size
  omega

/-- Where a text breaks off, the next token does not tell of its end. -/
theorem next_ne_streamEnd (hs : s.IsOf c) (hready : s.IsReady) (hafter : c.after ≠ none) :
    s.next ≠ .streamEnd := by
  have hwaiting := hready.resolve_left (by rw [hs.finished hafter]; exact Bool.false_ne_true)
  obtain ⟨token, rest, hsplit⟩ := List.exists_cons_of_ne_nil hwaiting
  have hended := hs.ended hafter
  unfold next
  rw [hsplit] at hended ⊢
  exact fun h => hended (h ▸ List.mem_cons_self)

theorem take (hs : s.IsOf c) : s.take.IsOf c where
  cursor := hs.cursor
  finished := hs.finished
  ended hafter := mt List.mem_of_mem_tail (hs.ended hafter)

end IsOf

end Lexer

end DriftPatch.Yaml
