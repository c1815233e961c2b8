import DriftPatch.Proofs.Yaml.Lexer
import DriftPatch.Yaml.Node.Reader

/-!
# Nodes are read to the end of the text

Reading nodes looks at tokens one by one and changes nothing else of how the text is
read, so it raises what may be wrong with characters and nothing else. A document is
only complete when the end of the text has been seen; so of a text that breaks off no
nodes are read (`Nodes.endsIn_ofCursor`).
-/

namespace DriftPatch.Yaml

namespace Reader

variable {c : Cursor} {r : Reader} {α : Type}

/-- **A state of reading the nodes of a text.** -/
def IsOf (c : Cursor) (r : Reader) : Prop :=
  r.lexer.IsOf c

/-- What reads a part of a text. -/
abbrev ReadsOf (c : Cursor) : Reads α → Prop :=
  Keeps (IsOf c) c.MayRaise

/-! ## Tokens -/

theorem run_peek (r : Reader) :
    peek.run r = r.lexer.ready >>= fun lexer => .ok (lexer.next, { r with lexer }) := by
  have hmap : peek.run r
      = (fun lexer => (lexer.next, { r with lexer })) <$> r.lexer.ready := by simp [peek]
  rw [hmap]
  cases r.lexer.ready <;> rfl

variable (hsize : c.rest.length ≤ c.size)

include hsize

/-- **The next token is seen.** Where the text breaks off it does not tell of the end. -/
theorem endsIn_peek (hr : r.IsOf c) :
    EndsIn (fun p => p.2.IsOf c ∧ (p.1 = .streamEnd → c.after = none)) c.MayRaise
      (peek.run r) := by
  rw [run_peek]
  refine (Lexer.IsOf.endsIn_ready hr hsize).bind fun lexer ⟨hlexer, hknown⟩ =>
    ⟨hlexer, fun hend => ?_⟩
  exact Decidable.of_not_not fun hafter => hlexer.next_ne_streamEnd hknown hafter hend

theorem readsOf_peek : ReadsOf c peek :=
  fun _ hr => (endsIn_peek hsize hr).mono (fun _ h => ⟨trivial, h.1⟩) fun _ => id

omit hsize in
theorem readsOf_skip : ReadsOf c skip :=
  keeps_modify fun _ hr => Lexer.IsOf.take hr

theorem readsOf_isAt (ts : List Token) : ReadsOf c (isAt ts) :=
  (readsOf_peek hsize).bind fun _ => keeps_pure _

theorem readsOf_skipIf (t : Token) : ReadsOf c (skipIf t) :=
  (readsOf_peek hsize).bind fun _ =>
    .ite (readsOf_skip.bind fun _ => keeps_pure _) (keeps_pure _)

omit hsize in
theorem readsOf_refuse : ReadsOf c (refuse : Reads α) :=
  gives_throw .malformed

theorem readsOf_expect (t : Token) : ReadsOf c (expect t) :=
  (readsOf_skipIf hsize t).bind fun _ => .ite readsOf_refuse (keeps_pure _)

/-! ## Nodes -/

omit hsize in
theorem readsOf_add (name : Option Text) (node : Node) : ReadsOf c (add name node) :=
  fun _ hr => ⟨trivial, hr⟩

omit hsize in
theorem readsOf_complete (n : Nat) (content : Node.Content) : ReadsOf c (complete n content) :=
  keeps_modify fun _ hr => hr

end Reader

namespace Properties

open Reader

variable {c : Cursor} {p : Properties}

theorem readsOf_resolve (handle : Option Text) (suffix : Text) :
    ReadsOf c (resolve handle suffix) := by
  unfold resolve
  split
  · exact keeps_pure _
  · refine gives_get.bind fun r _ => ?_
    split
    · exact keeps_pure _
    · exact readsOf_refuse

theorem readsOf_read (hsize : c.rest.length ≤ c.size) : ReadsOf c read := by
  refine (readsOf_peek hsize).bind fun token => ?_
  split
  · refine readsOf_skip.bind fun _ => (readsOf_peek hsize).bind fun token => ?_
    split
    · exact readsOf_skip.bind fun _ => (readsOf_resolve _ _).bind fun _ => keeps_pure _
    · exact keeps_pure _
  · refine readsOf_skip.bind fun _ => (readsOf_peek hsize).bind fun token => ?_
    split
    · exact readsOf_skip.bind fun _ => (readsOf_resolve _ _).bind fun _ => keeps_pure _
    · exact (readsOf_resolve _ _).bind fun _ => keeps_pure _
  · exact keeps_pure _

theorem readsOf_checkAnchor (p : Properties) : ReadsOf c p.checkAnchor := by
  unfold checkAnchor
  split
  · exact keeps_pure _
  · exact gives_get.bind fun _ _ => .ite readsOf_refuse (keeps_pure _)

theorem readsOf_addScalar (p : Properties) (plain : Bool) (content : Written) :
    ReadsOf c (p.addScalar plain content) :=
  p.readsOf_checkAnchor.bind fun _ => readsOf_add _ _

theorem readsOf_addSequence {items : Reads (List Nat)} (hitems : ReadsOf c items) :
    ReadsOf c (p.addSequence items) :=
  p.readsOf_checkAnchor.bind fun _ => (readsOf_add _ _).bind fun _ => hitems.bind fun _ =>
    (readsOf_complete _ _).bind fun _ => keeps_pure _

theorem readsOf_addMapping {entries : Reads (List (Nat × Nat))} (hentries : ReadsOf c entries) :
    ReadsOf c (p.addMapping entries) :=
  p.readsOf_checkAnchor.bind fun _ => (readsOf_add _ _).bind fun _ => hentries.bind fun _ =>
    (readsOf_complete _ _).bind fun _ => keeps_pure _

theorem readsOf_addEmptyScalar (p : Properties) : ReadsOf c p.addEmptyScalar :=
  .ite (p.readsOf_addScalar _ _) readsOf_refuse

end Properties

/-! ## Collections -/

open Reader Properties

variable {c : Cursor} {fuel : Nat}

/-- **Whatever reads nodes** reads a part of the text, within some number of steps. -/
structure ReadWithin (c : Cursor) (fuel : Nat) : Prop where
  /-- A node is read. -/
  node : ∀ place, ReadsOf c (readNode fuel place)
  /-- A place that may be empty is. -/
  place : ∀ place ends, ReadsOf c (readPlace fuel place ends)
  /-- The items of an indented list are. -/
  blockItems : ReadsOf c (readBlockItems fuel)
  /-- The items of a list that is indented no more than its key are. -/
  indentless : ReadsOf c (readIndentless fuel)
  /-- The entries of an indented mapping are. -/
  blockEntries : ReadsOf c (readBlockEntries fuel)
  /-- An entry within brackets or braces is. -/
  flowEntry : ∀ close, ReadsOf c (readFlowEntry fuel close)
  /-- The items of a list in brackets are. -/
  flowItems : ∀ first, ReadsOf c (readFlowItems fuel first)
  /-- The entries of a mapping in braces are. -/
  flowEntries : ∀ first, ReadsOf c (readFlowEntries fuel first)

namespace ReadWithin

theorem zero (c : Cursor) : ReadWithin c 0 := by
  constructor <;> intros
  case node => unfold readNode; exact readsOf_refuse
  case place => unfold readPlace; exact readsOf_refuse
  case blockItems => unfold readBlockItems; exact readsOf_refuse
  case indentless => unfold readIndentless; exact readsOf_refuse
  case blockEntries => unfold readBlockEntries; exact readsOf_refuse
  case flowEntry => unfold readFlowEntry; exact readsOf_refuse
  case flowItems => unfold readFlowItems; exact readsOf_refuse
  case flowEntries => unfold readFlowEntries; exact readsOf_refuse

variable (hsize : c.rest.length ≤ c.size) (h : ReadWithin c fuel)

include hsize h

theorem readsOf_readNode (place : Place) : ReadsOf c (readNode (fuel + 1) place) := by
  unfold readNode
  refine (readsOf_peek hsize).bind fun token => ?_
  split
  · refine readsOf_skip.bind fun _ => gives_get.bind fun r _ => ?_
    split
    · exact keeps_pure _
    · exact readsOf_refuse
  · refine (readsOf_read hsize).bind fun p => (readsOf_peek hsize).bind fun token => ?_
    split
    · exact .ite (readsOf_addSequence h.indentless) p.readsOf_addEmptyScalar
    · exact readsOf_skip.bind fun _ => p.readsOf_addScalar _ _
    · exact readsOf_addSequence (readsOf_skip.bind fun _ => h.flowItems _)
    · exact readsOf_addMapping (readsOf_skip.bind fun _ => h.flowEntries _)
    · exact .ite (readsOf_addSequence (readsOf_skip.bind fun _ => h.blockItems))
        p.readsOf_addEmptyScalar
    · exact .ite (readsOf_addMapping (readsOf_skip.bind fun _ => h.blockEntries))
        p.readsOf_addEmptyScalar
    · exact p.readsOf_addEmptyScalar

theorem readsOf_readPlace (place : Place) (ends : List Token) :
    ReadsOf c (readPlace (fuel + 1) place ends) := by
  unfold readPlace
  exact (readsOf_isAt hsize _).bind fun _ => .ite (readsOf_add _ _) (h.node _)

theorem readsOf_readBlockItems : ReadsOf c (readBlockItems (fuel + 1)) := by
  unfold readBlockItems
  refine (readsOf_skipIf hsize _).bind fun _ => .ite ?_ ?_
  · exact (h.place _ _).bind fun _ => h.blockItems.bind fun _ => keeps_pure _
  · exact (readsOf_expect hsize _).bind fun _ => keeps_pure _

theorem readsOf_readIndentless : ReadsOf c (readIndentless (fuel + 1)) := by
  unfold readIndentless
  refine (readsOf_skipIf hsize _).bind fun _ => .ite ?_ (keeps_pure _)
  exact (h.place _ _).bind fun _ => h.indentless.bind fun _ => keeps_pure _

theorem readsOf_readBlockEntries : ReadsOf c (readBlockEntries (fuel + 1)) := by
  have hrest (key value : Nat) : ReadsOf c
      (readBlockEntries fuel >>= fun rest => pure ((key, value) :: rest)) :=
    h.blockEntries.bind fun _ => keeps_pure _
  unfold readBlockEntries
  refine (readsOf_skipIf hsize _).bind fun _ => .ite ?_ ?_
  · refine (h.place _ _).bind fun key => (readsOf_skipIf hsize _).bind fun _ => .ite ?_ ?_
    · exact (h.place _ _).bind fun value => hrest key value
    · exact (readsOf_add _ _).bind fun value => hrest key value
  · exact (readsOf_expect hsize _).bind fun _ => keeps_pure _

theorem readsOf_readFlowEntry (close : Token) :
    ReadsOf c (readFlowEntry (fuel + 1) close) := by
  unfold readFlowEntry
  refine (h.place _ _).bind fun key => (readsOf_skipIf hsize _).bind fun _ => .ite ?_ ?_
  · exact (h.place _ _).bind fun _ => keeps_pure _
  · exact (readsOf_add _ _).bind fun _ => keeps_pure _

theorem readsOf_readFlowItems (first : Bool) :
    ReadsOf c (readFlowItems (fuel + 1) first) := by
  have hrest (item : Nat) : ReadsOf c
      (readFlowItems fuel false >>= fun rest => pure (item :: rest)) :=
    (h.flowItems _).bind fun _ => keeps_pure _
  have hentry : ReadsOf c (do
      skip
      return [← readFlowEntry fuel .flowSequenceEnd]) :=
    readsOf_skip.bind fun _ => (h.flowEntry _).bind fun _ => keeps_pure _
  unfold readFlowItems
  refine (readsOf_skipIf hsize _).bind fun _ => .ite (keeps_pure _) ?_
  refine .when (readsOf_expect hsize _) ?_
  refine (readsOf_skipIf hsize _).bind fun _ => .ite (keeps_pure _) ?_
  refine (readsOf_isAt hsize _).bind fun _ => .ite ?_ ?_
  · exact (readsOf_addMapping hentry).bind hrest
  · exact (h.node _).bind hrest

theorem readsOf_readFlowEntries (first : Bool) :
    ReadsOf c (readFlowEntries (fuel + 1) first) := by
  have hrest (entry : Nat × Nat) : ReadsOf c
      (readFlowEntries fuel false >>= fun rest => pure (entry :: rest)) :=
    (h.flowEntries _).bind fun _ => keeps_pure _
  unfold readFlowEntries
  refine (readsOf_skipIf hsize _).bind fun _ => .ite (keeps_pure _) ?_
  refine .when (readsOf_expect hsize _) ?_
  refine (readsOf_skipIf hsize _).bind fun _ => .ite (keeps_pure _) ?_
  refine (readsOf_skipIf hsize _).bind fun _ => .ite ?_ ?_
  · exact (h.flowEntry _).bind hrest
  · exact (h.node _).bind fun _ => (readsOf_add _ _).bind fun _ => hrest _

theorem succ : ReadWithin c (fuel + 1) where
  node := readsOf_readNode hsize h
  place := readsOf_readPlace hsize h
  blockItems := readsOf_readBlockItems hsize h
  indentless := readsOf_readIndentless hsize h
  blockEntries := readsOf_readBlockEntries hsize h
  flowEntry := readsOf_readFlowEntry hsize h
  flowItems := readsOf_readFlowItems hsize h
  flowEntries := readsOf_readFlowEntries hsize h

end ReadWithin

theorem readWithin (hsize : c.rest.length ≤ c.size) (fuel : Nat) : ReadWithin c fuel := by
  induction fuel with
  | zero => exact .zero c
  | succ fuel ih => exact ih.succ hsize

/-! ## Documents -/

namespace Reader

variable (hsize : c.rest.length ≤ c.size)

include hsize

theorem readsOf_readDirectives (fuel : Nat) (versioned : Bool) (handles : List (Text × Text)) :
    ReadsOf c (readDirectives fuel versioned handles) := by
  induction fuel generalizing versioned handles with
  | zero => exact keeps_pure _
  | succ fuel ih =>
    refine (readsOf_peek hsize).bind fun token => ?_
    split
    · exact readsOf_skip.bind fun _ => .ite readsOf_refuse (ih _ _)
    · exact readsOf_skip.bind fun _ => .ite readsOf_refuse (ih _ _)
    · exact readsOf_skip.bind fun _ => ih _ _
    · exact keeps_pure _

theorem readsOf_readMarked (fuel : Nat) : ReadsOf c (readMarked fuel) := by
  unfold readMarked
  refine (readsOf_readDirectives hsize _ _ _).bind fun handles => ?_
  refine (readsOf_expect hsize _).bind fun _ => ?_
  refine Keeps.bind (keeps_modify fun _ hr => hr) fun _ => ?_
  refine (readsOf_peek hsize).bind fun token => ?_
  exact .ite (readsOf_add _ _) ((readWithin hsize fuel).node _)

/-- **What sees the end of the text**, or says what is wrong. -/
def SeesEnd (c : Cursor) (m : Reads α) : Prop :=
  ∀ r : Reader, r.IsOf c → EndsIn (fun _ => c.after = none) c.MayRaise (m.run r)

omit hsize in
theorem ReadsOf.seesEnd {β : Type} {m : Reads β} {k : β → Reads α} (hm : ReadsOf c m)
    (hk : ∀ b, SeesEnd c (k b)) : SeesEnd c (m >>= k) :=
  fun r hr => (hm r hr).bind fun p hp => hk p.1 p.2 hp.2

theorem seesEnd_peek {k : Token → Reads α} (hend : c.after = none → SeesEnd c (k .streamEnd))
    (hother : ∀ token, token ≠ .streamEnd → SeesEnd c (k token)) : SeesEnd c (peek >>= k) :=
  fun r hr => (endsIn_peek hsize hr).bind fun ⟨token, r⟩ ⟨hr, htoken⟩ => by
    by_cases h : token = .streamEnd
    · subst h
      exact hend (htoken rfl) r hr
    · exact hother token h r hr

/-- **Where a document is complete the text ends.** -/
theorem seesEnd_readEnd (fuel : Nat) : SeesEnd c (readEnd fuel) := by
  induction fuel with
  | zero => exact fun _ _ => .malformed
  | succ fuel ih =>
    have hrefused : SeesEnd c (do
        let _ ← readDirectives fuel false []
        let _ ← peek
        refuse : Reads Unit) :=
      (readsOf_readDirectives hsize fuel false []).seesEnd fun _ =>
        (readsOf_peek hsize).seesEnd fun _ _ _ => .malformed
    refine (readsOf_skipIf hsize _).seesEnd fun ended => ?_
    split
    · exact ih
    · unfold isAt
      simp only [bind_assoc, pure_bind]
      refine seesEnd_peek hsize (fun hafter _ _ => hafter) fun token htoken => ?_
      have hother : List.contains [Token.streamEnd] token = false := by simpa using htoken
      rw [hother]
      exact hrefused

theorem seesEnd_readDocument (fuel : Nat) : SeesEnd c (readDocument fuel) := by
  have hend (root : Nat) : SeesEnd c (readEnd fuel >>= fun _ => pure (some root)) :=
    fun r hr => (seesEnd_readEnd hsize fuel r hr).bind fun _ h => h
  refine seesEnd_peek hsize (fun hafter _ _ => ?_) fun token htoken => ?_
  · rw [if_pos rfl]
    exact hafter
  · rw [if_neg htoken]
    dsimp only
    split
    · exact ReadsOf.seesEnd (readsOf_readMarked hsize _) hend
    · exact ReadsOf.seesEnd (keeps_modify fun _ hr => hr) fun _ =>
        ReadsOf.seesEnd ((readWithin hsize fuel).node _) hend

end Reader

/-- **Nodes are read of a text that ends**, and of no text that breaks off. -/
theorem Nodes.endsIn_ofCursor (hsize : c.rest.length ≤ c.size) :
    EndsIn (fun _ => c.after = none) c.MayRaise (Nodes.ofCursor c) :=
  (seesEnd_readDocument hsize _ { lexer := .atStart c } (Lexer.IsOf.atStart c)).bind fun _ h => h

end DriftPatch.Yaml
