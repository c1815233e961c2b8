/-!
# Steps that succeed

Reading and writing go step by step, and one step that fails is the end of it. So
where the whole succeeds each step does, and a list is read exactly if each of its
members is.
-/

namespace DriftPatch

section Steps

variable {ε α β : Type} {f : α → Except ε β}

/-- Where two steps succeed, the first one does. -/
theorem exists_ok_of_bind {x : Except ε α} {b : β} (h : x >>= f = .ok b) :
    ∃ a, x = .ok a ∧ f a = .ok b := by
  cases x with
  | error e => cases h
  | ok a => exact ⟨a, rfl, h⟩

/-- Two steps succeed exactly if the second one does after the first. -/
theorem bind_eq_ok_iff {x : Except ε α} {b : β} :
    x >>= f = .ok b ↔ ∃ a, x = .ok a ∧ f a = .ok b := by
  refine ⟨exists_ok_of_bind, ?_⟩
  rintro ⟨a, rfl, hb⟩
  exact hb

/-- Two steps succeed if each one does, where it does not matter to the second what the first
one gives. -/
theorem exists_bind_eq_ok_iff {x : Except ε α} {p : Prop} (hf : ∀ a, (∃ b, f a = .ok b) ↔ p) :
    (∃ b, x >>= f = .ok b) ↔ (∃ a, x = .ok a) ∧ p := by
  cases x with
  | error e => exact iff_of_false (fun ⟨_, h⟩ => nomatch h) fun ⟨⟨_, h⟩, _⟩ => nomatch h
  | ok a => exact (hf a).trans ⟨fun hp => ⟨⟨a, rfl⟩, hp⟩, And.right⟩

/-- What is made of a result needs no more than the result. -/
theorem exists_bind_pure_eq_ok_iff {x : Except ε α} {g : α → β} :
    (∃ b, (x >>= fun a => pure (g a)) = .ok b) ↔ ∃ a, x = .ok a := by
  refine (exists_bind_eq_ok_iff fun a => iff_true_intro ⟨g a, rfl⟩).trans ?_
  rw [and_true]

/-- What is made of its errors changes nothing about a result. -/
theorem mapError_eq_ok_iff {δ : Type} {g : ε → δ} {x : Except ε α} {a : α} :
    x.mapError g = .ok a ↔ x = .ok a := by
  cases x with
  | error e => exact iff_of_false nofun nofun
  | ok b => exact ⟨fun h => congrArg _ (Except.ok.inj h), fun h => congrArg _ (Except.ok.inj h)⟩

theorem mapError_eq_error_iff {δ : Type} {g : ε → δ} {x : Except ε α} {e : δ} :
    x.mapError g = .error e ↔ ∃ e', x = .error e' ∧ g e' = e := by
  cases x with
  | error e' =>
    refine ⟨fun h => ⟨e', rfl, Except.error.inj h⟩, ?_⟩
    rintro ⟨_, ⟨⟩, rfl⟩
    rfl
  | ok a => exact iff_of_false nofun fun ⟨_, h, _⟩ => nomatch h

/-- Whether a step fails with an error can be told where errors can be told apart. -/
instance decidableEqError [DecidableEq ε] (x : Except ε α) (e : ε) : Decidable (x = .error e) :=
  match x with
  | .ok _ => .isFalse nofun
  | .error e' => decidable_of_iff (e' = e) ⟨congrArg _, Except.error.inj⟩

/-- Where a step succeeds on a whole list, it does on each member. -/
theorem exists_ok_of_mapM {as : List α} {bs : List β} (h : as.mapM f = .ok bs) :
    ∀ a ∈ as, ∃ b, f a = .ok b := by
  induction as generalizing bs with
  | nil => exact List.forall_mem_nil _
  | cons a as ih =>
    rw [List.mapM_cons] at h
    obtain ⟨b, hb, hrest⟩ := exists_ok_of_bind h
    obtain ⟨bs, hbs, -⟩ := exists_ok_of_bind hrest
    rw [List.forall_mem_cons]
    exact ⟨⟨b, hb⟩, ih hbs⟩

/-- **A step succeeds on a list exactly if it does on each member.** -/
theorem exists_mapM_eq_ok_iff {as : List α} :
    (∃ bs, as.mapM f = .ok bs) ↔ ∀ a ∈ as, ∃ b, f a = .ok b := by
  refine ⟨fun ⟨bs, hbs⟩ => exists_ok_of_mapM hbs, fun hstep => ?_⟩
  induction as with
  | nil => exact ⟨[], rfl⟩
  | cons a as ih =>
    rw [List.forall_mem_cons] at hstep
    obtain ⟨b, hb⟩ := hstep.1
    obtain ⟨bs, hbs⟩ := ih hstep.2
    refine ⟨b :: bs, ?_⟩
    rw [List.mapM_cons, hb, hbs]
    rfl

/-- What the step gives on each member holds of all that it gives on the list. -/
theorem forall_mem_of_mapM {P : β → Prop} {as : List α} {bs : List β}
    (hstep : ∀ a ∈ as, ∀ b, f a = .ok b → P b) (h : as.mapM f = .ok bs) : ∀ b ∈ bs, P b := by
  induction as generalizing bs with
  | nil =>
    cases h
    exact List.forall_mem_nil _
  | cons a as ih =>
    rw [List.forall_mem_cons] at hstep
    rw [List.mapM_cons] at h
    obtain ⟨b, hb, hrest⟩ := exists_ok_of_bind h
    obtain ⟨bs, hbs, hcons⟩ := exists_ok_of_bind hrest
    cases hcons
    rw [List.forall_mem_cons]
    exact ⟨hstep.1 b hb, ih hstep.2 hbs⟩

/-! ## What comes of steps -/

/-- **What comes of a step**: a result that has one property, or a mistake that has
another. -/
def EndsIn (P : α → Prop) (Q : ε → Prop) : Except ε α → Prop
  | .ok a => P a
  | .error e => Q e

namespace EndsIn

variable {P P' : α → Prop} {Q Q' : ε → Prop} {R : β → Prop} {x : Except ε α}

theorem mono (hx : EndsIn P Q x) (hP : ∀ a, P a → P' a) (hQ : ∀ e, Q e → Q' e) :
    EndsIn P' Q' x := by
  cases x with
  | ok a => exact hP a hx
  | error e => exact hQ e hx

/-- **One step after another**: the second one goes on from what the first one gives. -/
theorem bind (hx : EndsIn P Q x) (hf : ∀ a, P a → EndsIn R Q (f a)) : EndsIn R Q (x >>= f) := by
  cases x with
  | ok a => exact hf a hx
  | error e => exact hx

/-- One of two steps, whichever a condition asks for. -/
theorem ite {c : Prop} [Decidable c] {y : Except ε α} (hx : EndsIn P Q x) (hy : EndsIn P Q y) :
    EndsIn P Q (if c then x else y) := by
  split
  · exact hx
  · exact hy

/-- A step that is taken under a condition, and whose result does not matter. -/
theorem when {c : Prop} [Decidable c] {x : Except ε Unit} {f : Unit → Except ε β}
    (hx : EndsIn (fun _ => True) Q x) (hf : EndsIn R Q (f ())) :
    EndsIn R Q (if c then x >>= f else f ()) :=
  .ite (hx.bind fun _ _ => hf) hf

theorem of_ok {a : α} (hx : EndsIn P Q x) (h : x = .ok a) : P a := by
  subst h
  exact hx

theorem of_error {e : ε} (hx : EndsIn P Q x) (h : x = .error e) : Q e := by
  subst h
  exact hx

end EndsIn

/-! ## Steps with a state -/

variable {σ : Type} {S : σ → Prop} {P : α → Prop} {R : β → Prop} {Q : ε → Prop}

/-- **What a sound state gives**: a result that has a property, and a sound state again, or a
mistake that has another property. -/
def Gives (S : σ → Prop) (P : α → Prop) (Q : ε → Prop) (m : StateT σ (Except ε) α) : Prop :=
  ∀ s, S s → EndsIn (fun r => P r.1 ∧ S r.2) Q (m.run s)

/-- **What keeps a state sound**, whatever its result. -/
abbrev Keeps (S : σ → Prop) (Q : ε → Prop) (m : StateT σ (Except ε) α) : Prop :=
  Gives S (fun _ => True) Q m

theorem gives_pure {a : α} (ha : P a) : Gives S P Q (pure a) :=
  fun _ hs => ⟨ha, hs⟩

theorem keeps_pure (a : α) : Keeps S Q (pure a) :=
  gives_pure trivial

theorem gives_get : Gives S S Q get :=
  fun _ hs => ⟨hs, hs⟩

theorem keeps_modify {g : σ → σ} (hg : ∀ s, S s → S (g s)) : Keeps S Q (modify g) :=
  fun s hs => ⟨trivial, hg s hs⟩

theorem gives_throw {e : ε} (he : Q e) : Gives S P Q (throw e : StateT σ (Except ε) α) :=
  fun _ _ => he

/-- A step that does not look at the state. -/
theorem gives_lift {x : Except ε α} (hx : EndsIn P Q x) :
    Gives S P Q (liftM x : StateT σ (Except ε) α) := by
  intro s hs
  cases x with
  | ok a => exact ⟨hx, hs⟩
  | error e => exact hx

namespace Gives

variable {m n : StateT σ (Except ε) α} {k : α → StateT σ (Except ε) β}

theorem bind (hm : Gives S P Q m) (hk : ∀ a, P a → Gives S R Q (k a)) : Gives S R Q (m >>= k) :=
  fun s hs => (hm s hs).bind fun r hr => hk r.1 hr.1 r.2 hr.2

theorem ite {c : Prop} [Decidable c] (hm : Gives S P Q m) (hn : Gives S P Q n) :
    Gives S P Q (if c then m else n) := by
  split
  · exact hm
  · exact hn

/-- A step that is taken under a condition, and whose result does not matter. -/
theorem when {c : Prop} [Decidable c] {m : StateT σ (Except ε) Unit}
    {k : Unit → StateT σ (Except ε) β} (hm : Keeps S Q m) (hk : Gives S R Q (k ())) :
    Gives S R Q (if c then m >>= k else k ()) :=
  .ite (hm.bind fun _ _ => hk) hk

/-- **A step for each member of a list** gives what it gives of each. -/
theorem mapM {as : List α} (hk : ∀ a ∈ as, Gives S R Q (k a)) :
    Gives S (fun bs => ∀ b ∈ bs, R b) Q (as.mapM k) := by
  induction as with
  | nil => exact gives_pure (List.forall_mem_nil _)
  | cons a as ih =>
    rw [List.forall_mem_cons] at hk
    rw [List.mapM_cons]
    refine hk.1.bind fun b hb => (ih hk.2).bind fun bs hbs => gives_pure ?_
    exact List.forall_mem_cons.2 ⟨hb, hbs⟩

end Gives

/-- What follows what keeps a state sound. -/
theorem Keeps.bind {m : StateT σ (Except ε) α} {k : α → StateT σ (Except ε) β}
    (hm : Keeps S Q m) (hk : ∀ a, Gives S R Q (k a)) : Gives S R Q (m >>= k) :=
  Gives.bind hm fun a _ => hk a

/-- **A loop over a list** keeps a state sound if its body does for each member. -/
theorem keeps_forIn {f : α → β → StateT σ (Except ε) (ForInStep β)} {as : List α} (init : β)
    (hf : ∀ a ∈ as, ∀ b, Keeps S Q (f a b)) : Keeps S Q (forIn as init f) := by
  induction as generalizing init with
  | nil => exact keeps_pure init
  | cons a as ih =>
    rw [List.forall_mem_cons] at hf
    rw [List.forIn_cons]
    refine (hf.1 init).bind fun step => ?_
    cases step with
    | done b => exact keeps_pure b
    | yield b => exact ih b hf.2

end Steps

end DriftPatch
