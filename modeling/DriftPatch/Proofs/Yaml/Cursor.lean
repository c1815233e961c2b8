import DriftPatch.Proofs.Steps
import DriftPatch.Yaml.Token.Name

/-!
# Places of one text

All cursors of a document are places of one text: each lies behind the one it was
made from, or is the same, and behind all of them there is the same to be met
(`Cursor.Reaches`). So what can be wrong where a cursor stands can be told at the start
of the text (`Cursor.MayRaise`).

A text goes wrong in few ways while its characters are read. It may be malformed, it
may escape a character that there is not, it may hold a number of too many digits, or it
may break off.
-/

namespace DriftPatch.Yaml

/-- **A text escapes a character**, which it gives by its code: behind a backslash and a
letter there are as many digits as the letter asks for. -/
def Quoted.Escapes (t : Text) (code : Nat) : Prop :=
  ∃ letter count digits, '\\' :: letter :: digits <:+ t ∧ codeLengths.lookup letter = some count
    ∧ hexNumber? count digits = some code

/-- **A text holds a number of too many digits**, one behind the other. -/
def Name.HasLongNumber (t : Text) : Prop :=
  ∃ digits, digits <:+: t ∧ digits.all Text.isAsciiDigit ∧ Numeral.maxDigits < digits.length

namespace Cursor

variable {c d e : Cursor} {fault : Fault}

/-! ## Places behind a place -/

/-- **A place behind another one** of the same text, or the same place. -/
structure Reaches (c d : Cursor) : Prop where
  /-- What remains there is an end of what remains here. -/
  rest : d.rest <:+ c.rest
  /-- The text is as long. -/
  size : d.size = c.size
  /-- The same is to be met behind it. -/
  after : d.after = c.after

namespace Reaches

theorem refl (c : Cursor) : c.Reaches c :=
  ⟨List.suffix_rfl, rfl, rfl⟩

theorem trans (hcd : c.Reaches d) (hde : d.Reaches e) : c.Reaches e :=
  ⟨hde.rest.trans hcd.rest, hde.size.trans hcd.size, hde.after.trans hcd.after⟩

end Reaches

theorem rest_next (c : Cursor) : c.next.rest = c.rest.tail := by
  unfold next
  cases hrest : c.rest with
  | nil => exact hrest
  | cons char rest => cases hbreak : isBreak char <;> simp [hbreak]

theorem rest_skip (c : Cursor) (n : Nat) : (c.skip n).rest = c.rest.drop n := by
  induction n generalizing c with
  | zero => rfl
  | succ n ih => rw [skip, ih, rest_next, List.drop_tail]

theorem reaches_next (c : Cursor) : c.Reaches c.next where
  rest := by
    rw [rest_next]
    exact List.tail_suffix _
  size := by
    unfold next
    cases c.rest with
    | nil => rfl
    | cons char rest => cases hbreak : isBreak char <;> simp [hbreak]
  after := by
    unfold next
    cases c.rest with
    | nil => rfl
    | cons char rest => cases hbreak : isBreak char <;> simp [hbreak]

theorem reaches_skip (c : Cursor) (n : Nat) : c.Reaches (c.skip n) := by
  induction n generalizing c with
  | zero => exact .refl c
  | succ n ih => exact c.reaches_next.trans (ih c.next)

/-- Behind at least one character is behind the next one. -/
theorem next_reaches_skip (c : Cursor) {n : Nat} (hn : n ≠ 0) : c.next.Reaches (c.skip n) := by
  cases n with
  | zero => exact absurd rfl hn
  | succ n => exact c.next.reaches_skip n

theorem reaches_takeWhile (p : Char → Bool) (c : Cursor) : c.Reaches (c.takeWhile p).2 :=
  c.reaches_skip _

theorem reaches_skipWhile (p : Char → Bool) (c : Cursor) : c.Reaches (c.skipWhile p) :=
  c.reaches_takeWhile p

theorem reaches_skipLine (c : Cursor) : c.Reaches c.skipLine :=
  c.reaches_skipWhile _

theorem reaches_takeBreak (c : Cursor) : c.Reaches c.takeBreak.2 := by
  unfold takeBreak
  split
  · exact c.reaches_next
  · exact c.reaches_next
  · split
    · exact c.reaches_next
    · exact .refl c
  · exact .refl c

theorem reaches_skipComment (c : Cursor) : c.Reaches c.skipComment := by
  have hspaces := c.reaches_skipWhile (· == ' ')
  unfold skipComment
  dsimp only
  split
  · exact hspaces.trans (reaches_skipLine _)
  · exact hspaces

/-- **Where a character is passed, less remains.** -/
theorem Reaches.length_lt (h : c.next.Reaches d) (hc : c.rest ≠ []) :
    d.rest.length < c.rest.length := by
  have hle := h.rest.length_le
  rw [rest_next, List.length_tail] at hle
  have hpos := List.length_pos_iff.2 hc
  omega

/-! ## What may be wrong -/

/-- **What may be wrong with the characters of a text** from a place on. -/
inductive MayRaise (c : Cursor) : Fault → Prop where
  /-- The text is malformed. -/
  | malformed : c.MayRaise .malformed
  /-- It escapes a character that there is not. -/
  | escape {f : Fault} {code : Nat} (escapes : Quoted.Escapes c.rest code)
    (beyond : Quoted.checkCode code = .error f) : c.MayRaise f
  /-- It holds a number of too many digits. -/
  | number (long : Name.HasLongNumber c.rest) : c.MayRaise .badValue
  /-- It breaks off. -/
  | breaksOff {f : Fault} (after : c.after = some f) : c.MayRaise f

/-- What may be wrong from a place on may be wrong from a place before it. -/
theorem Reaches.mayRaise (h : c.Reaches d) (hfault : d.MayRaise fault) : c.MayRaise fault := by
  cases hfault with
  | malformed => exact .malformed
  | escape escapes beyond =>
    obtain ⟨letter, count, digits, hsuffix, hescape⟩ := escapes
    exact .escape ⟨letter, count, digits, hsuffix.trans h.rest, hescape⟩ beyond
  | number long =>
    obtain ⟨digits, hinfix, hlong⟩ := long
    exact .number ⟨digits, hinfix.trans h.rest.isInfix, hlong⟩
  | breaksOff after => exact .breaksOff (h.after ▸ after)

/-- Where the text does not go on here nothing else is wrong than at any other place. -/
theorem mayRaise_refusal_of_after (h : d.after = c.after) : d.MayRaise c.refusal := by
  unfold refusal
  split
  · cases hafter : c.after with
    | none => exact .malformed
    | some fault => exact .breaksOff (h.trans hafter)
  · exact .malformed

theorem mayRaise_refusal (c : Cursor) : c.MayRaise c.refusal :=
  mayRaise_refusal_of_after rfl

/-- **What reads from a place** ends behind it, or says what may be wrong there. -/
abbrev Reads {α : Type} (c : Cursor) (place : α → Cursor) : Except Fault α → Prop :=
  EndsIn (fun a => c.Reaches (place a)) c.MayRaise

/-- What reads from a place behind reads from here. -/
theorem Reaches.reads {α : Type} {place : α → Cursor} {x : Except Fault α} (h : c.Reaches d)
    (hx : d.Reads place x) : c.Reads place x :=
  hx.mono (fun _ => h.trans) fun _ => h.mayRaise

/-- What is wrong behind a place is wrong from here on. -/
theorem Reaches.endsIn {α : Type} {P : α → Prop} {x : Except Fault α} (h : c.Reaches d)
    (hx : EndsIn P d.MayRaise x) : EndsIn P c.MayRaise x :=
  hx.mono (fun _ => id) fun _ => h.mayRaise

/-! ## Looking ahead -/

/-- **What looks ahead** has no say in where reading goes on. -/
abbrev Looks {α : Type} (c : Cursor) : Except Fault α → Prop :=
  EndsIn (fun _ => True) c.MayRaise

theorem looks_mustHold_of_after (h : d.after = c.after) (count : Nat) :
    d.Looks (c.mustHold count) := by
  unfold mustHold
  cases hafter : c.after with
  | none => trivial
  | some fault =>
    dsimp only
    split
    · exact .breaksOff (h.trans hafter)
    · trivial

theorem looks_mustHold (c : Cursor) (count : Nat) : c.Looks (c.mustHold count) :=
  looks_mustHold_of_after rfl count

theorem looks_mustTellBoundary (mark : Char) (c : Cursor) : c.Looks (c.mustTellBoundary mark) :=
  c.looks_mustHold _

theorem looks_atDocumentBoundary (c : Cursor) : c.Looks c.atDocumentBoundary :=
  (c.looks_mustTellBoundary '-').bind fun _ _ =>
    (c.looks_mustTellBoundary '.').bind fun _ _ => trivial

/-- **Where a character must stand** there is one, or the text ends there. -/
theorem endsIn_mustHold_one (c : Cursor) :
    EndsIn (fun _ => c.rest = [] → c.after = none) c.MayRaise (c.mustHold 1) := by
  unfold mustHold
  cases hafter : c.after with
  | none => exact fun _ => rfl
  | some fault =>
    dsimp only
    split
    · exact .breaksOff hafter
    · next hlength =>
      intro hrest
      rw [hrest] at hlength
      exact absurd Nat.one_pos hlength

theorem reads_finishLine (c : Cursor) : c.Reads id c.finishLine := by
  have hcomment := c.reaches_skipComment
  unfold finishLine
  dsimp only
  split
  · exact hcomment.trans (reaches_takeBreak _)
  · exact hcomment.mayRaise (mayRaise_refusal _)

end Cursor

end DriftPatch.Yaml
