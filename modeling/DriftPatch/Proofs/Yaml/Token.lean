import DriftPatch.Proofs.Yaml.Cursor
import DriftPatch.Yaml.Token.Lexer

/-!
# Tokens are read onwards

Whatever reads a name, a tag, a directive or a scalar ends at a place behind the one
where it starts, and raises nothing but what may be wrong with characters. What is read
behind an indicator passes the indicator, and a plain scalar passes a character where
one may start: so a token never comes of nothing.
-/

namespace DriftPatch.Yaml

open Cursor

/-- **What reads a token** ends behind the place, with one that does not tell of the end
of the text. -/
abbrev Cursor.ReadsToken (c : Cursor) : Except Fault (Token × Cursor) → Prop :=
  EndsIn (fun r => c.Reaches r.2 ∧ r.1 ≠ .streamEnd) c.MayRaise

/-- What reads a token from a place behind reads it from here. -/
theorem Cursor.Reaches.readsToken {c d : Cursor} {x : Except Fault (Token × Cursor)}
    (h : c.Reaches d) (hx : d.ReadsToken x) : c.ReadsToken x :=
  hx.mono (fun _ hr => ⟨h.trans hr.1, hr.2⟩) fun _ => h.mayRaise

/-! ## Plain scalars -/

namespace Plain

theorem reads_moreBreaks (fuel : Nat) (breaks : Text) (c : Cursor) :
    c.Reads (·.2) (moreBreaks fuel breaks c) := by
  induction fuel generalizing breaks c with
  | zero => exact .refl c
  | succ fuel ih =>
    unfold moreBreaks
    split
    · exact .refl c
    · split
      · exact c.reaches_next.reads (ih _ _)
      · split
        · refine c.reaches_takeBreak.reads ((looks_atDocumentBoundary _).bind fun ended _ => ?_)
          split
          · exact .refl _
          · exact ih _ _
        · exact .refl c

theorem reads_gap (c : Cursor) : c.Reads (·.2.2) (gap c) := by
  have hspaces := c.reaches_takeWhile (· == ' ')
  unfold gap
  refine hspaces.reads ?_
  generalize c.takeWhile (· == ' ') = taken
  obtain ⟨spaces, c⟩ := taken
  dsimp only
  split
  · refine c.reaches_takeBreak.reads ((looks_atDocumentBoundary _).bind fun ended _ => ?_)
    split
    · exact .refl _
    · refine (reads_moreBreaks _ _ _).bind fun ⟨more, d⟩ hd => ?_
      cases more with
      | none => exact hd
      | some more => exact hd
  · exact .refl c

/-- Where a part stands at the cursor it is passed. -/
theorem endsIn_parts (inFlow : Bool) (indent : Int) (fuel : Nat) (done between : Text)
    (crossed : Bool) (c : Cursor) :
    EndsIn (fun r => c.Reaches r.2.2
        ∧ (fuel ≠ 0 → c.peek ≠ some '#' → run inFlow c.rest ≠ [] → c.next.Reaches r.2.2))
      c.next.MayRaise (parts inFlow indent fuel done between crossed c) := by
  induction fuel generalizing done between crossed c with
  | zero => exact ⟨.refl c, absurd rfl⟩
  | succ fuel ih =>
    unfold parts
    split
    · next hmark => exact ⟨.refl c, fun _ h => absurd hmark h⟩
    have hafter (n : Nat) : c.next.after = (c.skip n).after :=
      c.reaches_next.after.trans (c.reaches_skip n).after.symm
    refine EndsIn.when (looks_mustHold_of_after (hafter _) 2) ?_
    dsimp only
    split
    · next hpart => exact ⟨.refl c, fun _ _ h => absurd hpart h⟩
    · next hpart =>
      have hbehind := c.next_reaches_skip (mt List.length_eq_zero_iff.1 hpart)
      have hpassed (d : Cursor) (h : c.next.Reaches d) : c.Reaches d
          ∧ (fuel + 1 ≠ 0 → c.peek ≠ some '#' → run inFlow c.rest ≠ [] → c.next.Reaches d) :=
        ⟨c.reaches_next.trans h, fun _ _ _ => h⟩
      refine (hbehind.reads (reads_gap _)).bind fun ⟨between, crossed, d⟩ hd => ?_
      dsimp only
      split
      · exact hpassed d hd
      · exact (ih ..).mono (fun r h => hpassed _ (hd.trans h.1))
          fun _ h => (hd.trans d.reaches_next).mayRaise h

/-- **A plain scalar** that may start at the cursor passes a character. -/
theorem next_reads_scan {inFlow : Bool} {c : Cursor} (hmark : c.peek ≠ some '#')
    (hpart : run inFlow c.rest ≠ []) (indent : Int) (crossed : Bool) :
    c.next.Reads (·.2.2) (scan inFlow indent crossed c) := by
  have hparts : c.next.Reads (·.2.2) (parts inFlow indent (c.size + 1) [] [] crossed c) :=
    (endsIn_parts ..).mono (fun _ h => h.2 (Nat.succ_ne_zero _) hmark hpart) fun _ => id
  exact hparts.bind fun ⟨_, _, _⟩ hd => hd

end Plain

/-! ## Quoted scalars -/

namespace Quoted

theorem endsIn_hexNumber (count : Nat) (c : Cursor) :
    EndsIn (fun code => hexNumber? count c.rest = some code) c.MayRaise (hexNumber count c) := by
  unfold hexNumber
  split
  · next code h => exact h
  · exact (c.reaches_skipWhile _).mayRaise (mayRaise_refusal _)

theorem looks_checkCode {code : Nat} {c : Cursor} (h : Escapes c.rest code) :
    c.Looks (checkCode code) := by
  cases hcode : checkCode code with
  | ok code => trivial
  | error fault => exact .escape h hcode

theorem reads_moreBreaks (fuel : Nat) (breaks : Text) (c : Cursor) :
    c.Reads (·.2) (moreBreaks fuel breaks c) := by
  induction fuel generalizing breaks c with
  | zero => exact .refl c
  | succ fuel ih =>
    unfold moreBreaks
    refine c.looks_atDocumentBoundary.bind fun ended _ => ?_
    split
    · exact .malformed
    · refine (c.reaches_skipWhile fun char => char == ' ' || char == '\t').reads ?_
      dsimp only
      split
      · exact (reaches_takeBreak _).reads (ih _ _)
      · exact .refl _

theorem reads_part (double : Bool) (fuel : Nat) (done : List Nat) (c : Cursor) :
    c.Reads (·.2) (part double fuel done c) := by
  induction fuel generalizing done c with
  | zero => exact .refl c
  | succ fuel ih =>
    have hnext (done : List Nat) : c.Reads (·.2) (part double fuel done c.next) :=
      c.reaches_next.reads (ih done _)
    have hskip (n : Nat) (done : List Nat) : c.Reads (·.2) (part double fuel done (c.skip n)) :=
      (c.reaches_skip n).reads (ih done _)
    unfold part
    split
    · exact .refl c
    · split
      · exact hnext _
      · split
        · exact hskip 2 _
        · exact .refl c
    · split
      · exact .refl c
      · exact hnext _
    · next behind hrest =>
      split
      · exact hnext _
      · split
        · exact c.reaches_next.mayRaise (mayRaise_refusal _)
        · split
          · exact hskip 2 _
          · next count _ hcount =>
            refine ((c.reaches_skip 2).endsIn (endsIn_hexNumber _ _)).bind fun code hcode => ?_
            rw [rest_skip, hrest] at hcode
            have hescapes : Escapes c.rest code :=
              ⟨_, count, _, hrest ▸ List.suffix_rfl, hcount, hcode⟩
            exact (looks_checkCode hescapes).bind fun code _ => hskip _ _
          · split
            · have hbreak := c.reaches_next.trans (reaches_takeBreak _)
              refine hbreak.reads ((reads_moreBreaks _ _ _).bind fun ⟨breaks, d⟩ hd => ?_)
              exact hd.reads (ih _ _)
            · exact .malformed
    · split
      · exact .refl c
      · exact hnext _

theorem reads_gap (c : Cursor) : c.Reads (·.2) (gap c) := by
  have hblanks := c.reaches_takeWhile fun char => char == ' ' || char == '\t'
  unfold gap
  refine hblanks.reads ?_
  generalize c.takeWhile _ = taken
  obtain ⟨blanks, c⟩ := taken
  dsimp only
  split
  · exact c.mayRaise_refusal
  · split
    · refine c.reaches_takeBreak.reads ((reads_moreBreaks _ _ _).bind fun ⟨more, d⟩ hd => ?_)
      exact hd
    · exact .refl c

theorem reads_parts (double : Bool) (fuel : Nat) (done : List Nat) (c : Cursor) :
    c.Reads (·.2) (parts double fuel done c) := by
  induction fuel generalizing done c with
  | zero => exact .malformed
  | succ fuel ih =>
    unfold parts
    generalize (if double then '"' else '\'') = quote
    split
    · exact c.reaches_next
    · refine (reads_gap c).bind fun ⟨between, d⟩ hd => ?_
      refine hd.reads ((reads_part _ _ _ _).bind fun ⟨done, e⟩ he => ?_)
      exact he.reads (ih _ _)

/-- **A quoted scalar** passes its opening quote. -/
theorem next_reads_scan (c : Cursor) : c.next.Reads (·.2) (scan c) := by
  refine (reads_part _ _ _ _).bind fun ⟨done, d⟩ hd => ?_
  refine hd.reads ((reads_parts _ _ _ _).bind fun ⟨done, e⟩ he => ?_)
  exact he

end Quoted

/-! ## Block scalars -/

namespace Block

theorem reads_style (c : Cursor) : c.Reads (·.2) (style c) := by
  have hguard (keep : Option Bool) (increment : Option Nat) {d : Cursor} (hd : c.Reaches d) :
      c.Reads (·.2) (if increment = some 0 ∨ !d.atEndOr isSpaceOrBreak then .error .malformed
        else .ok (Style.mk keep increment, d)) := by
    split
    · exact .malformed
    · exact hd
  unfold style
  cases sign? c with
  | some keep =>
    cases digit? c.next with
    | some n => exact hguard _ _ (c.reaches_skip 2)
    | none => exact hguard _ _ c.reaches_next
  | none =>
    cases digit? c with
    | some n =>
      cases sign? c.next with
      | some keep => exact hguard _ _ (c.reaches_skip 2)
      | none => exact hguard _ _ c.reaches_next
    | none => exact hguard _ _ (.refl c)

theorem reaches_leadingBreaks (fuel : Nat) (breaks : Text) (widest : Nat) (c : Cursor) :
    c.Reaches (leadingBreaks fuel breaks widest c).2.2 := by
  induction fuel generalizing breaks widest c with
  | zero => exact .refl c
  | succ fuel ih =>
    unfold leadingBreaks
    split
    · exact .refl c
    · split
      · exact c.reaches_next.trans (ih ..)
      · split
        · exact c.reaches_takeBreak.trans (ih ..)
        · exact .refl c

theorem reaches_skipIndent (indent fuel : Nat) (c : Cursor) :
    c.Reaches (skipIndent indent fuel c) := by
  induction fuel generalizing c with
  | zero => exact .refl c
  | succ fuel ih =>
    unfold skipIndent
    split
    · exact c.reaches_next.trans (ih _)
    · exact .refl c

theorem reaches_breaksBetween (indent fuel : Nat) (breaks : Text) (c : Cursor) :
    c.Reaches (breaksBetween indent fuel breaks c).2 := by
  induction fuel generalizing breaks c with
  | zero => exact .refl c
  | succ fuel ih =>
    have hindent := reaches_skipIndent indent indent c
    unfold breaksBetween
    dsimp only
    split
    · exact hindent.trans ((reaches_takeBreak _).trans (ih ..))
    · exact hindent

theorem reaches_blockLines (folded : Bool) (indent fuel : Nat) (done breaks : Text)
    (c : Cursor) : c.Reaches (blockLines folded indent fuel done breaks c).2.2.2 := by
  induction fuel generalizing done breaks c with
  | zero => exact .refl c
  | succ fuel ih =>
    have hline := (c.reaches_takeWhile fun char => !isBreak char).trans (reaches_takeBreak _)
    unfold blockLines
    dsimp only
    split
    · exact (hline.trans (reaches_breaksBetween ..)).trans (ih ..)
    · exact hline.trans (reaches_breaksBetween ..)

/-- The lines of a block, if there are any, are read onwards. -/
theorem reaches_lines (folded : Bool) (indent fuel : Nat) (breaks : Text) (c : Cursor) :
    c.Reaches (if continues indent c then blockLines folded indent fuel [] breaks c
      else ([], [], breaks, c)).2.2.2 := by
  split
  · exact reaches_blockLines ..
  · exact .refl c

/-- **A block scalar** passes its indicator. -/
theorem next_reads_scan (outer : Int) (c : Cursor) : c.next.Reads (·.2) (scan outer c) := by
  refine (reads_style _).bind fun ⟨⟨keep, increment⟩, d⟩ hd => ?_
  refine hd.reads ((reads_finishLine d).bind fun e he => he.reads ?_)
  cases increment with
  | none =>
    have hbreaks := reaches_leadingBreaks (e.size + 1) [] 0 e
    dsimp only [id_eq]
    generalize leadingBreaks (e.size + 1) [] 0 e = leading at hbreaks ⊢
    exact hbreaks.trans (reaches_lines ..)
  | some n =>
    have hbreaks := reaches_breaksBetween (max 1 (outer + 1).toNat + n - 1) (e.size + 1) [] e
    dsimp only [id_eq]
    generalize breaksBetween _ (e.size + 1) [] e = leading at hbreaks ⊢
    exact hbreaks.trans (reaches_lines ..)

end Block

/-! ## Names, tags and directives -/

namespace Name

/-- **A name** passes the indicator before it. -/
theorem next_reads_scanAnchor (c : Cursor) : c.next.Reads (·.2) (scanAnchor c) := by
  have hname := c.next.reaches_takeWhile isNameChar
  unfold scanAnchor
  dsimp only
  split
  · exact hname.mayRaise (mayRaise_refusal _)
  · exact hname

theorem reads_escapedBytes (fuel : Nat) (c : Cursor) : c.Reads (·.2) (escapedBytes fuel c) := by
  induction fuel generalizing c with
  | zero => exact .refl c
  | succ fuel ih =>
    unfold escapedBytes
    split
    · refine (c.reaches_next.endsIn (Quoted.endsIn_hexNumber 2 _)).bind fun code _ => ?_
      exact ((c.reaches_skip 3).reads (ih _)).bind fun ⟨_, _⟩ hd => hd
    · exact .refl c

theorem reads_tagText (fuel : Nat) (done : Text) (c : Cursor) :
    c.Reads (·.2) (tagText fuel done c) := by
  induction fuel generalizing done c with
  | zero => exact .refl c
  | succ fuel ih =>
    have hplain := c.reaches_takeWhile fun char => isTagChar char && char != '%'
    unfold tagText
    dsimp only
    split
    · refine (hplain.reads (reads_escapedBytes _ _)).bind fun ⟨bytes, d⟩ hd => ?_
      refine (hd.endsIn (looks_mustHold _ 1)).bind fun _ _ => ?_
      split
      · exact .malformed
      · exact hd.reads (ih _ _)
    · exact hplain

theorem reads_scanTagText (c : Cursor) : c.Reads (·.2) (scanTagText c) := by
  unfold scanTagText
  split
  · exact reads_tagText ..
  · exact c.mayRaise_refusal

/-- **A shorthand** passes its exclamation mark. -/
theorem next_reads_scanHandle (c : Cursor) : c.next.Reads (·.2) (scanHandle c) := by
  have hname := c.next.reaches_takeWhile isNameChar
  unfold scanHandle
  split
  · split
    · exact .refl _
    · dsimp only
      split
      · exact hname.trans (reaches_next _)
      · exact hname.mayRaise (mayRaise_refusal _)
  · exact mayRaise_refusal_of_after c.reaches_next.after

/-- **A tag** passes its exclamation mark. -/
theorem next_readsToken_scanTag (c : Cursor) : c.next.ReadsToken (scanTag c) := by
  have hend (handle : Option Text) (suffix : Text) {d : Cursor} (hd : c.next.Reaches d) :
      c.next.ReadsToken (if d.atEndOr isSpaceOrBreak then .ok (Token.tag handle suffix, d)
        else .error d.refusal) := by
    split
    · exact ⟨hd, nofun⟩
    · exact hd.mayRaise (mayRaise_refusal _)
  have htext (handle : Text) {d : Cursor} (hd : c.next.Reaches d) : c.next.ReadsToken
      (scanTagText d >>= fun r =>
        if r.2.atEndOr isSpaceOrBreak then .ok (Token.tag (some handle) r.1, r.2)
        else .error r.2.refusal) :=
    (hd.reads (reads_scanTagText d)).bind fun _ hr => hend _ _ hr
  unfold scanTag
  dsimp only
  split
  · have hskip := c.next_reaches_skip (n := 2) (Nat.succ_ne_zero _)
    refine (hskip.reads (reads_scanTagText _)).bind fun ⟨suffix, d⟩ hd => ?_
    dsimp only
    split
    · exact hend _ _ (hd.trans d.reaches_next)
    · exact hd.mayRaise (mayRaise_refusal _)
  · split
    · exact hend _ _ (.refl _)
    · have hbehind := c.next.reaches_skipWhile fun char => !isSpaceOrBreak char && char != '!'
      refine (hbehind.endsIn (looks_mustHold _ 1)).bind fun _ _ => ?_
      split
      · exact (next_reads_scanHandle c).bind fun r hr => htext r.1 hr
      · exact htext ['!'] (.refl _)

/-- Digits that are too many to be read are a number of too many digits. -/
theorem hasLongNumber_of_read {t : Text} {e : Numeral.Error}
    (h : Numeral.read (t.takeWhile Text.isAsciiDigit) = .error e) : HasLongNumber t := by
  unfold Numeral.read at h
  split at h
  · cases h
  · next hlong =>
    exact ⟨_, (List.takeWhile_prefix _).isInfix, List.all_takeWhile, Nat.not_le.1 hlong⟩

theorem reads_scanNumber (c : Cursor) : c.Reads (·.2) (scanNumber c) := by
  have hdigits := c.reaches_takeWhile Text.isAsciiDigit
  unfold scanNumber
  dsimp only
  refine (hdigits.endsIn (looks_mustHold _ 1)).bind fun _ _ => ?_
  split
  · exact .malformed
  · split
    · exact hdigits
    · next hread => exact .number (hasLongNumber_of_read hread)

theorem readsToken_scanVersion (c : Cursor) : c.ReadsToken (scanVersion c) := by
  have hspaces := c.reaches_skipWhile (· == ' ')
  refine (hspaces.reads (reads_scanNumber _)).bind fun ⟨major, d⟩ hd => ?_
  dsimp only
  split
  · refine ((hd.trans d.reaches_next).reads (reads_scanNumber _)).bind fun ⟨minor, e⟩ he => ?_
    dsimp only
    split
    · exact ⟨he, nofun⟩
    · exact he.mayRaise (mayRaise_refusal _)
  · exact hd.mayRaise (mayRaise_refusal _)

theorem readsToken_scanShorthand (c : Cursor) : c.ReadsToken (scanShorthand c) := by
  have hspaces := c.reaches_skipWhile (· == ' ')
  refine ((hspaces.trans (reaches_next _)).reads (next_reads_scanHandle _)).bind
    fun ⟨handle, d⟩ hd => ?_
  dsimp only
  split
  · have hspaces := hd.trans (d.reaches_skipWhile (· == ' '))
    refine (hspaces.reads (reads_scanTagText _)).bind fun ⟨start, e⟩ he => ?_
    dsimp only
    split
    · exact ⟨he, nofun⟩
    · exact he.mayRaise (mayRaise_refusal _)
  · exact hd.mayRaise (mayRaise_refusal _)

/-- What a directive says is followed by the rest of its line. -/
theorem readsToken_finishLine {c : Cursor} {x : Except Fault (Token × Cursor)}
    (hx : c.ReadsToken x) :
    c.ReadsToken (x >>= fun r => r.2.finishLine >>= fun d => .ok (r.1, d)) :=
  hx.bind fun r ⟨hr, htoken⟩ =>
    (hr.reads (reads_finishLine r.2)).bind fun _ hd => ⟨hd, htoken⟩

/-- **A directive** passes its percent sign. -/
theorem next_readsToken_scanDirective (c : Cursor) : c.next.ReadsToken (scanDirective c) := by
  have hname := c.next.reaches_takeWhile isNameChar
  unfold scanDirective
  dsimp only
  split
  · exact hname.mayRaise (mayRaise_refusal _)
  · split
    · exact hname.readsToken (readsToken_finishLine (readsToken_scanVersion _))
    · split
      · exact hname.readsToken (readsToken_finishLine (readsToken_scanShorthand _))
      · exact hname.readsToken (readsToken_finishLine ⟨reaches_skipLine _, nofun⟩)

end Name

end DriftPatch.Yaml
