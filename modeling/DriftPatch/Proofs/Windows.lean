import DriftPatch.Placement
import DriftPatch.Proofs.Text.Lines

/-!
# Windows in a text that is seen in pieces

Where a hunk is placed is asked of a whole text, while what is known of
the text is mostly a piece of it: the lines not reached yet, with some
lines before them that were rewritten already. The lemmas here move the
question from the text to the piece.
-/

namespace DriftPatch

variable {ls ms front gap region rest wanted : List Line}

/-! ## Lines that agree when stripped -/

theorem sameStripped_iff :
    sameStripped ls ms = true ↔ ls.map Text.strip = ms.map Text.strip :=
  beq_iff_eq

@[simp] theorem sameStripped_refl (ls : List Line) : sameStripped ls ls = true :=
  sameStripped_iff.2 rfl

theorem length_eq_of_sameStripped (h : sameStripped ls ms = true) :
    ls.length = ms.length := by
  have hlen := congrArg List.length (sameStripped_iff.1 h)
  rwa [List.length_map, List.length_map] at hlen

theorem sameStripped_trans {ks : List Line} (h : sameStripped ks ls = true)
    (h' : sameStripped ls ms = true) : sameStripped ks ms = true :=
  sameStripped_iff.2 ((sameStripped_iff.1 h).trans (sameStripped_iff.1 h'))

/-- Returns lost from the ends of lines do not tell lines apart. -/
theorem sameStripped_settle (more : Bool) (ls : List Line) :
    sameStripped ls (Text.settle more ls) = true :=
  sameStripped_iff.2 (Text.map_strip_settle more ls).symm

/-! ## Windows -/

/-- Two ways to cut the same into three parts are one if the parts are of the
same lengths. -/
theorem parts_eq_of_append_eq {α : Type} {gap region rest gap' region' rest' : List α}
    (hsplit : gap ++ region ++ rest = gap' ++ region' ++ rest')
    (hgap : gap.length = gap'.length) (hregion : region.length = region'.length) :
    gap = gap' ∧ region = region' ∧ rest = rest' := by
  rw [List.append_assoc, List.append_assoc] at hsplit
  obtain ⟨hgap, hback⟩ := List.append_inj hsplit hgap
  obtain ⟨hregion, hrest⟩ := List.append_inj hback hregion
  exact ⟨hgap, hregion, hrest⟩

theorem window_append (front rest : List Line) (k width : Nat) :
    window (front ++ rest) (front.length + k) width = window rest k width := by
  rw [window, window, List.drop_length_add_append]

theorem window_gap (gap region rest : List Line) :
    window (gap ++ region ++ rest) gap.length region.length = region := by
  rw [window, List.append_assoc, List.drop_left, List.take_left]

/-- **A window is looked at in the piece it lies in**: lines in front of
the piece change its index only. -/
theorem standsAt_append (wanted front rest : List Line) (k : Nat) :
    standsAt wanted (front ++ rest) ((front.length + k : Nat) : Int)
      = standsAt wanted rest (k : Int) := by
  unfold standsAt
  rw [Int.toNat_natCast, Int.toNat_natCast, window_append, List.length_append]
  have hfit : ((front.length + k : Nat) : Int) + wanted.length
      ≤ ((front.length + rest.length : Nat) : Int)
      ↔ (k : Int) + wanted.length ≤ rest.length := by omega
  have hpos : (0 : Int) ≤ ((front.length + k : Nat) : Int) ↔ (0 : Int) ≤ k := by omega
  rw [decide_eq_decide.2 hfit, decide_eq_decide.2 hpos]

theorem standsAt_gap (h : sameStripped region wanted = true) :
    standsAt wanted (gap ++ region ++ rest) (gap.length : Int) = true := by
  have hlen := length_eq_of_sameStripped h
  have hfit : (gap.length : Int) + wanted.length
      ≤ ((gap ++ region ++ rest).length : Int) := by
    rw [List.length_append, List.length_append]
    omega
  rw [standsAt, Int.toNat_natCast, ← hlen, window_gap, h, hlen, decide_eq_true hfit,
    decide_eq_true (Int.natCast_nonneg _)]
  rfl

theorem splice_gap (gap region rest replacement : List Line) :
    splice (gap ++ region ++ rest) gap.length region.length replacement
      = Text.ofLines (gap ++ replacement ++ rest) := by
  rw [splice, ← List.length_append, List.drop_left, List.append_assoc gap region rest,
    List.take_left]

end DriftPatch
