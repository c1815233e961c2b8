import DriftPatch.Text.Utf8
import Mathlib.Data.List.Basic
import Mathlib.Tactic.SplitIfs

/-!
# UTF-8 in pieces reads what was written

Bytes that are read as a character are the encoding of that character
(`Utf8.eq_append_of_front`). So all that is read of some bytes is what they are the
encoding of, up to a character that has only begun; and bytes that are read to their end
are UTF-8 (`Utf8.isValidUTF8_of_decode`).
-/

namespace DriftPatch.Utf8

variable {lead : UInt8} {bytes given rest : List UInt8} {t : Text}

/-! ## One character -/

theorem bounds_of_followers? {n : Nat} (h : followers? lead = some n) :
    (n = 0 ∧ lead.toNat < 0x80) ∨ (n = 1 ∧ 0xc2 ≤ lead.toNat ∧ lead.toNat < 0xe0)
      ∨ (n = 2 ∧ 0xe0 ≤ lead.toNat ∧ lead.toNat < 0xf0)
      ∨ (n = 3 ∧ 0xf0 ≤ lead.toNat ∧ lead.toNat < 0xf5) := by
  simp only [followers?, UInt8.lt_iff_toNat_lt, UInt8.le_iff_toNat_le, UInt8.reduceToNat] at h
  split_ifs at h <;> cases h <;> omega

theorem bounds_of_fitsSecond {second : UInt8} (h : fitsSecond lead second = true) :
    0x80 ≤ second.toNat ∧ second.toNat ≤ 0xbf ∧ (lead.toNat = 0xe0 → 0xa0 ≤ second.toNat)
      ∧ (lead.toNat = 0xf0 → 0x90 ≤ second.toNat) ∧ (lead.toNat = 0xed → second.toNat ≤ 0x9f)
      ∧ (lead.toNat = 0xf4 → second.toNat ≤ 0x8f) := by
  simp only [fitsSecond, Bool.and_eq_true, decide_eq_true_eq, UInt8.le_iff_toNat_le,
    ← UInt8.toNat_inj, UInt8.reduceToNat, apply_ite UInt8.toNat] at h
  split_ifs at h <;> omega

/-- The bytes of a code are six bits each, behind a byte that tells how many they are. -/
theorem utf8EncodeChar_ofNat {n : Nat} (hn : n.isValidChar)
    (h : bytes.map UInt8.toNat =
      if n ≤ 0x7f then [n]
      else if n ≤ 0x7ff then [n / 0x40 + 0xc0, n % 0x40 + 0x80]
      else if n ≤ 0xffff then [n / 0x1000 + 0xe0, n / 0x40 % 0x40 + 0x80, n % 0x40 + 0x80]
      else [n / 0x40000 + 0xf0, n / 0x1000 % 0x40 + 0x80, n / 0x40 % 0x40 + 0x80,
        n % 0x40 + 0x80]) :
    String.utf8EncodeChar (Char.ofNat n) = bytes := by
  have hval : (Char.ofNat n).val.toNat = n := by
    rw [Char.ofNat, dif_pos hn]
    rfl
  have hinj : Function.Injective UInt8.toNat := fun _ _ => UInt8.toNat_inj.1
  refine (List.map_injective_iff.2 hinj) ?_
  rw [h]
  unfold Nat.isValidChar at hn
  unfold String.utf8EncodeChar
  simp only [hval]
  split_ifs <;> simp <;> omega

theorem charOf_one (lead : UInt8) : charOf lead [] = Char.ofNat lead.toNat :=
  rfl

theorem charOf_two (lead a : UInt8) :
    charOf lead [a] = Char.ofNat (0x40 * (lead.toNat % 0x20) + a.toNat % 0x40) :=
  rfl

theorem charOf_three (lead a b : UInt8) :
    charOf lead [a, b]
      = Char.ofNat (0x40 * (0x40 * (lead.toNat % 0x10) + a.toNat % 0x40) + b.toNat % 0x40) := by
  simp [charOf]

theorem charOf_four (lead a b c : UInt8) :
    charOf lead [a, b, c]
      = Char.ofNat (0x40 * (0x40 * (0x40 * (lead.toNat % 8) + a.toNat % 0x40) + b.toNat % 0x40)
        + c.toNat % 0x40) := by
  simp [charOf]

/-- **The bytes of a character** are those that it is written with. -/
theorem utf8EncodeChar_charOf (hlength : followers? lead = some given.length)
    (hfit : fit lead given = true) : String.utf8EncodeChar (charOf lead given) = lead :: given := by
  have hlead := bounds_of_followers? hlength
  match given with
  | [] =>
    have hlead : lead.toNat < 0x80 := by simpa using hlead
    rw [charOf_one]
    refine utf8EncodeChar_ofNat (Or.inl ?_) ?_
    · omega
    · rw [if_pos (by omega)]
      rfl
  | [a] =>
    have hlead : 0xc2 ≤ lead.toNat ∧ lead.toNat < 0xe0 := by simpa using hlead
    have ha := bounds_of_fitsSecond (Bool.and_eq_true_iff.1 hfit).1
    rw [charOf_two]
    refine utf8EncodeChar_ofNat (Or.inl ?_) ?_
    · omega
    · rw [if_neg (by omega), if_pos (by omega)]
      simp
      omega
  | [a, b] =>
    have hlead : 0xe0 ≤ lead.toNat ∧ lead.toNat < 0xf0 := by simpa using hlead
    have ha := bounds_of_fitsSecond (Bool.and_eq_true_iff.1 hfit).1
    have hb : 0x80 ≤ b.toNat ∧ b.toNat ≤ 0xbf := by
      simpa [UInt8.le_iff_toNat_le] using (Bool.and_eq_true_iff.1 hfit).2
    rw [charOf_three]
    refine utf8EncodeChar_ofNat ?_ ?_
    · unfold Nat.isValidChar
      omega
    · rw [if_neg (by omega), if_neg (by omega), if_pos (by omega)]
      simp
      omega
  | [a, b, c] =>
    have hlead : 0xf0 ≤ lead.toNat ∧ lead.toNat < 0xf5 := by simpa using hlead
    have ha := bounds_of_fitsSecond (Bool.and_eq_true_iff.1 hfit).1
    have hbc : (0x80 ≤ b.toNat ∧ b.toNat ≤ 0xbf) ∧ 0x80 ≤ c.toNat ∧ c.toNat ≤ 0xbf := by
      simpa [UInt8.le_iff_toNat_le] using (Bool.and_eq_true_iff.1 hfit).2
    rw [charOf_four]
    refine utf8EncodeChar_ofNat ?_ ?_
    · unfold Nat.isValidChar
      omega
    · rw [if_neg (by omega), if_neg (by omega), if_neg (by omega)]
      simp
      omega
  | _ :: _ :: _ :: _ :: _ => simp at hlead

/-- **What stands in front as a character** is its encoding. -/
theorem eq_append_of_front {c : Char} (h : front bytes = .char c rest) :
    bytes = String.utf8EncodeChar c ++ rest := by
  unfold front at h
  cases bytes with
  | nil => cases h
  | cons lead behind =>
    dsimp only at h
    cases hfollowers : followers? lead with
    | none =>
      rw [hfollowers] at h
      cases h
    | some n =>
      rw [hfollowers] at h
      dsimp only at h
      split_ifs at h with hfit hlength
      obtain ⟨rfl, rfl⟩ := Front.char.inj h
      have hgiven : (behind.take n).length = n := by
        have := List.length_take_le n behind
        omega
      rw [utf8EncodeChar_charOf (hgiven.symm ▸ hfollowers) (by simpa using hfit), List.cons_append,
        List.take_append_drop]

/-! ## All characters -/

/-- **Bytes are read** as the text that they are the encoding of, up to a character that has
only begun. -/
structure IsRead (bytes : List UInt8) (t : Text) (rest : List UInt8) : Prop where
  /-- The text is written there. -/
  written : bytes = t.flatMap String.utf8EncodeChar ++ rest
  /-- Behind it no character is complete. -/
  unfinished : front rest = .unfinished

theorem isRead_of_decodeWithin {limit : Nat} {done : Text} (hlimit : bytes.length ≤ limit)
    (h : decodeWithin limit done bytes = some (t, rest)) :
    ∃ behind, t = done.reverse ++ behind ∧ IsRead bytes behind rest := by
  induction limit generalizing done bytes with
  | zero =>
    obtain rfl := List.length_eq_zero_iff.1 (Nat.le_zero.1 hlimit)
    obtain ⟨rfl, rfl⟩ := Prod.mk.inj (Option.some.inj h)
    exact ⟨[], (List.append_nil _).symm, rfl, rfl⟩
  | succ limit ih =>
    unfold decodeWithin at h
    cases hfront : front bytes with
    | char c behind =>
      rw [hfront] at h
      have hbytes := eq_append_of_front hfront
      have hlength : behind.length ≤ limit := by
        have hpos := c.utf8Size_pos
        rw [hbytes, List.length_append, String.length_utf8EncodeChar] at hlimit
        omega
      obtain ⟨t, rfl, hwritten, hunfinished⟩ := ih hlength h
      refine ⟨c :: t, by simp, ?_, hunfinished⟩
      rw [hbytes, hwritten, List.flatMap_cons, List.append_assoc]
    | unfinished =>
      rw [hfront] at h
      obtain ⟨rfl, rfl⟩ := Prod.mk.inj (Option.some.inj h)
      exact ⟨[], (List.append_nil _).symm, rfl, hfront⟩
    | invalid =>
      rw [hfront] at h
      cases h

theorem isRead_of_decode (h : decode bytes = some (t, rest)) : IsRead bytes t rest := by
  obtain ⟨t, rfl, hread⟩ := isRead_of_decodeWithin (Nat.le_refl _) h
  exact hread

theorem length_le_length_flatMap (t : Text) :
    t.length ≤ (t.flatMap String.utf8EncodeChar).length := by
  induction t with
  | nil => exact Nat.le_refl _
  | cons c t ih =>
    have hpos := c.utf8Size_pos
    rw [List.flatMap_cons, List.length_append, List.length_cons, String.length_utf8EncodeChar]
    omega

/-- There is a byte to each character at least. -/
theorem IsRead.length_le (h : IsRead bytes t rest) : t.length + rest.length ≤ bytes.length := by
  rw [h.written, List.length_append]
  exact Nat.add_le_add_right (length_le_length_flatMap t) _

theorem toList_loop_eq (bytes : ByteArray) (i : Nat) (r : List UInt8) :
    ByteArray.toList.loop bytes i r = r.reverse ++ bytes.data.toList.drop i := by
  induction i, r using ByteArray.toList.loop.induct bytes with
  | case1 i r hi ih =>
    have hi' : i < bytes.data.toList.length := hi
    have hbyte : bytes.get! i = bytes.data.toList[i] := getElem!_pos bytes.data i hi
    rw [ByteArray.toList.loop, if_pos hi, ih, List.reverse_cons, List.append_assoc, hbyte,
      List.drop_eq_getElem_cons hi']
    rfl
  | case2 i r hi =>
    have hi' : bytes.data.toList.length ≤ i := Nat.not_lt.1 hi
    rw [ByteArray.toList.loop, if_neg hi, List.drop_eq_nil_of_le hi', List.append_nil]

theorem toList_eq (bytes : ByteArray) : bytes.toList = bytes.data.toList :=
  toList_loop_eq bytes 0 []

/-- **Bytes that are read to their end are UTF-8.** -/
theorem isValidUTF8_of_decode {bytes : ByteArray} (h : decode bytes.toList = some (t, [])) :
    bytes.IsValidUTF8 := by
  have hwritten := (isRead_of_decode h).written
  rw [toList_eq, List.append_nil] at hwritten
  refine ⟨t, ByteArray.ext (Array.toList_inj.1 ?_)⟩
  rw [hwritten, List.utf8Encode, List.toList_data_toByteArray]

/-- Of a character that has only begun nothing more is read. -/
theorem decode_of_unfinished (h : front bytes = .unfinished) : decode bytes = some ([], bytes) := by
  unfold decode
  cases bytes with
  | nil => rfl
  | cons b bytes => rw [List.length_cons, decodeWithin, h]; rfl

end DriftPatch.Utf8
