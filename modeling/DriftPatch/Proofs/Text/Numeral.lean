import DriftPatch.Text.Numeral
import Mathlib.Data.List.Induction
import Mathlib.Tactic.ByContra
import Mathlib.Tactic.IntervalCases

/-!
# Reading undoes writing numbers

The digits of a number denote the number, and there are no more than
`Numeral.maxDigits` of them exactly where the number is below
`10 ^ Numeral.maxDigits`. So the numbers that are written are the ones
below that bound, and each of them is read back as itself
(`Numeral.read_digits`). A number that is read at all is one of them
(`Numeral.fits_of_read`).
-/

namespace DriftPatch

namespace Text

theorem digitValue?_digitChar {d : Nat} (h : d < 10) :
    digitValue? d.digitChar = some d := by
  interval_cases d <;> rfl

theorem digitValue?_lt {c : Char} {d : Nat} (h : digitValue? c = some d) : d < 10 := by
  obtain ⟨origin, -, horigin⟩ := List.exists_of_findSome?_eq_some h
  split at horigin
  · next hrange =>
    obtain rfl := Option.some.inj horigin
    omega
  · cases horigin

theorem isDecimalDigit_digitChar {d : Nat} (h : d < 10) :
    isDecimalDigit d.digitChar = true := by
  rw [isDecimalDigit, digitValue?_digitChar h]
  rfl

end Text

namespace Numeral

open Text

theorem digits_of_lt {n : Nat} (h : n < 10) : digits n = [n.digitChar] := by
  rw [digits, if_pos h]

theorem digits_of_le {n : Nat} (h : 10 ≤ n) :
    digits n = digits (n / 10) ++ [(n % 10).digitChar] := by
  rw [digits, if_neg (Nat.not_lt.2 h)]

theorem digits_ne_nil (n : Nat) : digits n ≠ [] := by
  rw [digits]
  split
  · exact List.cons_ne_nil _ _
  · exact List.concat_ne_nil _ _

theorem isDecimalDigit_of_mem_digits {n : Nat} {c : Char} (h : c ∈ digits n) :
    isDecimalDigit c = true := by
  induction n using digits.induct with
  | case1 n hn =>
    rw [digits_of_lt hn, List.mem_singleton] at h
    rw [h]
    exact isDecimalDigit_digitChar hn
  | case2 n hn ih =>
    rw [digits_of_le (Nat.not_lt.1 hn), List.mem_append, List.mem_singleton] at h
    rcases h with h | rfl
    · exact ih h
    · exact isDecimalDigit_digitChar (Nat.mod_lt n (by decide))

theorem value_concat (ds : Text) (c : Char) :
    value (ds ++ [c]) = 10 * value ds + (digitValue? c).getD 0 := by
  rw [value, List.foldl_append]
  rfl

theorem value_lt (ds : Text) : value ds < 10 ^ ds.length := by
  induction ds using List.reverseRecOn with
  | nil => decide
  | append_singleton ds c ih =>
    have hdigit : (digitValue? c).getD 0 < 10 := by
      cases h : digitValue? c with
      | none => decide
      | some d => exact digitValue?_lt h
    rw [value_concat, List.length_append, List.length_singleton, Nat.pow_succ]
    omega

/-- **The digits of a number denote the number.** -/
theorem value_digits (n : Nat) : value (digits n) = n := by
  induction n using digits.induct with
  | case1 n hn =>
    rw [digits_of_lt hn, ← List.nil_append [n.digitChar], value_concat,
      digitValue?_digitChar hn]
    exact Nat.zero_add n
  | case2 n hn ih =>
    rw [digits_of_le (Nat.not_lt.1 hn), value_concat, ih,
      digitValue?_digitChar (Nat.mod_lt n (by decide))]
    exact Nat.div_add_mod n 10

/-- A number has at most `k` digits exactly where it is below `10 ^ k`. -/
theorem length_digits_le_iff {n k : Nat} (hk : 0 < k) :
    (digits n).length ≤ k ↔ n < 10 ^ k := by
  induction n using digits.induct generalizing k with
  | case1 n hn =>
    have hpow : 10 ≤ 10 ^ k := Nat.le_self_pow (Nat.ne_of_gt hk) 10
    rw [digits_of_lt hn]
    exact iff_of_true hk (by omega)
  | case2 n hn ih =>
    rw [digits_of_le (Nat.not_lt.1 hn), List.length_append, List.length_singleton]
    obtain ⟨j, rfl⟩ := Nat.exists_eq_add_of_lt hk
    rw [Nat.zero_add, Nat.add_le_add_iff_right, Nat.pow_succ]
    rcases Nat.eq_zero_or_pos j with rfl | hj
    · have hne := List.length_pos_iff.2 (digits_ne_nil (n / 10))
      exact iff_of_false (by omega) (by omega)
    · rw [ih hj, Nat.div_lt_iff_lt_mul (by decide)]

theorem maxDigits_pos : 0 < maxDigits := by decide

/-- **The numbers that are written and read back**: those of few enough
digits that have no sign. -/
def Fits (n : Int) : Prop :=
  0 ≤ n ∧ n.toNat < 10 ^ maxDigits

instance (n : Int) : Decidable (Fits n) :=
  inferInstanceAs (Decidable (_ ∧ _))

theorem fits_natCast {n : Nat} : Fits n ↔ n < 10 ^ maxDigits := by
  rw [Fits, Int.toNat_natCast]
  exact and_iff_right (Int.natCast_nonneg n)

/-- A number as large as the bound on digits has far fewer digits. -/
theorem fits_of_le {n : Nat} (h : n ≤ maxDigits) : Fits n :=
  fits_natCast.2 (Nat.lt_of_le_of_lt h (Nat.lt_pow_self (by decide)))

theorem write_of_fits {n : Int} (h : Fits n) : write n = .ok (digits n.toNat) := by
  obtain ⟨m, rfl⟩ := Int.eq_ofNat_of_zero_le h.1
  rw [write, Int.natAbs_natCast,
    if_pos ((length_digits_le_iff maxDigits_pos).2 (fits_natCast.1 h)), ofInt,
    if_neg (Int.not_lt.2 (Int.natCast_nonneg m))]
  rfl

/-- A number without a sign is written only if it has few enough
digits. -/
theorem fits_of_write {n : Int} {t : Text} (hn : 0 ≤ n) (h : write n = .ok t) : Fits n := by
  obtain ⟨m, rfl⟩ := Int.eq_ofNat_of_zero_le hn
  rw [fits_natCast, ← length_digits_le_iff maxDigits_pos]
  rw [write, Int.natAbs_natCast] at h
  by_contra hlong
  rw [if_neg hlong] at h
  cases h

/-- **A number that is read can be written**, whatever scripts its digits
are from and however many zeros lead them. -/
theorem fits_of_read {ds : Text} {n : Nat} (h : read ds = .ok n) : Fits n := by
  unfold read at h
  split at h
  · next hlength =>
    cases h
    exact fits_natCast.2 (Nat.lt_of_lt_of_le (value_lt ds)
      (Nat.pow_le_pow_right (by decide) hlength))
  · cases h

/-- **A number that is written is read back as itself.** -/
theorem read_digits {n : Int} (h : Fits n) : read (digits n.toNat) = .ok n.toNat := by
  rw [read, if_pos ((length_digits_le_iff maxDigits_pos).2 h.2), value_digits]

end Numeral

end DriftPatch
