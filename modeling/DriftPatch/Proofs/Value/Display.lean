import DriftPatch.Proofs.Steps
import DriftPatch.Value.Display

/-!
# What can be written

A value is written with all that it holds, and only a whole number of too many digits
cannot be written. So a value can be written exactly if each number in it can
(`Value.exists_display_eq_ok_iff`).
-/

namespace DriftPatch.Value

/-! ## Numbers within a value -/

/-- **A value holds a whole number**, among the values within it or as itself. -/
inductive Holds (n : Int) : Value → Prop where
  /-- A number holds itself. -/
  | self : Holds n (.int n)
  /-- A list holds what its items hold. -/
  | item {items : List Value} {v : Value} (mem : v ∈ items) (holds : Holds n v) :
    Holds n (.list items)
  /-- A pair holds what its first value holds. -/
  | first {v w : Value} (holds : Holds n v) : Holds n (.pair v w)
  /-- A pair holds what its second value holds. -/
  | second {v w : Value} (holds : Holds n w) : Holds n (.pair v w)
  /-- A set holds what its members hold. -/
  | member {members : List Value} {v : Value} (mem : v ∈ members) (holds : Holds n v) :
    Holds n (.set members)
  /-- A mapping holds what its keys hold. -/
  | key {entries : List (Value × Value)} {entry : Value × Value} (mem : entry ∈ entries)
    (holds : Holds n entry.1) : Holds n (.mapping entries)
  /-- A mapping holds what its values hold. -/
  | value {entries : List (Value × Value)} {entry : Value × Value} (mem : entry ∈ entries)
    (holds : Holds n entry.2) : Holds n (.mapping entries)

/-- **A value can be written**: no whole number in it has too many digits. -/
def IsWritable (v : Value) : Prop :=
  ∀ n, v.Holds n → (Numeral.digits n.natAbs).length ≤ Numeral.maxDigits

variable {v w : Value} {vs : List Value} {entries : List (Value × Value)}

theorem isWritable_of_not_holds (h : ∀ n, ¬v.Holds n) : v.IsWritable :=
  fun n hn => absurd hn (h n)

theorem isWritable_int_iff {n : Int} :
    IsWritable (.int n) ↔ (Numeral.digits n.natAbs).length ≤ Numeral.maxDigits := by
  refine ⟨fun h => h n .self, fun hn m hm => ?_⟩
  cases hm
  exact hn

theorem isWritable_list_iff : IsWritable (.list vs) ↔ ∀ v ∈ vs, v.IsWritable := by
  refine ⟨fun h v hv n hn => h n (.item hv hn), fun h n hn => ?_⟩
  cases hn with
  | item mem holds => exact h _ mem n holds

theorem isWritable_set_iff : IsWritable (.set vs) ↔ ∀ v ∈ vs, v.IsWritable := by
  refine ⟨fun h v hv n hn => h n (.member hv hn), fun h n hn => ?_⟩
  cases hn with
  | member mem holds => exact h _ mem n holds

theorem isWritable_pair_iff : IsWritable (.pair v w) ↔ v.IsWritable ∧ w.IsWritable := by
  refine ⟨fun h => ⟨fun n hn => h n (.first hn), fun n hn => h n (.second hn)⟩, fun h n hn => ?_⟩
  cases hn with
  | first holds => exact h.1 n holds
  | second holds => exact h.2 n holds

theorem isWritable_mapping_iff :
    IsWritable (.mapping entries) ↔ ∀ entry ∈ entries, entry.1.IsWritable ∧ entry.2.IsWritable := by
  refine ⟨fun h entry hentry => ⟨fun n hn => h n (.key hentry hn),
    fun n hn => h n (.value hentry hn)⟩, fun h n hn => ?_⟩
  cases hn with
  | key mem holds => exact (h _ mem).1 n holds
  | value mem holds => exact (h _ mem).2 n holds

/-! ## Writing -/

/-- A value that is written whatever it is. -/
theorem literal_iff_of_leaf {t : Text} (hliteral : literal v = .ok t) (hleaf : ∀ n, ¬v.Holds n) :
    (∃ t, literal v = .ok t) ↔ v.IsWritable :=
  iff_of_true ⟨t, hliteral⟩ (isWritable_of_not_holds hleaf)

theorem exists_write_eq_ok_iff {n : Int} :
    (∃ t, Numeral.write n = .ok t)
      ↔ (Numeral.digits n.natAbs).length ≤ Numeral.maxDigits := by
  unfold Numeral.write
  split
  · next h => exact iff_of_true ⟨_, rfl⟩ h
  · next h => exact iff_of_false nofun h

mutual

theorem exists_literal_eq_ok_iff : (v : Value) → ((∃ t, literal v = .ok t) ↔ v.IsWritable)
  | .null => literal_iff_of_leaf rfl nofun
  | .bool _ => literal_iff_of_leaf rfl nofun
  | .int n => exists_write_eq_ok_iff.trans isWritable_int_iff.symm
  | .float _ => literal_iff_of_leaf rfl nofun
  | .text _ => literal_iff_of_leaf rfl nofun
  | .ragged _ => literal_iff_of_leaf rfl nofun
  | .bytes _ => literal_iff_of_leaf rfl nofun
  | .date _ => literal_iff_of_leaf rfl nofun
  | .moment _ => literal_iff_of_leaf rfl nofun
  | .cycle _ => literal_iff_of_leaf rfl nofun
  | .list items => by
    rw [isWritable_list_iff, ← exists_literals_eq_ok_iff items, literal]
    exact exists_bind_pure_eq_ok_iff
  | .pair v w => by
    rw [isWritable_pair_iff, ← exists_literal_eq_ok_iff v, ← exists_literal_eq_ok_iff w, literal]
    exact exists_bind_eq_ok_iff fun _ => exists_bind_pure_eq_ok_iff
  | .set [] => literal_iff_of_leaf rfl fun n hn => by cases hn; contradiction
  | .set (v :: vs) => by
    rw [isWritable_set_iff, ← exists_literals_eq_ok_iff (v :: vs), literal]
    · exact exists_bind_pure_eq_ok_iff
    · exact List.cons_ne_nil v vs
  | .mapping entries => by
    rw [isWritable_mapping_iff, ← exists_entryLiterals_eq_ok_iff entries, literal]
    exact exists_bind_pure_eq_ok_iff

theorem exists_literals_eq_ok_iff :
    (vs : List Value) → ((∃ ts, literals vs = .ok ts) ↔ ∀ v ∈ vs, v.IsWritable)
  | [] => iff_of_true ⟨[], rfl⟩ (List.forall_mem_nil _)
  | v :: vs => by
    rw [List.forall_mem_cons, ← exists_literal_eq_ok_iff v, ← exists_literals_eq_ok_iff vs,
      literals]
    exact exists_bind_eq_ok_iff fun _ => exists_bind_pure_eq_ok_iff

theorem exists_entryLiterals_eq_ok_iff :
    (entries : List (Value × Value)) →
      ((∃ ts, entryLiterals entries = .ok ts)
        ↔ ∀ entry ∈ entries, entry.1.IsWritable ∧ entry.2.IsWritable)
  | [] => iff_of_true ⟨[], rfl⟩ (List.forall_mem_nil _)
  | (key, v) :: entries => by
    rw [List.forall_mem_cons, ← exists_literal_eq_ok_iff key, ← exists_literal_eq_ok_iff v,
      ← exists_entryLiterals_eq_ok_iff entries, entryLiterals, and_assoc]
    exact exists_bind_eq_ok_iff fun _ => exists_bind_eq_ok_iff fun _ => exists_bind_pure_eq_ok_iff

end

/-- **A value can be written on its own** exactly if each number in it can. -/
theorem exists_display_eq_ok_iff (v : Value) : (∃ t, v.display = .ok t) ↔ v.IsWritable := by
  unfold display
  split
  · exact iff_of_true ⟨_, rfl⟩ (isWritable_of_not_holds nofun)
  · exact iff_of_true ⟨_, rfl⟩ (isWritable_of_not_holds nofun)
  · exact iff_of_true ⟨_, rfl⟩ (isWritable_of_not_holds nofun)
  · exact iff_of_true ⟨_, rfl⟩ (isWritable_of_not_holds nofun)
  · exact exists_literal_eq_ok_iff v

end DriftPatch.Value
