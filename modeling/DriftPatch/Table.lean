/-!
# Tables

A **table** is a list of keys with their values in the order in which the
keys first came. Putting a value under a key that is already there
replaces the value and keeps the place.
-/

namespace DriftPatch

/-- A table from `α` to `β`. -/
abbrev Table (α β : Type) := List (α × β)

namespace Table

variable {α β : Type} [BEq α]

/-- The value under a key. -/
def get? (key : α) (t : Table α β) : Option β :=
  t.lookup key

/-- Whether there is a value under a key. -/
def holds (key : α) (t : Table α β) : Bool :=
  t.any (·.1 == key)

/-- The table with a value put under a key. -/
def put (key : α) (value : β) : Table α β → Table α β
  | [] => [(key, value)]
  | (k, v) :: rest =>
    if k == key then (k, value) :: rest else (k, v) :: put key value rest

/-- The table of some entries, put in one after another: of several
values under one key the last one stays. -/
def ofEntries (entries : List (α × β)) : Table α β :=
  entries.foldl (fun t (key, value) => t.put key value) []

/-! ## What is found in a table -/

theorem get?_cons (key k : α) (v : β) (t : Table α β) :
    get? key ((k, v) :: t) = if key == k then some v else t.get? key := by
  unfold get?
  rw [List.lookup_cons]
  cases key == k <;> rfl

variable [LawfulBEq α] {key : α} {value : β} {t : Table α β}

/-- There is a value under a key exactly if one is found. -/
theorem holds_eq_isSome_get? : t.holds key = (t.get? key).isSome := by
  induction t with
  | nil => rfl
  | cons entry t ih =>
    obtain ⟨k, v⟩ := entry
    rw [get?_cons, Bool.beq_comm]
    show (k == key || Table.holds key t) = _
    cases k == key with
    | true => rfl
    | false => exact ih

/-- **The value put under a key is found there**, and under every other key
what was there before. -/
theorem get?_put (other : α) :
    (t.put key value).get? other = if other == key then some value else t.get? other := by
  induction t with
  | nil => exact get?_cons other key value []
  | cons entry t ih =>
    obtain ⟨k, v⟩ := entry
    rw [put]
    split
    · next hk =>
      obtain rfl := eq_of_beq hk
      rw [get?_cons, get?_cons]
      cases other == k <;> rfl
    · next hk =>
      rw [get?_cons, get?_cons, ih]
      split
      · next ho =>
        obtain rfl := eq_of_beq ho
        rw [if_neg hk]
      · rfl

/-- **Of the entries put in under a key the last one is found.** -/
theorem get?_ofEntries (entries : List (α × β)) :
    (ofEntries entries).get? key = get? key entries.reverse := by
  have hput (t : Table α β) :
      (entries.foldl (fun t (key, value) => t.put key value) t).get? key
        = (get? key entries.reverse).or (t.get? key) := by
    induction entries generalizing t with
    | nil => rfl
    | cons entry entries ih =>
      obtain ⟨k, v⟩ := entry
      have hlast : get? key [(k, v)] = if key == k then some v else none := get?_cons key k v []
      rw [List.foldl_cons, ih, get?_put, List.reverse_cons]
      unfold get? at hlast ⊢
      rw [List.lookup_append, hlast, Option.or_assoc]
      split <;> rfl
  rw [ofEntries, hput []]
  exact Option.or_none

end Table

end DriftPatch
