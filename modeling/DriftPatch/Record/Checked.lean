import DriftPatch.Value.Basic

/-!
# Checking values

Records come from outside as values and have to be checked. A check finds
all the mistakes in a value and not just the first, so a **checked**
result is either what was to be read or the list of all problems, and
putting results together puts their problems together.

A problem lies at a place: the names of the fields and the indices of the
items that lead to it from the outermost record.
-/

namespace DriftPatch

/-- A step on the way to a part of a value. -/
inductive PathStep where
  /-- Into the field of a record. -/
  | field (name : Text)
  /-- Into the item of a list. -/
  | item (index : Nat)
  deriving DecidableEq, Repr

/-- **What can be wrong with a value.** -/
inductive Complaint where
  /-- It is no record. -/
  | notRecord
  /-- The record has no such field. -/
  | unknownField
  /-- A field is missing that has to be there. -/
  | missingField
  /-- It is no text. -/
  | notText
  /-- It is raw bytes that are those of no text. -/
  | notDecodable
  /-- It is no whole number. -/
  | notInt
  /-- It is a text that does not denote a whole number. -/
  | badNumeral
  /-- It is a whole number beyond the limits. -/
  | numeralTooLarge
  /-- It is a number with a fraction. -/
  | hasFraction
  /-- It is no finite number. -/
  | notFinite
  /-- It is no list. -/
  | notList
  /-- It is no list, where a list of fixed length is kept. -/
  | notFixedList
  /-- It is none of the words that are possible. -/
  | notWord
  /-- It is no time. -/
  | notTime
  /-- It is a text that does not denote a time. -/
  | badTime
  deriving DecidableEq, Repr

/-- A mistake in a value and where it lies. -/
structure Problem where
  /-- The way to the mistake, from the outside in. -/
  path : List PathStep
  /-- What is wrong. -/
  complaint : Complaint
  deriving DecidableEq, Repr

/-- The word for a complaint. -/
def Complaint.word : Complaint → Text
  | .notRecord => "model_type".toList
  | .unknownField => "extra_forbidden".toList
  | .missingField => "missing".toList
  | .notText => "string_type".toList
  | .notDecodable => "string_unicode".toList
  | .notInt => "int_type".toList
  | .badNumeral => "int_parsing".toList
  | .numeralTooLarge => "int_parsing_size".toList
  | .hasFraction => "int_from_float".toList
  | .notFinite => "finite_number".toList
  | .notList => "list_type".toList
  | .notFixedList => "tuple_type".toList
  | .notWord => "enum".toList
  | .notTime => "datetime_type".toList
  | .badTime => "datetime_from_date_parsing".toList

/-- **The result of a check**: what was read, or all the problems. -/
inductive Checked (α : Type) where
  /-- Nothing is wrong. -/
  | valid (a : α)
  /-- These things are wrong. -/
  | invalid (problems : List Problem)

namespace Checked

variable {α β : Type}

/-- A value that is wrong as a whole. -/
def fail (complaint : Complaint) : Checked α :=
  .invalid [⟨[], complaint⟩]

/-- The result with something done to what was read. -/
def map (f : α → β) : Checked α → Checked β
  | .valid a => .valid (f a)
  | .invalid problems => .invalid problems

/-- Two results put together. Where something is wrong in both, all of it
is reported. -/
def ap (f : Checked (α → β)) (x : Checked α) : Checked β :=
  match f, x with
  | .valid f, .valid a => .valid (f a)
  | .valid _, .invalid q => .invalid q
  | .invalid p, .valid _ => .invalid p
  | .invalid p, .invalid q => .invalid (p ++ q)

instance : Applicative Checked where
  pure := .valid
  seq f x := f.ap (x ())

/-- The result as seen from around the part that was checked. -/
def under (step : PathStep) : Checked α → Checked α
  | .valid a => .valid a
  | .invalid problems => .invalid (problems.map fun p => { p with path := step :: p.path })

/-- The results of checking the items of a list, the first of which has
the index given. -/
def items (check : Value → Checked α) (first : Nat) : List Value → Checked (List α)
  | [] => .valid []
  | v :: rest =>
    List.cons <$> (check v).under (.item first) <*> items check (first + 1) rest

end Checked

end DriftPatch
