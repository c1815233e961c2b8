import DriftPatch.Value.SetOrder
import DriftPatch.Yaml.Cursor

/-!
# Documents

What a document holds is a value whose parts may be met at several
places, also within themselves. So a **document** keeps its collections
by number, and a place holds either a value without parts or the number
of a collection.

A tree comes out of it by looking from one place (`Document.view`): what
is met again within itself is shown as a cycle there. The same collection
can look different from another place, so whoever reads a document looks
from the place that is asked for.
-/

namespace DriftPatch.Yaml

/-- **A value without parts.** Values that are equal are the same key of
a mapping, and what is not a number, and so not equal to itself, is the
same key where it comes from the same scalar. -/
structure Atom where
  /-- The value. -/
  value : Value
  /-- The scalar it comes from, unless that is of no account because all
  scalars of its form are one. -/
  source : Option Nat

instance : BEq Atom where
  beq a b := a.source == b.source || a.value == b.value

/-- What a place in a document holds. -/
inductive Ref where
  /-- A value without parts. -/
  | atom (a : Atom)
  /-- The collection with a number. -/
  | part (n : Nat)

/-- **A collection**, with what its places hold. -/
inductive Part where
  /-- A list. -/
  | list (items : List Ref)
  /-- A list of pairs. -/
  | pairs (items : List (Ref × Ref))
  /-- A set. -/
  | set (members : List Atom)
  /-- A mapping. -/
  | mapping (entries : Table Atom Ref)

instance : Inhabited Part := ⟨.list []⟩

namespace Part

/-- Whether a collection is a mapping. -/
def isMapping : Part → Bool
  | .mapping _ => true
  | _ => false

/-- Whether a collection has no parts. -/
def isEmpty : Part → Bool
  | .list items => items.isEmpty
  | .pairs items => items.isEmpty
  | .set members => members.isEmpty
  | .mapping entries => entries.isEmpty

end Part

/-- **A document**: its collections, and the place that it is. -/
structure Document where
  /-- The collections. -/
  parts : Array Part
  /-- The document as a whole. -/
  root : Ref

namespace Document

/-- The collection with a number. -/
def part (d : Document) (n : Nat) : Part :=
  d.parts.getD n default

/-- The entries of the mapping at a place. -/
def entries? (d : Document) : Ref → Option (Table Atom Ref)
  | .part n =>
    match d.part n with
    | .mapping entries => some entries
    | _ => none
  | .atom _ => none

/-- Whether what a place holds says nothing. -/
def isVoid (d : Document) : Ref → Bool
  | .atom a => a.value.isVoid
  | .part n => (d.part n).isEmpty

/-- What a place holds, seen from within the collections `around` it. -/
def viewWithin (d : Document) : Nat → (around : List Nat) → Ref → Value
  | _, _, .atom a => a.value
  | 0, _, .part _ => .null
  | fuel + 1, around, .part n =>
    if around.contains n then .cycle (d.part n).isMapping
    else
      let view := d.viewWithin fuel (n :: around)
      match d.part n with
      | .list items => .list (items.map view)
      | .pairs items => .list (items.map fun (a, b) => .pair (view a) (view b))
      | .set members => .set (Value.arrange (members.map (·.value)))
      | .mapping entries => .mapping (entries.map fun (key, r) => (key.value, view r))

/-- **What a place holds**, as a tree. No more collections lie within one
another than there are. -/
def view (d : Document) (r : Ref) : Value :=
  d.viewWithin (d.parts.size + 1) [] r

end Document

end DriftPatch.Yaml
