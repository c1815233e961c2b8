import DriftPatch.Text.Quoted
import DriftPatch.Text.Numeral
import DriftPatch.Text.Basic

/-!
# Records as JSON

The tree that a record becomes when it is written down: texts, whole
numbers, lists, and objects whose members keep their order. It is written
without blanks.
-/

namespace DriftPatch

/-- **A written record.** -/
inductive Json where
  /-- An absent value. -/
  | null
  /-- A truth value. -/
  | bool (b : Bool)
  /-- A whole number. -/
  | int (n : Int)
  /-- A text. -/
  | text (t : Text)
  /-- A list. -/
  | list (items : List Json)
  /-- An object, its members in order. -/
  | object (members : List (Text × Json))
  deriving Repr, Inhabited

namespace Json

mutual

/-- **The text of a record**, without blanks. -/
def compact : Json → Text
  | .null => "null".toList
  | .bool b => if b then "true".toList else "false".toList
  | .int n => Numeral.ofInt n
  | .text t => t.quoted
  | .list items => ['['] ++ compactItems items ++ [']']
  | .object members => ['\x7b'] ++ compactMembers members ++ ['\x7d']

/-- The items of a list, separated by commas. -/
def compactItems : List Json → Text
  | [] => []
  | [item] => item.compact
  | item :: rest => item.compact ++ [','] ++ compactItems rest

/-- The members of an object, separated by commas. -/
def compactMembers : List (Text × Json) → Text
  | [] => []
  | [(name, value)] => name.quoted ++ [':'] ++ value.compact
  | (name, value) :: rest =>
    name.quoted ++ [':'] ++ value.compact ++ [','] ++ compactMembers rest

end

/-- The members that are present. -/
def present (members : List (Text × Json)) : List (Text × Json) :=
  members.filter fun
    | (_, .null) => false
    | _ => true

/-- A value that may be absent. -/
def ofOption {α : Type} (f : α → Json) : Option α → Json
  | none => .null
  | some a => f a

/-- A list of texts. -/
def texts (ts : List Text) : Json :=
  .list (ts.map .text)

end Json

end DriftPatch
