import DriftPatch.Record.Checked
import DriftPatch.Record.Numeral

/-!
# Checking fields

The kinds of values that the fields of records hold. A text may also be given
by its bytes. A whole number may also be written as a truth value, as a number
without a fraction, or as a text of digits (`Record.Numeral`). Fields that may
be left empty take the absence of a value as well.
-/

namespace DriftPatch.Field

/-- A text, or the bytes of one. -/
def text : Value → Checked Text
  | .text t => .valid t
  | .bytes b =>
    match String.fromUTF8? ⟨b.toArray⟩ with
    | some s => .valid s.toList
    | none => .fail .notDecodable
  | _ => .fail .notText

/-- A value that may be absent. -/
def optional {α : Type} (check : Value → Checked α) : Value → Checked (Option α)
  | .null => .valid none
  | v => (check v).map some

/-- A list. -/
def list {α : Type} (check : Value → Checked α) : Value → Checked (List α)
  | .list vs => Checked.items check 0 vs
  | _ => .fail .notList

/-- A list that is not changed once it is made. -/
def fixedList {α : Type} (check : Value → Checked α) : Value → Checked (List α)
  | .list vs => Checked.items check 0 vs
  | _ => .fail .notFixedList

/-- One of some words. -/
def word {α : Type} (ofWord? : Text → Option α) : Value → Checked α
  | .text t =>
    match ofWord? t with
    | some a => .valid a
    | none => .fail .notWord
  | _ => .fail .notWord

/-! ## Whole numbers -/

/-- The whole number that a floating-point number is. -/
def ofFloat (x : Float) : Checked Int :=
  match Value.Number.ofFloat x with
  | .whole n => if n.natAbs < Decimal.twoTo 63 then .valid n else .fail .numeralTooLarge
  | .other (.finite ..) => .fail .hasFraction
  | .other _ => .fail .notFinite

/-- A whole number. -/
def int : Value → Checked Int
  | .int n => .valid n
  | .bool b => .valid (if b then 1 else 0)
  | .float x => ofFloat x
  | .text t => ofNumeral t
  | _ => .fail .notInt

/-! ## Records -/

/-- The entries of a record. -/
abbrev Entries := List (Value × Value)

/-- A record, checked by its entries. Entries under other names than
those given are not allowed. -/
def record {α : Type} (names : List String) (check : Entries → Checked α) :
    Value → Checked α
  | .mapping entries =>
    let unknown := entries.filterMap fun (key, _) =>
      match key with
      | .text name =>
        if names.any (·.toList == name) then none
        else some (Problem.mk [.field name] .unknownField)
      | _ => some (Problem.mk [] .notRecord)
    (fun a () => a) <$> check entries <*> (if unknown = [] then .valid () else .invalid unknown)
  | _ => .fail .notRecord

/-- The field of a record that may be missing, in favour of a value. -/
def withDefault {α : Type} (fallback : α) (check : Value → Checked α) (entries : Entries)
    (name : String) : Checked α :=
  match Value.member? entries name.toList with
  | some v => (check v).under (.field name.toList)
  | none => .valid fallback

/-- The field of a record that has to be there. -/
def required {α : Type} (check : Value → Checked α) (entries : Entries) (name : String) :
    Checked α :=
  match Value.member? entries name.toList with
  | some v => (check v).under (.field name.toList)
  | none => .invalid [⟨[.field name.toList], .missingField⟩]

end DriftPatch.Field
