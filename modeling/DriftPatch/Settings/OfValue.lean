import DriftPatch.Language
import DriftPatch.Settings.Basic
import DriftPatch.Settings.Error
import DriftPatch.Value.Display

/-!
# Settings from a document

Settings are read from a mapping, or from the section of it that bears
the name of the settings. A section that is absent in favour of nothing
means the defaults, and so does a setting that is absent. Entries of
other names are passed over.

The settings are checked in a fixed order, whatever the order of the
entries, and the first that is wrong is reported. Those behind it are not
looked up: a section is known by the value it has under each name.
-/

namespace DriftPatch.Settings

/-- The number under a name, which has to count something; `fallback` if
there is none. Truth values do not count. -/
def readCount (found : Text → Option Value) (name : Text) (fallback : Int) :
    Except Error Int :=
  match found name with
  | none => .ok fallback
  | some (.int n) => if n < 0 then .error (.notCount name (.int n)) else .ok n
  | some value => .error (.notCount name value)

/-- The truth value under a name; `fallback` if there is none. -/
def readSwitch (found : Text → Option Value) (name : Text) (fallback : Bool) :
    Except Error Bool :=
  match found name with
  | none => .ok fallback
  | some (.bool b) => .ok b
  | some value => .error (.notSwitch value)

/-- A file extension as it is looked up: in lower case and without the
dots in front. -/
def normalExtension (extension : Value) : Except Numeral.Error Text :=
  match extension with
  | .ragged codes =>
    .ok (Text.ofCodes (Text.lowerCodes (codes.dropWhile (· == '.'.toNat))))
  | _ => do return Text.lower ((← extension.display).dropWhile (· == '.'))

/-- The languages of a mapping from extensions to tags. Of several
extensions that come to the same the last one stays. -/
def readLanguages (entries : List (Value × Value)) :
    Except Numeral.Error (Table Text Text) := do
  let named ← entries.mapM fun (extension, tag) => do
    return (← normalExtension extension, ← tag.display)
  return Table.ofEntries named

/-- The entries under the name of the languages, if there are any. -/
def languageEntries (found : Text → Option Value) :
    Except Error (List (Value × Value)) :=
  match found languagesName with
  | none | some .null => .ok []
  | some (.mapping entries) => .ok entries
  | some _ => .error .languagesNotMapping

/-- The settings of a section. -/
def ofSection (found : Text → Option Value) : Except Fault Settings := do
  let contextLines ← orRefuse (readCount found contextLinesName standard.contextLines)
  let previewLines ← orRefuse (readCount found previewLinesName standard.previewLines)
  let previewWidth ← orRefuse (readCount found previewWidthName standard.previewWidth)
  let telemetry ← orRefuse (readSwitch found telemetryName standard.telemetry)
  let entries ← orRefuse (languageEntries found)
  match readLanguages entries with
  | .ok languages =>
    let settings := { standard with previewLines, previewWidth, telemetry, languages }
    return settings.withContext contextLines
  | .error .tooLong => .error (.unreadable .badValue)
where
  /-- A cause as a fault. -/
  orRefuse {α : Type} : Except Error α → Except Fault α :=
    Except.mapError .refused

/-- **The settings of a document**, given by its entries. -/
def ofEntries (entries : List (Value × Value)) : Except Fault Settings :=
  match Value.member? entries sectionName with
  | none => ofSection (Value.member? entries)
  | some .null => .ok standard
  | some (.mapping found) => ofSection (Value.member? found)
  | some _ => .error (.refused .sectionNotMapping)

end DriftPatch.Settings
