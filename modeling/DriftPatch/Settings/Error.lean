import DriftPatch.Value.Basic
import DriftPatch.Yaml.Cursor

/-!
# What can be wrong with settings

A configuration that cannot be used is refused with a cause. The causes
that concern one setting carry the value found there.
-/

namespace DriftPatch.Settings

/-- The name of the section that holds the settings. -/
def sectionName : Text := "patchengine".toList

/-- The name of the number of context lines. -/
def contextLinesName : Text := "context_lines".toList

/-- The name of the number of lines of an excerpt. -/
def previewLinesName : Text := "preview_lines".toList

/-- The name of the width of an excerpt. -/
def previewWidthName : Text := "preview_width".toList

/-- The name of the switch of the reporting of edits. -/
def telemetryName : Text := "telemetry".toList

/-- The name of the languages. -/
def languagesName : Text := "languages".toList

/-- The names of all settings. -/
def names : List Text :=
  [contextLinesName, previewLinesName, previewWidthName, telemetryName, languagesName]

/-- **Why a configuration is refused.** -/
inductive Error where
  /-- The file is no YAML document of plain values. -/
  | malformed
  /-- The document is not a mapping. -/
  | notMapping
  /-- The section of the settings is not a mapping. -/
  | sectionNotMapping
  /-- A setting that counts something is no number from zero on. -/
  | notCount (name : Text) (value : Value)
  /-- The reporting of edits is neither on nor off. -/
  | notSwitch (value : Value)
  /-- The languages are not a mapping. -/
  | languagesNotMapping

namespace Error

/-- The sentence that reports the cause. -/
def message : Error → Text
  | .malformed => "Failed to parse config".toList
  | .notMapping => "Configuration must be a mapping at the top level.".toList
  | .sectionNotMapping => ['\''] ++ sectionName ++ "' section must be a mapping".toList
  | .notCount name _ => name ++ " must be a non-negative integer".toList
  | .notSwitch _ => "telemetry must be a boolean".toList
  | .languagesNotMapping => "languages must map file extensions to language tags".toList

/-- Whether the cause lies in the file as a whole. -/
def concernsFile : Error → Bool
  | .malformed | .notMapping => true
  | _ => false

/-- The setting at fault and the value found there. -/
def culprit? : Error → Option (Text × Value)
  | .notCount name value => some (name, value)
  | .notSwitch value => some (telemetryName, value)
  | _ => none

end Error

/-- **Why no settings were read**: the configuration is refused, or
something in it is beyond what can be read at all. -/
inductive Fault where
  /-- The configuration is refused. -/
  | refused (error : Error)
  /-- The file is no text, or a value in it means nothing or is too long
  to be written. -/
  | unreadable (fault : Yaml.Fault)

end DriftPatch.Settings
