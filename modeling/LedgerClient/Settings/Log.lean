import LedgerClient.Json.Shape
import LedgerClient.Settings.Setting

/-! # Settings of the log -/

namespace LedgerClient

/-- How log lines are written. -/
inductive LogFormat where
  | json
  | plain
deriving DecidableEq

/-- Where log lines go. -/
inductive LogOutput where
  | stdout
  | file
deriving DecidableEq

/-- What is logged, and how. -/
structure LogSettings where
  /-- A level, or directives that set levels for parts of the program. -/
  level : String
  format : LogFormat
  output : LogOutput
  /-- The file to write to, if lines go to one. -/
  filePath : Option String
deriving DecidableEq

namespace LogSettings

/-- The settings without any choice. -/
def standard : LogSettings := ⟨"info", .plain, .stdout, none⟩

/-- The names of the fields, in order. -/
def fieldNames : List String := ["level", "format", "output", "file-path"]

/-- The words for formats. -/
def formats : List (String × LogFormat) := [("json", .json), ("plain", .plain)]

/-- The words for outputs. -/
def outputs : List (String × LogOutput) := [("stdout", .stdout), ("file", .file)]

/-- Settings in JSON; every field may be left out. -/
def shape {τ ν : Type} [Json.Meaning τ ν] : Json.Shape τ ν LogSettings := fun depth tree => do
  let fields ← Json.Fields.ofTree fieldNames depth tree
  let level ← fields.withDefault "level" standard.level .text
  let format ← fields.withDefault "format" standard.format (.choice formats)
  let output ← fields.withDefault "output" standard.output (.choice outputs)
  return ⟨level, format, output, ← fields.withDefault "file-path" none (.optional .text)⟩

/-- Settings from a tree; every field may be left out. -/
def ofSetting? (setting : Setting) : Option LogSettings := do
  let fields ← setting.fields? fieldNames
  let filePath := fun value : Setting =>
    match value with
    | .nothing => some none
    | value => value.asText?.map some
  return ⟨← Setting.field fields "level" standard.level Setting.asText?,
    ← Setting.field fields "format" standard.format (Setting.asChoice? formats),
    ← Setting.field fields "output" standard.output (Setting.asChoice? outputs),
    ← Setting.field fields "file-path" standard.filePath filePath⟩

end LogSettings

end LedgerClient
