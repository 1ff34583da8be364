import LedgerClient.Log.Filter
import LedgerClient.Settings.Log

/-! # The log of a process

A process has one log. It is set up once, and what is logged before that is lost.
-/

namespace LedgerClient

/-- Why a log cannot be set up. -/
inductive LogFault where
  | invalidLevel (text : String)
  /-- Lines are to go to a file, but no file is named. -/
  | missingPath
  | uncreatable (path : String)
  | alreadySet
deriving DecidableEq

/-- The wording of a fault. -/
def LogFault.message : LogFault → String
  | invalidLevel text => s!"invalid log level '{text}'"
  | missingPath => "log output is 'file' but 'file-path' is not set"
  | uncreatable path => s!"failed to create log file '{path}'"
  | alreadySet => "a global default trace dispatcher has already been set"

/-- What passes, and how and where it is written. -/
structure LogWriter where
  filter : LogFilter
  format : LogFormat
  /-- The file that lines go to; without one they go to the console. -/
  path : Option String

/-- A log and what has been written. -/
structure Journal where
  /-- The writer, once the log is set up. -/
  writer : Option LogWriter
  /-- The lines of each file, by path. -/
  files : List (String × List String)
  console : List String

namespace Journal

/-- A log that is not set up yet. -/
def empty : Journal := ⟨none, [], []⟩

/-- Create a file, or empty it. -/
def create (path : String) (journal : Journal) : Journal :=
  { journal with files := (path, []) :: journal.files.filter (·.1 != path) }

/-- Find the file to write to and create it. -/
def openOutput (canCreate : String → Bool) (settings : LogSettings) :
    EStateM LogFault Journal (Option String) :=
  match settings.output, settings.filePath with
  | .stdout, _ => pure none
  | .file, none => throw .missingPath
  | .file, some path => do
    if !canCreate path then throw (.uncreatable path)
    modify (create path)
    return some path

/-- Set up the log. The file is created before it is known whether a log was set up
earlier. -/
def setUp (canCreate : String → Bool) (settings : LogSettings) :
    EStateM LogFault Journal Unit := do
  match LogFilter.parse? settings.level with
  | none => throw (.invalidLevel settings.level)
  | some filter =>
    let path ← openOutput canCreate settings
    if (← get).writer.isSome then throw .alreadySet
    modify fun journal => { journal with writer := some ⟨filter, settings.format, path⟩ }

/-- The line that a writer makes of an event. -/
def line (format : LogFormat) (event : LogEvent) : String :=
  match format with
  | .plain => event.plainLine
  | .json => event.toJson.render

/-- Log an event, if the log is set up and the event passes. -/
def log (event : LogEvent) (journal : Journal) : Journal :=
  match journal.writer with
  | none => journal
  | some writer =>
    let text := line writer.format event
    if !writer.filter.passes event then journal
    else match writer.path with
      | none => { journal with console := journal.console ++ [text] }
      | some path =>
        { journal with files := journal.files.map fun file =>
            if file.1 = path then (path, file.2 ++ [text]) else file }

end Journal

end LedgerClient
