import LedgerClient.Settings.Client
import LedgerClient.Settings.Environment
import LedgerClient.Toml.Parser

/-! # Loading settings

Settings come from a file, and the environment overrides them.
-/

namespace LedgerClient

/-- Why settings cannot be loaded. -/
inductive LoadFault where
  /-- The file is missing or is not TOML. -/
  | unreadable (path : String)
  /-- A setting is not of the kind that is wanted. -/
  | undecodable
  | refused (fault : SettingsFault)
deriving DecidableEq

/-- The wording of a fault. -/
def LoadFault.message : LoadFault → String
  | unreadable path => s!"failed to build configuration from '{path}'"
  | undecodable => "failed to deserialize configuration"
  | refused fault => fault.message

namespace ClientSettings

/-- The settings of a file, if there is one, and an environment. -/
def load (path : String) (contents : Option String) (environment : List (String × String)) :
    Except LoadFault ClientSettings :=
  match contents.bind Toml.parse? with
  | none => .error (.unreadable path)
  | some entries =>
    let fromFile := Setting.assignAll (.table []) entries
    let setting := fromFile.assignAll (Environment.settings environment)
    match ofSetting? setting with
    | none => .error .undecodable
    | some settings =>
      match settings.validate with
      | .ok () => .ok settings
      | .error fault => .error (.refused fault)

end ClientSettings

end LedgerClient
