import Dialogue.Registry
import Dialogue.RunError

/-! Why a command fails. -/

namespace Dialogue

inductive SettingsError
  | load
  | invalid
  | render
deriving DecidableEq, Repr

def SettingsError.message : SettingsError → String
  | load => "Failed to load configuration"
  | invalid => "Invalid configuration"
  | render => "Failed to render configuration"

inductive Failure
  | run (error : RunError)
  | registry (error : RegistryError)
  | settings (error : SettingsError)
  | readState (path : String)
  | parseState (path : String)
  | writeState (path : String)
  | remove (path : String)
  | endless
deriving DecidableEq, Repr

def Failure.message : Failure → String
  | run error => error.message
  | registry error => error.message
  | settings error => error.message
  | readState path => s!"Failed to read state file {path}"
  | parseState path => s!"Failed to parse state file {path}"
  | writeState path => s!"Failed to write state file {path}"
  | remove path => s!"Failed to remove {path}"
  | endless => "the dialogue does not come to a stop"

end Dialogue
