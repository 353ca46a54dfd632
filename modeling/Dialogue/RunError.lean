import Dialogue.Service

/-! Why a run fails. -/

namespace Dialogue

inductive Malformation
  | noFrame
  | noCall (script : String)
  | noStopPoint (level : Nat) (script : String)
  | notFresh (frames : Nat)
  | freshAtKey (key : String)
deriving DecidableEq, Repr

def Malformation.message : Malformation → String
  | noFrame => "no active frame"
  | noCall script => s!"frame of script '{script}' has no call to return to"
  | noStopPoint level script => s!"frame {level} of script '{script}' has no stop point"
  | notFresh frames => s!"a fresh run needs exactly one frame, got {frames}"
  | freshAtKey key => s!"a fresh run cannot start at '{key}'"

inductive RunError
  | keyNotFound (script key : String)
  | notAsking (script key : String)
  | notCalling (script key : String)
  | malformed (reason : Malformation)
  | jumpOutOfRange (script : String) (index : Nat) (offset : Int64)
  | stepLimit (limit : Nat)
  | hook (message : String)
  | service (error : ServiceError)
deriving DecidableEq, Repr

def RunError.message : RunError → String
  | keyNotFound script key => s!"key '{key}' not found in script '{script}'"
  | notAsking script key => s!"cannot resume script '{script}' at '{key}': not a prompt"
  | notCalling script key => s!"cannot return to script '{script}' at '{key}': not a call"
  | malformed reason => "malformed call stack: " ++ reason.message
  | jumpOutOfRange script index offset =>
    s!"jump of {offset} from index {index} in script '{script}' is out of range"
  | stepLimit limit => s!"step limit of {limit} exceeded"
  | hook message => message
  | service error => error.message

end Dialogue
