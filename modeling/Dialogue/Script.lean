import Dialogue.Context
import Dialogue.Hook

/-! Scripts: lists of commands with keys at the points where a run may wait, and an index of these points. -/

namespace Dialogue

variable {κ : Kinds}

abbrev Query (κ : Kinds) := Hook κ Context Value

abbrev Condition (κ : Kinds) := Hook κ Context Bool

abbrev Update (κ : Kinds) := Hook κ (Context × Option Value) Value

abbrev ScriptId := Nat

inductive Command (κ : Kinds)
  | say (content : Query κ)
  | ask (key : String) (store : Option (Update κ))
  | call (key : String) (callee : ScriptId) (entry : Option String) (params : Option (Query κ))
      (store : Option (Update κ))
  | jump (offset : Int64)
  -- Jumps if the condition differs from `negated`.
  | branch (condition : Condition κ) (negated : Bool) (offset : Int64)
  | finish (value : Option (Query κ))
  -- Sets the variables, then queues a value to be given out when the run stops.
  | effect (store : Option (Query κ)) (emit : Option (Update κ))

namespace Command

def kind : Command κ → String
  | say _ => "content"
  | ask _ _ => "prompt"
  | call _ _ _ _ _ => "call"
  | jump _ => "jump"
  | branch _ _ _ => "jump_cond"
  | finish _ => "return"
  | effect _ _ => "effect"

def key? : Command κ → Option String
  | ask key _ => some key
  | call key _ _ _ _ => some key
  | _ => none

def callee? : Command κ → Option ScriptId
  | call _ callee _ _ _ => some callee
  | _ => none

end Command

structure StopIndex where
  places : List (String × Nat) := []
deriving DecidableEq, Repr

namespace StopIndex

def get? (x : StopIndex) (key : String) : Option Nat := x.places.lookup key

-- The entry in front counts; the place that the key had before is given back.
def insert (x : StopIndex) (key : String) (place : Nat) : Option Nat × StopIndex :=
  (x.get? key, ⟨(key, place) :: x.places⟩)

def fill (x : StopIndex) (place : Nat) : List (Command κ) → Except String StopIndex
  | [] => .ok x
  | c :: rest =>
    match c.key? with
    | none => x.fill (place + 1) rest
    | some key =>
      match x.insert key place with
      | (none, x) => x.fill (place + 1) rest
      | (some _, _) => .error key

end StopIndex

inductive ScriptError
  | duplicateKey (script key : String)
deriving DecidableEq, Repr

def ScriptError.message : ScriptError → String
  | duplicateKey script key => s!"duplicate stop point key '{key}' in script '{script}'"

def Script.defaultVars (params : Option Value) : Value :=
  match params with
  | some (.obj fields) => .obj fields
  | _ => .obj []

structure Script (κ : Kinds) where
  name : String
  commands : List (Command κ)
  stops : StopIndex
  initVars : Option Value → Value := Script.defaultVars
  info : Value := .null
  indexed : StopIndex.fill {} 0 commands = .ok stops

namespace Script

def build (name : String) (commands : List (Command κ)) (initVars : Option Value → Value) (info : Value) :
    Except ScriptError (Script κ) :=
  match h : StopIndex.fill {} 0 commands with
  | .error key => .error (.duplicateKey name key)
  | .ok stops => .ok { name, commands, stops, initVars, info, indexed := h }

def empty : Script κ := { name := "", commands := [], stops := {}, indexed := rfl }

instance : Inhabited (Script κ) := ⟨empty⟩

def stopIndex? (s : Script κ) (key : String) : Option Nat := s.stops.get? key

def callees (s : Script κ) : List ScriptId := s.commands.filterMap Command.callee?

end Script

end Dialogue
