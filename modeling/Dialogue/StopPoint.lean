import Dialogue.RunError
import Dialogue.Script

/-! Stop points by key: where a run waits for an input or for a called script. -/

namespace Dialogue.Script

variable {κ : Kinds}

def stopIndex (s : Script κ) (key : String) : Except RunError Nat :=
  match s.stopIndex? key with
  | some i => .ok i
  | none => .error (.keyNotFound s.name key)

-- The place of a question and what it does with the input.
def asking (s : Script κ) (key : String) : Except RunError (Nat × Option (Update κ)) :=
  match s.stopIndex key with
  | .error e => .error e
  | .ok i =>
    match s.commands[i]? with
    | some (.ask _ store) => .ok (i, store)
    | _ => .error (.notAsking s.name key)

-- The place of a call and what it does with the value that is returned.
def calling (s : Script κ) (key : String) : Except RunError (Nat × Option (Update κ)) :=
  match s.stopIndex key with
  | .error e => .error e
  | .ok i =>
    match s.commands[i]? with
    | some (.call _ _ _ _ store) => .ok (i, store)
    | _ => .error (.notCalling s.name key)

end Dialogue.Script
