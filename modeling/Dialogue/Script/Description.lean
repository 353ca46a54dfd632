import Dialogue.Playbook
import Dialogue.Text.Quoted

/-! Descriptions of scripts and commands for people who write scripts. -/

namespace Dialogue

variable {κ : Kinds}

open Text

def listed (items : List String) : String := ", ".intercalate items

def Hook.describe {α β : Type} : Hook κ α β → String
  | direct _ => "Callback::Direct"
  | bound _ needs _ =>
    let names := listed (needs.map quoted)
    s!"Callback::Injected([{names}])"

def Hook.describe? {α β : Type} : Option (Hook κ α β) → String
  | none => "None"
  | some hook =>
    let inner := hook.describe
    s!"Some({inner})"

def form (name : String) (fields : List (String × String)) : String :=
  name ++ " \x7b " ++ listed (fields.map fun (field, text) => s!"{field}: {text}") ++ " \x7d"

def Script.describe (s : Script κ) : String :=
  let points := listed (s.stops.places.map fun (key, i) =>
    let key := quoted key
    s!"{key}: {i}")
  form "Script" [("name", quoted s.name), ("commands", toString s.commands.length),
    ("stop_points", "\x7b" ++ points ++ "\x7d")]

def Command.describe (book : Playbook κ) : Command κ → String
  | say content => form "Content" [("get_content", content.describe)]
  | ask key store => form "Prompt" [("key", quoted key), ("set_vars", Hook.describe? store)]
  | call key callee entry params store =>
    let entry := match entry with
      | none => "None"
      | some key => "Some(" ++ quoted key ++ ")"
    form "Call" [("key", quoted key), ("script", (book.script callee).describe), ("goto", entry),
      ("with_params", Hook.describe? params), ("set_vars", Hook.describe? store)]
  | jump offset => form "Jump" [("offset", toString offset)]
  | branch condition negated offset =>
    form "JumpCond" [("condition", condition.describe), ("is_not", toString negated),
      ("offset", toString offset)]
  | finish value => form "Return" [("get_value", Hook.describe? value)]
  | effect store emit =>
    form "Effect" [("set_vars", Hook.describe? store), ("yield_value", Hook.describe? emit)]

end Dialogue
