import Dialogue.Registry

/-! Call stacks: what is left of a run that waits for an input, and how it is stored. -/

namespace Dialogue

structure Frame where
  script : ScriptId
  vars : Value
  stopAt : Option String
deriving Inhabited

structure CallStack where
  innermost : Frame
  callers : List Frame
deriving Inhabited

structure Snapshot where
  script : String
  vars : Value
  stopAt : Option String
deriving Inhabited

namespace CallStack

variable {κ : Kinds}

def root (book : Playbook κ) (i : ScriptId) (params : Option Value) : CallStack :=
  ⟨⟨i, (book.script i).initVars params, none⟩, []⟩

def frames (stack : CallStack) : List Frame := stack.innermost :: stack.callers

def ofFrames? : List Frame → Option CallStack
  | [] => none
  | f :: callers => some ⟨f, callers⟩

def depth (stack : CallStack) : Nat := stack.frames.length

def snapshots (book : Playbook κ) (stack : CallStack) : List Snapshot :=
  stack.frames.reverse.map fun f => ⟨(book.script f.script).name, f.vars, f.stopAt⟩

def framesOf (r : Registry) : List Snapshot → Except RegistryError (List Frame)
  | [] => .ok []
  | s :: rest =>
    match r.get s.script with
    | .error e => .error e
    | .ok i =>
      match framesOf r rest with
      | .error e => .error e
      | .ok frames => .ok (⟨i, s.vars, s.stopAt⟩ :: frames)

def restore (r : Registry) (snapshots : List Snapshot) : Except RegistryError CallStack :=
  match framesOf r snapshots with
  | .error e => .error e
  | .ok frames =>
    match ofFrames? frames.reverse with
    | none => .error .emptyCallStack
    | some stack => .ok stack

end CallStack

end Dialogue
