import Dialogue.Playbook

/-! Scripts by name. Registering a script registers what it calls. -/

namespace Dialogue

inductive RegistryError
  | unknownScript (name : String)
  | duplicateScript (name : String)
  | emptyCallStack
deriving DecidableEq, Repr

def RegistryError.message : RegistryError → String
  | unknownScript name => s!"script '{name}' is not registered"
  | duplicateScript name => s!"script '{name}' is already registered"
  | emptyCallStack => "call stack must contain at least one frame"

structure Registry where
  entries : List (String × ScriptId) := []
deriving Inhabited

namespace Registry

variable {κ : Kinds}

def find? (r : Registry) (name : String) : Option ScriptId := r.entries.lookup name

def get (r : Registry) (name : String) : Except RegistryError ScriptId :=
  match r.find? name with
  | some i => .ok i
  | none => .error (.unknownScript name)

def size (r : Registry) : Nat := r.entries.length

def bind (r : Registry) (name : String) (i : ScriptId) : Registry := ⟨(name, i) :: r.entries⟩

def enrol (book : Playbook κ) : List ScriptId → Registry → Registry × Option RegistryError
  -- What was bound before a failure stays bound.
  | [], r => (r, none)
  | i :: pending, r =>
    match r.find? (book.script i).name with
    | some j =>
      if j = i then enrol book pending r else (r, some (.duplicateScript (book.script i).name))
    | none =>
      enrol book ((book.script i).callees.reverse ++ pending) (r.bind (book.script i).name i)
termination_by pending => book.load pending
decreasing_by
  · simp only [Playbook.load, book.weight_eq i]
    omega
  · simp only [Playbook.load, book.load_append, book.load_reverse, book.weight_eq i]
    omega

def register (book : Playbook κ) (r : Registry) (i : ScriptId) : Registry × Option RegistryError :=
  enrol book [i] r

end Registry

end Dialogue
