import Dialogue.Service

/-! Hooks: the places where a script computes. A hook is resolved against the services at hand each time
it is used, and both its resolution and its call are noted in a journal. -/

namespace Dialogue

structure Routine (α β : Type) where
  label : Option String := none
  run : α → Except String β

inductive Hook (κ : Kinds) (α β : Type)
  | direct (routine : Routine α β)
  | bound (label : Option String) (needs : List String)
      (assemble : Dependencies κ → Except ServiceError (α → Except String β))

inductive Event
  | resolved (label : Option String)
  | called (label : Option String)
deriving DecidableEq, Repr

def Event.text? : Event → Option String
  | resolved label => label.map fun l => "resolve:" ++ l
  | called label => label.map fun l => "call:" ++ l

namespace Hook

variable {κ : Kinds} {α β : Type}

def resolve (hook : Hook κ α β) (scope : Scope κ) (key : String) :
    List Event × Except ServiceError (Routine α β) :=
  match hook with
  | direct routine => ([], .ok routine)
  | bound label needs assemble =>
    match scope.findAll key needs with
    | .error e => ([], .error e)
    | .ok services =>
      ([.resolved label], (assemble ⟨needs, services, key⟩).map fun run => ⟨label, run⟩)

end Hook

end Dialogue
