import Dialogue.Machine

/-! A turn: one run of a call stack, from its start or from an input, until it waits or ends. -/

namespace Dialogue

inductive Entry
  | fresh
  | resume (input : Option Value)

structure Outcome where
  finished : Bool
  returned : Option Value
  yielded : Option Value
  contents : Array Value
  stack : Option CallStack

namespace Turn

variable {κ : Kinds}

def unstopped? (book : Playbook κ) (level : Nat) : List Frame → Option Malformation
  | [] => none
  | f :: rest =>
    match f.stopAt with
    | none => some (.noStopPoint level (book.script f.script).name)
    | some _ => unstopped? book (level + 1) rest

def malformation? (book : Playbook κ) (stack : CallStack) : Entry → Option Malformation
  | .fresh =>
    match stack.callers, stack.innermost.stopAt with
    | [], none => none
    | [], some key => some (.freshAtKey key)
    | _, _ => some (.notFresh stack.depth)
  | .resume _ => unstopped? book 0 stack.frames.reverse

def activate (f : Frame) : Activation := { script := f.script, vars := f.vars, stopAt := f.stopAt }

variable (env : Env κ)

def enter (stack : CallStack) (entry : Entry) : Act Unit := do
  match malformation? env.book stack entry with
  | some reason => throw (.malformed reason)
  | none =>
    modify fun m => { m with frames := stack.frames.map activate }
    match entry with
    | .fresh => return
    | .resume input =>
      match (env.book.script stack.innermost.script).asking (stack.innermost.stopAt.getD "") with
      | .error e => throw e
      | .ok (index, store) => Machine.answer env index store input

def outcome (status : Status) (yielded : Option Value) (m : Machine) : Outcome :=
  match status with
  | .ended returned => ⟨true, returned, yielded, m.contents, none⟩
  | _ => ⟨false, none, yielded, m.contents, CallStack.ofFrames? m.atRest⟩

def play (fuel : Nat) (stack : CallStack) (entry : Entry) :
    Option (EStateM.Result RunError Machine Outcome) :=
  match enter env stack entry {} with
  | .error e m => some (.error e m)
  | .ok _ m =>
    match Machine.run env fuel m with
    | none => none
    | some (.error e m) => some (.error e m)
    | some (.ok status m) =>
      match Machine.collect m.yields.toList.reverse none m with
      | .error e m => some (.error e m)
      | .ok yielded m => some (.ok (outcome status yielded m) m)

def ample : Nat := Nat.pow 2 62

end Turn

end Dialogue
