import Dialogue.CallStack
import Dialogue.StopPoint

/-! The machine that runs scripts, one command of the innermost frame at a time. -/

namespace Dialogue

variable {κ : Kinds}

structure Activation where
  -- `index` is the next command, `stopAt` the key of the call or question where the frame waits.
  script : ScriptId
  vars : Value
  index : Nat := 0
  stopAt : Option String := none
deriving Inhabited

structure PendingYield where
  routine : Routine (Context × Option Value) Value
  context : Context

structure Machine where
  -- The frames stand innermost first.
  frames : List Activation := []
  contents : Array Value := #[]
  yields : Array PendingYield := #[]
  steps : Nat := 0
  journal : Array Event := #[]
deriving Inhabited

structure Env (κ : Kinds) where
  book : Playbook κ
  scope : Scope κ
  thread : Thread
  limit : Option Nat

inductive Status
  | running
  | waiting
  | ended (value : Option Value)

abbrev Act := EStateM RunError Machine

namespace Machine

variable {α β : Type}

def innermost : Act Activation := fun m =>
  match m.frames with
  | [] => .error (.malformed .noFrame) m
  | f :: _ => .ok f m

def update (change : Activation → Activation) : Act Unit := fun m =>
  match m.frames with
  | [] => .error (.malformed .noFrame) m
  | f :: callers => .ok () { m with frames := change f :: callers }

def push (f : Activation) : Act Unit := modify fun m => { m with frames := f :: m.frames }

def note (events : List Event) : Act Unit := modify fun m => { m with journal := m.journal ++ events }

variable (env : Env κ)

def contextOf (f : Activation) : Context := ⟨env.thread, f.vars, (env.book.script f.script).info⟩

def context : Act Context := return contextOf env (← innermost)

def resolve (hook : Hook κ α β) : Act (Routine α β) := do
  let (events, result) := hook.resolve env.scope env.thread.uid
  note events
  match result with
  | .ok routine => return routine
  | .error e => throw (.service e)

def invoke (routine : Routine α β) (x : α) : Act β := do
  note [.called routine.label]
  match routine.run x with
  | .ok y => return y
  | .error message => throw (.hook message)

def evaluate (hook : Hook κ Context β) : Act β := do
  let routine ← resolve env hook
  invoke routine (← context env)

def evaluate? : Option (Hook κ Context β) → Act (Option β)
  | none => return none
  | some hook => return some (← evaluate env hook)

def absorb (store : Option (Update κ)) (input : Option Value) : Act Unit := do
  match store with
  | none => return
  | some hook =>
    let routine ← resolve env hook
    let vars ← invoke routine (← context env, input)
    update fun f => { f with vars }

def advance (offset : Int64) : Act Status := do
  let f ← innermost
  let target := Int64.ofNat f.index + offset
  if target < 0 then throw (.jumpOutOfRange (env.book.script f.script).name f.index offset)
  -- A place past the last command is allowed and ends the frame with the next step.
  update fun f => { f with index := target.toNatClampNeg }
  return .running

def leave (index : Nat) : Act Unit := update fun f => { f with index := index + 1, stopAt := none }

def say (content : Query κ) : Act Status := do
  let value ← evaluate env content
  modify fun m => { m with contents := m.contents.push value }
  advance env 1

def ask (key : String) : Act Status := do
  update fun f => { f with stopAt := some key }
  return .waiting

def answer (index : Nat) (store : Option (Update κ)) (input : Option Value) : Act Unit := do
  absorb env store input
  leave index

def call (key : String) (callee : ScriptId) (entry : Option String) (params : Option (Query κ)) :
    Act Status := do
  let given ← evaluate? env params
  let script := env.book.script callee
  let vars := script.initVars given
  let index ← match entry with
    | none => pure 0
    | some key =>
      match script.stopIndex key with
      | .ok i => pure i
      | .error e => throw e
  update fun f => { f with stopAt := some key }
  push { script := callee, vars, index }
  return .running

def branch (condition : Condition κ) (negated : Bool) (offset : Int64) : Act Status := do
  let holds ← evaluate env condition
  advance env (if holds != negated then offset else 1)

def complete (value : Option Value) : Act Status := do
  match (← get).frames with
  | [] => return .ended value
  | [_] =>
    modify fun m => { m with frames := [] }
    return .ended value
  | _ :: caller :: callers =>
    modify fun m => { m with frames := caller :: callers }
    let script := env.book.script caller.script
    match caller.stopAt with
    | none => throw (.malformed (.noCall script.name))
    | some key =>
      match script.calling key with
      | .error e => throw e
      | .ok (index, store) =>
        absorb env store value
        leave index
        return .running

def finish (value : Option (Query κ)) : Act Status := do
  complete env (← evaluate? env value)

def effect (store : Option (Query κ)) (emit : Option (Update κ)) : Act Status := do
  match ← evaluate? env store with
  | none => pure ()
  | some vars => update fun f => { f with vars }
  match emit with
  | none => pure ()
  | some hook =>
    let routine ← resolve env hook
    let context ← context env
    modify fun m => { m with yields := m.yields.push ⟨routine, context⟩ }
  advance env 1

def dispatch : Command κ → Act Status
  | .say content => say env content
  | .ask key _ => ask key
  | .call key callee entry params _ => call env key callee entry params
  | .jump offset => advance env offset
  | .branch condition negated offset => branch env condition negated offset
  | .finish value => finish env value
  | .effect store emit => effect env store emit

def count : Act Unit := fun m =>
  match env.limit with
  | none => .ok () { m with steps := m.steps + 1 }
  | some limit =>
    if limit ≤ m.steps then .error (.stepLimit limit) m
    else .ok () { m with steps := m.steps + 1 }

def next? (m : Machine) : Option (Command κ) :=
  match m.frames with
  | [] => none
  | f :: _ => (env.book.script f.script).commands[f.index]?

def step : Act Status := do
  count env
  match next? env (← get) with
  | some command => dispatch env command
  | none => complete env none

def run : Nat → Machine → Option (EStateM.Result RunError Machine Status)
  | 0, _ => none
  | fuel + 1, m =>
    match step env m with
    | .ok .running m => run fuel m
    | result => some result

def collect : List PendingYield → Option Value → Act (Option Value)
  | [], acc => return acc
  | y :: rest, acc => do collect rest (some (← invoke y.routine (y.context, acc)))

def atRest (m : Machine) : List Frame := m.frames.map fun f => ⟨f.script, f.vars, f.stopAt⟩

end Machine

end Dialogue
