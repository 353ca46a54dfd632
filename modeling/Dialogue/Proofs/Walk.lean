import Dialogue.Proofs.Turn

/-! The walk through a dialogue without interruption. Every open script keeps its place, a question takes the
next input at once, and a script that ends goes back to the place of its call, with no key to look up. -/

namespace Dialogue

variable {κ : Kinds}

structure Position where
  script : ScriptId
  vars : Value
  index : Nat

namespace Position

def command? (book : Playbook κ) (p : Position) : Option (Command κ) := (book.script p.script).commands[p.index]?

def atRest (book : Playbook κ) (p : Position) : Frame :=
  ⟨p.script, p.vars, (p.command? book).bind Command.key?⟩

variable (env : Env κ)

def context (p : Position) : Context := ⟨env.thread, p.vars, (env.book.script p.script).info⟩

def jump (p : Position) (offset : Int64) : Except RunError Position :=
  (env.book.landing p.script p.index offset).map fun index => { p with index }

def take (p : Position) (store : Option (Update κ)) (value : Option Value) : Except RunError Position :=
  match store with
  | none => .ok { p with index := p.index + 1 }
  | some hook =>
    (hook.answer env (p.context env, value)).map fun vars => { p with vars, index := p.index + 1 }

end Position

structure Walk (κ : Kinds) where
  -- A caller is the place of its call, with what takes the value that comes back.
  here : Position
  callers : List (Position × Option (Update κ)) := []
  said : Array Value := #[]
  queued : List PendingYield := []

inductive Halt (κ : Kinds)
  | asked (store : Option (Update κ))
  | ended (value : Option Value)
  | failed (error : RunError)

namespace Walk

def start (book : Playbook κ) (i : ScriptId) (params : Option Value) : Walk κ :=
  { here := ⟨i, (book.script i).initVars params, 0⟩ }

def stack (book : Playbook κ) (w : Walk κ) : CallStack :=
  ⟨w.here.atRest book, w.callers.map fun c => c.1.atRest book⟩

def attempt {α : Type} (r : Except RunError α) : Except (Halt κ) α := r.mapError .failed

variable (env : Env κ)

def leave (w : Walk κ) (value : Option Value) : Except (Halt κ) (Walk κ) :=
  match w.callers with
  | [] => .error (.ended value)
  | (caller, store) :: callers => do
    return { w with here := ← attempt (caller.take env store value), callers }

def step (w : Walk κ) : Except (Halt κ) (Walk κ) :=
  match w.here.command? env.book with
  | none => w.leave env none
  | some (.say content) => do
    let value ← attempt (content.answer env (w.here.context env))
    return { w with here := ← attempt (w.here.jump env 1), said := w.said.push value }
  | some (.ask _ store) => .error (.asked store)
  | some (.call _ callee entry params store) => do
    let given ← attempt (Hook.answer? env params (w.here.context env))
    let index ← attempt (env.book.start callee entry)
    return { w with
      here := ⟨callee, (env.book.script callee).initVars given, index⟩
      callers := (w.here, store) :: w.callers }
  | some (.jump offset) => do
    return { w with here := ← attempt (w.here.jump env offset) }
  | some (.branch condition negated offset) => do
    let holds ← attempt (condition.answer env (w.here.context env))
    return { w with here := ← attempt (w.here.jump env (if holds != negated then offset else 1)) }
  | some (.finish value) => do
    w.leave env (← attempt (Hook.answer? env value (w.here.context env)))
  | some (.effect store emit) => do
    let vars ← attempt (Hook.answer? env store (w.here.context env))
    let here := { w.here with vars := vars.getD w.here.vars }
    let queued ← attempt (Hook.queued env emit (here.context env))
    return { w with here := ← attempt (here.jump env 1), queued := w.queued ++ queued }

def stretch : Nat → Walk κ → Option (Walk κ × Halt κ)
  | 0, _ => none
  | fuel + 1, w =>
    match w.step env with
    | .ok w => stretch fuel w
    | .error halt => some (w, halt)

def tour (fuel : Nat) : List (Option Value) → Walk κ → List (Option (Walk κ × Halt κ))
  | inputs, w =>
    match stretch env fuel w with
    | none => [none]
    | some (w, .asked store) => some (w, .asked store) ::
      match inputs with
      | [] => []
      | input :: inputs =>
        match w.here.take env store input with
        | .error e => [some (w, .failed e)]
        | .ok here => tour fuel inputs { here, callers := w.callers }
    | some (w, halt) => [some (w, halt)]

def report (book : Playbook κ) : Walk κ × Halt κ → Except RunError Outcome
  | (_, .failed e) => .error e
  | (w, .asked _) => (PendingYield.fold w.queued).map fun yielded =>
      ⟨false, none, yielded, w.said, some (w.stack book)⟩
  | (w, .ended value) => (PendingYield.fold w.queued).map fun yielded =>
      ⟨true, value, yielded, w.said, none⟩

def folds : Option (Walk κ × Halt κ) → Bool
  | none => true
  | some (_, .failed _) => true
  | some (w, .asked _) => (PendingYield.fold w.queued).isOk
  | some (w, .ended _) => (PendingYield.fold w.queued).isOk

end Walk

end Dialogue
