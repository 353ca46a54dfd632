import Dialogue.Coffee
import Dialogue.Conversation
import Dialogue.Disk
import Dialogue.Failure
import Dialogue.Turn

/-! Turns of the coffee bar, with the conversation kept in a file between them. -/

namespace Dialogue.Coffee

abbrev FileAct := EStateM Failure Disk

def ofInput (s : String) : Value := (Value.parse? s).getD (.str s)

def registry : Registry := (Registry.register book {} root).1

def env (limit : Option Nat) (thread : Thread) : Env .common := ⟨book, scope defaultMenu, thread, limit⟩

structure Reply where
  lines : List String
  conversation : Option Conversation

def reply (thread : Thread) (outcome : Outcome) : Reply :=
  let lines := outcome.contents.toList.map Value.plain
  match outcome.stack with
  | some stack => ⟨lines, some ⟨thread, stack.snapshots book⟩⟩
  | none =>
    let ending := outcome.returned.toList.map fun v =>
      let text := v.compact
      s!"(finished: {text})"
    ⟨lines ++ ending, none⟩

def play (limit : Option Nat) (thread : Thread) (stack : CallStack) (entry : Entry) :
    Except Failure Reply :=
  match Turn.play (env limit thread) Turn.ample stack entry with
  | none => .error .endless
  | some (.error e _) => .error (.run e)
  | some (.ok outcome _) => .ok (reply thread outcome)

def converse (limit : Option Nat) (saved : Option Conversation) (input : Option String)
    (user : String) : Except Failure Reply :=
  match saved with
  | none => play limit ⟨"cli", user⟩ (.root book root none) .fresh
  | some conversation =>
    match CallStack.restore registry conversation.stack with
    | .error e => .error (.registry e)
    | .ok stack => play limit conversation.thread stack (.resume (input.map ofInput))

def load (path : String) : FileAct (Option Conversation) := do
  match (← get).look path with
  | none => return none
  | some .folder => throw (.readState path)
  | some (.file text) =>
    match Conversation.parse? text with
    | none => throw (.parseState path)
    | some conversation => return some conversation

def save (path : String) (conversation : Conversation) : FileAct Unit := do
  match (← get).write? path conversation.text with
  | none => throw (.writeState path)
  | some disk => set disk

def discard (path : String) : FileAct Unit := do
  match (← get).look path with
  | none => return
  | some _ =>
    match (← get).remove? path with
    | none => throw (.remove path)
    | some disk => set disk

-- A conversation that goes on is saved, the file of one that has ended is removed.
def keep (path : String) : Option Conversation → FileAct Unit
  | some conversation => save path conversation
  | none => discard path

def turn (path : String) (limit : Option Nat) (input : Option String) (user : String) (reset : Bool) :
    FileAct (List String) := do
  if reset then discard path
  let saved ← load path
  let reply ← MonadExcept.ofExcept (converse limit saved input user)
  keep path reply.conversation
  return reply.lines

end Dialogue.Coffee
