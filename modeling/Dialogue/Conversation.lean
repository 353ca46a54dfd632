import Dialogue.CallStack
import Dialogue.Json.Printer
import Dialogue.Json.Reader

/-! Stored conversations: a thread and the snapshots of its call stack, as JSON. -/

namespace Dialogue

namespace Thread

def toValue (t : Thread) : Value := .obj [("platform", .str t.platform), ("uid", .str t.uid)]

structure Draft where
  platform : Option String := none
  uid : Option String := none

def fields : List (Reader.Field Draft) := [
  .of "platform" Reader.string fun x d => { d with platform := x },
  .of "uid" Reader.string fun x d => { d with uid := x }]

def Draft.finish? (d : Draft) : Option Thread := do return ⟨← d.platform, ← d.uid⟩

def read : Nat → Reader Thread
  | 0 => fun _ => none
  | _ + 1 => Reader.record fields {} Draft.finish?

end Thread

namespace Snapshot

def toValue (s : Snapshot) : Value :=
  .obj ([("script", .str s.script), ("vars", s.vars)] ++
    match s.stopAt with
    | none => []
    | some key => [("stop_at", .str key)])

structure Draft where
  script : Option String := none
  vars : Option Value := none
  stopAt : Option String := none

def fields (depth : Nat) : List (Reader.Field Draft) := [
  .of "script" Reader.string fun x d => { d with script := x },
  .of "vars" (Reader.value depth) fun x d => { d with vars := x },
  .of "stop_at" (Reader.optional Reader.string) fun x d => { d with stopAt := x }]

def Draft.finish? (d : Draft) : Option Snapshot := do return ⟨← d.script, ← d.vars, d.stopAt⟩

def read : Nat → Reader Snapshot
  | 0 => fun _ => none
  | depth + 1 => Reader.record (fields depth) {} Draft.finish?

def readAll : Nat → Reader (List Snapshot)
  | 0 => fun _ => none
  | depth + 1 => fun s =>
    match Reader.skipBlanks s with
    | '[' :: rest => Reader.list (read depth) rest
    | _ => none

def listValue (snapshots : List Snapshot) : Value := .arr (snapshots.map toValue)

def parseAll? (s : String) : Option (List Snapshot) := Reader.whole (readAll Reader.nesting) s

end Snapshot

structure Conversation where
  thread : Thread
  stack : List Snapshot
deriving Inhabited

namespace Conversation

def toValue (c : Conversation) : Value :=
  .obj [("thread", c.thread.toValue), ("call_stack", Snapshot.listValue c.stack)]

structure Draft where
  thread : Option Thread := none
  stack : Option (List Snapshot) := none

def fields (depth : Nat) : List (Reader.Field Draft) := [
  .of "thread" (Thread.read depth) fun x d => { d with thread := x },
  .of "call_stack" (Snapshot.readAll depth) fun x d => { d with stack := x }]

def Draft.finish? (d : Draft) : Option Conversation := do return ⟨← d.thread, ← d.stack⟩

def read : Nat → Reader Conversation
  | 0 => fun _ => none
  | depth + 1 => Reader.record (fields depth) {} Draft.finish?

def text (c : Conversation) : String := c.toValue.pretty

def parse? (s : String) : Option Conversation := Reader.whole (read Reader.nesting) s

end Conversation

end Dialogue
