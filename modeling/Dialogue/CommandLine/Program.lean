import Dialogue.Coffee.Turn
import Dialogue.CommandLine.Arguments

/-! What the command line does: one task on the files of a folder. -/

namespace Dialogue.CommandLine

inductive Result
  | done (output : String)
  | usage
  | failed (failure : Failure)

def Result.exitCode : Result → Nat
  | done _ => 0
  | failed _ => 1
  | usage => 2

def Result.output : Result → String
  | done output => output
  | _ => ""

def Result.message? : Result → Option String
  | failed failure => some failure.message
  | _ => none

def joinLines (lines : List String) : String := String.join (lines.map (· ++ "\n"))

def frameLine (depth : Nat) (s : Snapshot) : String :=
  let stop := s.stopAt.getD "-"
  let vars := s.vars.compact
  s!"  [{depth}] {s.script} stopped at {stop} vars={vars}"

def overview (c : Conversation) : List String :=
  s!"Thread: {c.thread.platform}/{c.thread.uid}" ::
    (List.range c.stack.length).zipWith frameLine c.stack

def perform (task : Task) (settings : Settings) : Coffee.FileAct String := do
  match task with
  | .run state input user reset => return joinLines (← Coffee.turn state settings.maxSteps input user reset)
  | .inspect state =>
    match ← Coffee.load state with
    | none => return s!"No saved conversation at {state}\n"
    | some conversation => return joinLines (overview conversation)
  | .showSettings => MonadExcept.ofExcept (settings.text.mapError Failure.settings)

def Arguments.paths (args : Arguments) : List String :=
  Settings.paths args.settingsPath ++
    match args.task with
    | .run state _ _ _ => [state]
    | .inspect state => [state]
    | .showSettings => []

def run (env : Environment) (args : List String) (disk : Disk) : Result × Disk :=
  match Arguments.parse? args with
  | none => (.usage, disk)
  | some args =>
    match Settings.load disk env args.settingsPath args.maxSteps with
    | .error e => (.failed (.settings e), disk)
    | .ok settings =>
      match perform args.task settings disk with
      | .ok output disk => (.done output, disk)
      | .error e disk => (.failed e, disk)

end Dialogue.CommandLine
