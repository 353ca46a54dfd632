import Dialogue.Settings

/-! The arguments of the command line: options, a task, and options of the task. -/

namespace Dialogue.CommandLine

inductive Task
  | run (state : String) (input : Option String) (user : String) (reset : Bool)
  | inspect (state : String)
  | showSettings
deriving DecidableEq, Repr

structure Arguments where
  settingsPath : Option String
  maxSteps : Option Nat
  task : Task
deriving DecidableEq, Repr

inductive Key
  | settingsPath
  | maxSteps
  | state
  | input
  | user
deriving DecidableEq, Repr

structure Level where
  keys : List Key
  reset : Bool

def shared : List Key := [.settingsPath, .maxSteps]

def Level.top : Level := ⟨shared, false⟩

def Key.long : Key → String
  | settingsPath => "config"
  | maxSteps => "max-steps"
  | state => "state"
  | input => "input"
  | user => "user"

def Key.short? : Key → Option Char
  | settingsPath => none
  | maxSteps => none
  | state => some 's'
  | input => some 'i'
  | user => some 'u'

structure Options where
  values : List (Key × String) := []
  reset : Bool := false

namespace Options

def get? (o : Options) (key : Key) : Option String := o.values.lookup key

def accepts (key : Key) (text : String) : Bool :=
  match key with
  | .maxSteps => (Settings.decimal? text).isSome
  | .state => text ≠ ""
  | _ => true

def add? (o : Options) (key : Key) (text : String) : Option Options :=
  if (o.get? key).isSome ∨ ¬ accepts key text then none
  else some { o with values := o.values ++ [(key, text)] }

end Options

inductive Form
  | word
  | separator
  | long (name : String) (value : Option String)
  | short (letter : Char) (value : Option String)
deriving DecidableEq

def Form.of (arg : String) : Form :=
  match arg.toList with
  | ['-', '-'] => separator
  | '-' :: '-' :: s =>
    let name := String.ofList (s.takeWhile (· ≠ '='))
    match s.dropWhile (· ≠ '=') with
    | [] => long name none
    | _ :: value => long name (some (String.ofList value))
  | '-' :: c :: s =>
    match s with
    | [] => short c none
    | '=' :: value => short c (some (String.ofList value))
    | value => short c (some (String.ofList value))
  | _ => word

def Level.find? (level : Level) : Form → Option (Key × Option String)
  | .long name value => (level.keys.find? fun key => key.long = name).map (·, value)
  | .short letter value => (level.keys.find? fun key => key.short? = some letter).map (·, value)
  | _ => none

def options (level : Level) (o : Options) : List String → Option (Options × List String)
  -- A value of its own starts with no dash, unless it is only that. Nothing may stand after a separator.
  | [] => some (o, [])
  | arg :: rest =>
    match Form.of arg with
    | .word => some (o, arg :: rest)
    | .separator => if rest = [] then some (o, []) else none
    | form =>
      if form = .long "reset" none ∧ level.reset then
        if o.reset then none else options level { o with reset := true } rest
      else
        match level.find? form with
        | none => none
        | some (key, some text) => (o.add? key text).bind fun o => options level o rest
        | some (key, none) =>
          match rest with
          | [] => none
          | text :: rest =>
            if Form.of text = .word then (o.add? key text).bind fun o => options level o rest
            else none

def task? (name : String) : Option (Level × (Options → Task)) :=
  match name with
  | "run" =>
    some (⟨shared ++ [.state, .input, .user], true⟩, fun o =>
      .run ((o.get? .state).getD "parley-state.json") (o.get? .input)
        ((o.get? .user).getD "cli-user") o.reset)
  | "inspect" =>
    some (⟨shared ++ [.state], false⟩, fun o =>
      .inspect ((o.get? .state).getD "parley-state.json"))
  | "config" => some (⟨shared, false⟩, fun _ => .showSettings)
  | _ => none

def Arguments.parse? (args : List String) : Option Arguments := do
  -- A shared option counts where it is given last.
  let (before, rest) ← options .top {} args
  match rest with
  | [] => none
  | name :: rest =>
    let (level, task) ← task? name
    let (after, extra) ← options level {} rest
    guard (extra = [])
    let last (key : Key) : Option String := (after.get? key).or (before.get? key)
    return ⟨last .settingsPath, (last .maxSteps).bind Settings.decimal?, task after⟩

end Dialogue.CommandLine
