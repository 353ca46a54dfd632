import Dialogue.Disk
import Dialogue.Failure
import Dialogue.Settings.EnvironmentFile
import Dialogue.Toml.Reader

/-! Settings from a file, from the environment and from the caller, in this order; the later ones win. -/

namespace Dialogue

structure Settings where
  maxSteps : Option Nat := none
deriving DecidableEq, Repr

namespace Settings

inductive Format
  | toml
  | json
deriving DecidableEq

def Format.ofPath? (path : String) : Option Format :=
  let name := (path.toList.reverse.takeWhile (· ≠ '/')).reverse
  let ending := (name.reverse.takeWhile (· ≠ '.')).reverse
  if name.length ≤ ending.length + 1 then none
  else if ending = "toml".toList then some .toml
  else if ending = "json".toList then some .json
  else none

def Format.fields? (format : Format) (text : String) : Option Fields :=
  let v := match format with
    | toml => Toml.parse? text
    | json => Value.parse? text
  match v with
  | some (.obj fields) => some fields
  | _ => none

def stem? (path : String) : Option String :=
  let names := (path.toList.splitOn '/').map String.ofList
  let kept := (names.reverse.dropWhile fun name => name = "" ∨ name = ".").reverse
  match kept.getLast? with
  | none => none
  | some name => if name = ".." then none else some ("/".intercalate kept)

def candidates (path : String) : List (Format × String) :=
  match stem? path with
  | none => []
  | some stem => [(.toml, stem ++ ".toml"), (.json, stem ++ ".json")]

def source? (disk : Disk) (path : String) : Option (Format × String) :=
  -- The file at the path, or else the first one whose name is longer by the name of a format.
  match disk.read? path with
  | some text => (Format.ofPath? path).map (·, text)
  | none => (candidates path).findSome? fun (format, path) => (disk.read? path).map (format, ·)

def usualPath : String := "parley"

def environmentPath : String := ".env"

def paths (path : Option String) : List String :=
  let path := path.getD usualPath
  environmentPath :: path :: (candidates path).map Prod.snd

def fileFields (disk : Disk) (path : Option String) : Except SettingsError Fields :=
  let source := source? disk (path.getD usualPath)
  match source, path with
  | none, none => .ok []
  | none, some _ => .error .load
  | some (format, text), _ =>
    match format.fields? text with
    | none => .error .load
    | some fields => .ok fields

def decimal? (s : String) : Option Nat :=
  let digits := match s.toList with
    | '+' :: rest => rest
    | s => s
  if digits = [] ∨ ¬ digits.all Numeral.isDigit then none
  else if Numeral.ofDigits digits < Nat.pow 2 64 then some (Numeral.ofDigits digits)
  else none

def ofDouble (x : Double) : Nat := min x.roundToNat (Nat.pow 2 64 - 1)

def count? : Value → Option Nat
  -- Whole numbers that do not fit 63 bits go through binary ones.
  | .int n =>
    if n < 0 then none else if n < Int.pow 2 63 then some n.toNat else some (ofDouble (.ofNat n.toNat))
  | .bool b => some b.toNat
  | .float x => some (ofDouble x)
  | .str s =>
    let word := lowercase s
    if word ∈ ["true", "on", "yes"] then some 1
    else if word ∈ ["false", "off", "no"] then some 0
    else decimal? s
  | _ => none

def withLimit? : Option Value → Option Settings
  | none => some {}
  | some .null => some {}
  | some v => (count? v).map fun n => ⟨some n⟩

def ofValue? (v : Value) : Option Settings :=
  -- A list holds the settings in their order, and what comes after them does not count.
  match v.get? "executor" with
  | none => some {}
  | some (.obj fields) => withLimit? (fields.lookup "max_steps")
  | some (.arr items) => withLimit? items.head?
  | some _ => none

def load (disk : Disk) (env : Environment) (path : Option String) (limit : Option Nat) :
    Except SettingsError Settings := do
  let env := match disk.read? environmentPath with
    | none => env
    | some text => EnvironmentFile.supply env text
  let fields ← fileFields disk path
  match ofValue? (layer (layer (.obj []) fields) env.settings) with
  | none => throw .invalid
  | some settings => return ⟨limit.or settings.maxSteps⟩

def text (settings : Settings) : Except SettingsError String :=
  match settings.maxSteps with
  | none => .ok "[executor]\n"
  | some n => if n < Nat.pow 2 63 then .ok s!"[executor]\nmax_steps = {n}\n" else .error .render

end Settings

end Dialogue
