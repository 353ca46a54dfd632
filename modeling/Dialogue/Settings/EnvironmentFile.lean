import Dialogue.Json.Reader
import Dialogue.Settings.Environment
import Dialogue.Text.Alphanumeric
import Dialogue.Text.Blank

/-! Files with variables, one `NAME=value` a line. A quoted value may go on over several lines. -/

namespace Dialogue.EnvironmentFile

open Text (isBlank isAlphanumeric)

inductive Mode
  | plain
  | blank
  | escape
  | strong
  | strongEscape
  | weak
  | weakEscape
  | comment
deriving DecidableEq

def Mode.next : Mode → Char → Mode
  | plain, c =>
    if isBlank c ∧ c ≠ '\n' ∧ c ≠ '\r' then blank
    else if c = '\\' then escape
    else if c = '"' then weak
    else if c = '\'' then strong
    else plain
  | blank, c =>
    if c = '#' then comment
    else if c = '\\' then escape
    else if c = '"' then weak
    else if c = '\'' then strong
    else plain
  | escape, _ => plain
  | strong, c => if c = '\\' then strongEscape else if c = '\'' then plain else strong
  | strongEscape, _ => strong
  | weak, c => if c = '\\' then weakEscape else if c = '"' then plain else weak
  | weakEscape, _ => weak
  | comment, _ => comment

def scan : Mode → List Char → Mode × List Char
  | mode, [] => (mode, [])
  | mode, c :: rest =>
    let mode := mode.next c
    if mode = .comment then (mode, [])
    else
      let (last, kept) := scan mode rest
      (last, c :: kept)

def breakLines : List Char → List (List Char)
  | [] => []
  | c :: rest =>
    if c = '\n' then [c] :: breakLines rest
    else
      match breakLines rest with
      | [] => [[c]]
      | line :: lines => (c :: line) :: lines

def join (mode : Mode) (before : List Char) : List (List Char) → List (Option (List Char))
  -- `before` is the beginning of the current line.
  | [] => if mode = .plain then [] else [none]
  | line :: rest =>
    if ((before ++ line).dropWhile isBlank).head? = some '#' then some [] :: join .plain [] rest
    else
      let (mode, kept) := scan mode line
      if mode = .plain ∨ mode = .comment then some (before ++ kept) :: join .plain [] rest
      else join mode (before ++ kept) rest

inductive Part
  | plain (weak : Bool)
  | strong
  | escape (weak : Bool)
  | name (weak : Bool) (read : List Char)
  | braced (weak : Bool) (read : List Char)
  | ended
  | comment

def valueOf (env : Environment) (name : List Char) : List Char :=
  ((env.lookup (String.ofList name)).getD "").toList

def Part.next (env : Environment) : Part → Char → Option (Part × List Char)
  | comment, _ => some (comment, [])
  | ended, c =>
    if c = ' ' ∨ c = '\t' then some (ended, [])
    else if c = '#' then some (comment, [])
    else none
  | escape weak, c =>
    if c ∈ ['\\', '\'', '"', '$', ' '] then some (plain weak, [c])
    else if c = 'n' then some (plain weak, ['\n'])
    else none
  | strong, c => some (if c = '\'' then (plain false, []) else (strong, [c]))
  | name weak read, c =>
    if isAlphanumeric c then some (name weak (read ++ [c]), [])
    else if c = '\x7b' ∧ read = [] then some (braced weak [], [])
    else if c = '$' then some (name weak [], valueOf env read)
    else some (plain weak, valueOf env read ++ [c])
  | braced weak read, c =>
    if c = '\x7d' then some (plain weak, valueOf env read) else some (braced weak (read ++ [c]), [])
  | plain weak, c =>
    if c = '$' then some (name weak [], [])
    else if c = '\\' then some (escape weak, [])
    else if weak then some (if c = '"' then (plain false, []) else (plain true, [c]))
    else if c = '\'' then some (strong, [])
    else if c = '"' then some (plain true, [])
    else if c = ' ' ∨ c = '\t' then some (ended, [])
    else some (plain false, [c])

def Part.last (env : Environment) : Part → Option (List Char)
  | plain weak => if weak then none else some []
  | escape weak => if weak then none else some []
  | name weak read => if weak then none else some (valueOf env read)
  | strong => none
  | braced _ _ => none
  | ended => some []
  | comment => some []

def value (env : Environment) (part : Part) : List Char → Option (List Char)
  | [] => part.last env
  | c :: rest =>
    match part.next env c with
    | none => none
    | some (part, added) => (value env part rest).map (added ++ ·)

def isNameChar (c : Char) : Bool := c.isAlphanum || c = '_' || c = '.'

def name : Reader (List Char)
  | [] => none
  | c :: rest =>
    if c.isAlpha || c = '_' then some (c :: rest.takeWhile isNameChar, rest.dropWhile isNameChar)
    else none

def skipBlanks (s : List Char) : List Char := s.dropWhile isBlank

def skipEquals (s : List Char) : Option (List Char) :=
  match skipBlanks s with
  | '=' :: rest => some (skipBlanks rest)
  | _ => none

def assignment (s : List Char) : Option (List Char × List Char) := do
  let (first, rest) ← name s
  match skipEquals rest with
  | some text => return (first, text)
  | none =>
    guard (first = ['e', 'x', 'p', 'o', 'r', 't'])
    let (second, rest) ← name (skipBlanks rest)
    return (second, ← skipEquals rest)

def ofLine? (env : Environment) (line : List Char) : Option (Option (String × String)) :=
  let s := Text.trim line
  if s = [] ∨ s.head? = some '#' then some none
  else
    match assignment s with
    | none => none
    | some (name, text) =>
      let text := if text.head? = some '#' then [] else text
      (value env (.plain false) text).map fun text => some (String.ofList name, String.ofList text)

def supplyLines (env : Environment) : List (Option (List Char)) → Environment
  | [] => env
  | none :: _ => env
  | some line :: rest =>
    match ofLine? env line with
    | none => env
    | some none => supplyLines env rest
    | some (some (name, text)) => supplyLines (env.supply name text) rest

def supply (env : Environment) (text : String) : Environment :=
  let s := match text.toList with
    | '\ufeff' :: rest => rest
    | s => s
  supplyLines env (join .plain [] (breakLines s))

end Dialogue.EnvironmentFile
