import Dialogue.Json.Number
import Dialogue.Text.Lowercase

/-! Layers of settings: later ones over earlier ones, without regard to the case of names. -/

namespace Dialogue

mutual

def Value.merge (old : Value) : Value → Value
  | .obj fields => Value.mergeFields old fields
  | v => v

def Value.mergeFields (old : Value) : List (String × Value) → Value
  | [] => old
  | (name, v) :: rest =>
    let name := lowercase name
    Value.mergeFields (old.set name (Value.merge ((old.get? name).getD (.obj [])) v)) rest

end

namespace Settings

inductive Step
  | field (name : String)
  | item (number : Int)

def isNameChar (c : Char) : Bool := c.isAlphanum || c = ' ' || c = '_' || c = '-'

def isSpace (c : Char) : Bool := c = ' ' || c = '\t'

def number? (s : List Char) : Option (Int × List Char) :=
  let s := s.dropWhile isSpace
  let (negative, s) := match s with
    | '-' :: rest => (true, rest)
    | s => (false, s)
  let digits := s.takeWhile Numeral.isDigit
  let n := Numeral.ofDigits digits
  if digits = [] ∨ Nat.pow 2 63 ≤ n then none
  else
    match (s.dropWhile Numeral.isDigit).dropWhile isSpace with
    | ']' :: rest => some (if negative then -n else n, rest)
    | _ => none

def steps? : Nat → List Char → Option (List Step)
  | _, [] => some []
  | 0, _ => none
  | fuel + 1, '.' :: s =>
    match s.takeWhile isNameChar with
    | [] => none
    | name => (steps? fuel (s.dropWhile isNameChar)).map (.field (lowercase (String.ofList name)) :: ·)
  | fuel + 1, '[' :: s =>
    (number? s).bind fun (number, s) => (steps? fuel s).map (.item number :: ·)
  | _ + 1, _ => none

def steps (key : String) : List Step :=
  (steps? (key.length + 1) ('.' :: key.toList)).getD [.field (lowercase key)]

def place (length : Nat) (number : Int) : Nat :=
  (if number < 0 then length + number else number).toNat

def setItem (items : List Value) (n : Nat) (v : Value) : List Value :=
  (items ++ List.replicate (n + 1 - items.length) Value.null).set n v

def put (v : Value) : List Step → Value → Value
  | [], old => old.merge v
  -- What is no object or list, as the step needs it, gives way to an empty one.
  | .field name :: rest, old => old.set name (put v rest ((old.get? name).getD (.obj [])))
  | .item number :: rest, old =>
    let items := old.items?.getD []
    let n := place items.length number
    .arr (setItem items n (put v rest (items[n]?.getD (.obj []))))

def layer (old : Value) (fields : Fields) : Value :=
  fields.foldl (fun old (key, v) => put v (steps key) old) old

end Settings

end Dialogue
