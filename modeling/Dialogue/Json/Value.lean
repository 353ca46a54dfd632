import Dialogue.Double

/-! JSON values. Whole numbers and binary numbers are told apart, and an object is the list of its fields. -/

namespace Dialogue

inductive Value
  | null
  | bool (b : Bool)
  | int (n : Int)
  | float (x : Double)
  | str (s : String)
  | arr (items : List Value)
  -- The fields of an object that was read or built by `Value.set` ascend by their names, each name once.
  | obj (fields : List (String × Value))
deriving Inhabited

abbrev Fields := List (String × Value)

def Fields.insert (name : String) (v : Value) : Fields → Fields
  | [] => [(name, v)]
  | (k, w) :: rest =>
    if name < k then (name, v) :: (k, w) :: rest
    else if name = k then (name, v) :: rest
    else (k, w) :: Fields.insert name v rest

def Fields.ofList (fields : Fields) : Fields :=
  fields.foldl (fun acc field => Fields.insert field.1 field.2 acc) []

namespace Value

mutual

def same : Value → Value → Bool
  | null, null => true
  | bool a, bool b => a == b
  | int a, int b => a == b
  | float a, float b => a.same b
  | str a, str b => a == b
  | arr a, arr b => sameItems a b
  | obj a, obj b => sameFields a b
  | _, _ => false

def sameItems : List Value → List Value → Bool
  | [], [] => true
  | a :: as, b :: bs => same a b && sameItems as bs
  | _, _ => false

def sameFields : List (String × Value) → List (String × Value) → Bool
  | [], [] => true
  | (k, a) :: as, (l, b) :: bs => k == l && same a b && sameFields as bs
  | _, _ => false

end

def get? (v : Value) (name : String) : Option Value :=
  match v with
  | obj fields => fields.lookup name
  | _ => none

def fields : Value → Fields
  | obj fields => fields
  | _ => []

def set (v : Value) (name : String) (w : Value) : Value :=
  obj (Fields.insert name w v.fields)

def str? : Value → Option String
  | str s => some s
  | _ => none

def items? : Value → Option (List Value)
  | arr items => some items
  | _ => none

end Value

end Dialogue
