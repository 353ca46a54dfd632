import Dialogue.Json.Value
import Dialogue.Toml.Date

/-! Tables of a TOML document while they are being filled: how a table came about decides what may still
be put into it. -/

namespace Dialogue.Toml

mutual

inductive Item
  | scalar (v : Value)
  | date (text : String)
  | list (items : List Item)
  | inline (t : Table)
  | table (t : Table)
  | tables (ts : List Table)

inductive Table
  -- A table is implicit until a header names it, and dotted if the keys of a line made it.
  | mk (implicit dotted : Bool) (entries : List (String × Item))

end

namespace Table

def implicit : Table → Bool
  | mk implicit _ _ => implicit

def dotted : Table → Bool
  | mk _ dotted _ => dotted

def entries : Table → List (String × Item)
  | mk _ _ entries => entries

def empty : Table := mk false false []

def find? (t : Table) (key : String) : Option Item := t.entries.lookup key

def erase (t : Table) (key : String) : Table :=
  mk t.implicit t.dotted (t.entries.filter fun entry => entry.1 ≠ key)

def put (t : Table) (key : String) (item : Item) : Table :=
  mk t.implicit t.dotted
    (if (t.find? key).isSome then
      t.entries.map fun entry => if entry.1 = key then (key, item) else entry
    else t.entries ++ [(key, item)])

def alter (byDots : Bool) (change : Table → Option Table) : List String → Table → Option Table
  -- A list of tables stands for its last one. The keys of a line do not reach into a table that has a header.
  | [], t => change t
  | key :: path, t =>
    match t.find? key with
    | none => (alter byDots change path (mk true byDots [])).map fun sub => t.put key (.table sub)
    | some (.table sub) =>
      if byDots && !sub.implicit then none
      else (alter byDots change path sub).map fun sub => t.put key (.table sub)
    | some (.tables ts) =>
      match ts.getLast? with
      | none => none
      | some sub =>
        (alter byDots change path sub).map fun sub => t.put key (.tables (ts.dropLast ++ [sub]))
    | some _ => none

def define (keys : List String) (item : Item) (t : Table) : Option Table :=
  match keys.getLast? with
  | none => none
  | some key =>
    alter true (fun t =>
      if t.dotted == keys.dropLast.isEmpty then none
      else if (t.find? key).isSome then none
      else some (t.put key item)) keys.dropLast t

def openTable (keys : List String) (t : Table) : Option Table :=
  -- A table that was implicit comes last from then on.
  match keys.getLast? with
  | none => none
  | some key =>
    alter false (fun t =>
      match t.find? key with
      | none => some (t.put key (.table empty))
      | some (.table sub) =>
        if sub.implicit && !sub.dotted then
          some ((t.erase key).put key (.table (mk false false sub.entries)))
        else none
      | some _ => none) keys.dropLast t

def openNext (keys : List String) (t : Table) : Option Table :=
  match keys.getLast? with
  | none => none
  | some key =>
    alter false (fun t =>
      match t.find? key with
      | none => some (t.put key (.tables [empty]))
      | some (.tables ts) => some (t.put key (.tables (ts ++ [empty])))
      | some _ => none) keys.dropLast t

end Table

-- A table whose first key is this one stands for the date in the text under it.
def dateKey : String := "$__toml_private_datetime"

def Item.asDate? : Item → Option Value
  | .scalar (.str s) => if Bounds.text.isDateTime s.toList then some (.str s) else none
  | _ => none

def Table.date? : List (String × Item) → Option (Option Value)
  | (key, item) :: _ => if key = dateKey then some item.asDate? else none
  | [] => none

mutual

def Item.value? : Item → Option Value
  | .scalar v => some v
  | .date text => some (.str text)
  | .list items => (Item.values? items).map .arr
  | .inline t => t.value?
  | .table t => t.value?
  | .tables ts => (Table.values? ts).map .arr

def Item.values? : List Item → Option (List Value)
  | [] => some []
  | item :: rest => do return (← item.value?) :: (← Item.values? rest)

def Table.value? : Table → Option Value
  | .mk _ _ entries =>
    match Table.date? entries with
    | some date => date
    | none => (Table.fields? entries).map .obj

def Table.values? : List Table → Option (List Value)
  | [] => some []
  | t :: rest => do return (← t.value?) :: (← Table.values? rest)

def Table.fields? : List (String × Item) → Option Fields
  | [] => some []
  | (key, item) :: rest => do return Fields.insert key (← item.value?) (← Table.fields? rest)

end

end Dialogue.Toml
