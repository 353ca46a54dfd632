/-! Files and folders, seen from one folder. -/

namespace Dialogue

inductive Node
  | file (text : String)
  | folder
deriving DecidableEq, Inhabited

-- A place above the folder starts with `..`, one from the root with `/`.
abbrev Place := List String

def Place.up (place : Place) : Place :=
  if place = ["/"] then place
  else if place.all (· = "..") then place ++ [".."]
  else place.dropLast

def Place.path : Place → String
  | "/" :: names => "/" ++ "/".intercalate names
  | names => "/".intercalate names

structure Disk where
  nodes : List (Place × Node) := []
deriving Inhabited

namespace Disk

def node? (d : Disk) (place : Place) : Option Node :=
  if place = ["/"] ∨ place.all (· = "..") then some .folder else d.nodes.lookup place

def isName (name : String) : Bool := name.utf8ByteSize ≤ 255 && !name.toList.contains '\x00'

def walk (d : Disk) : Place → List String → Option Place
  -- Only a folder can be left by a name.
  | place, [] => some place
  | place, name :: rest =>
    if d.node? place ≠ some .folder ∨ ¬ isName name then none
    else if name = "" ∨ name = "." then walk d place rest
    else if name = ".." then walk d place.up rest
    else walk d (place ++ [name]) rest

def place? (d : Disk) (path : String) : Option Place :=
  if path = "" ∨ 4096 ≤ path.utf8ByteSize then none
  else
    match (path.toList.splitOn '/').map String.ofList with
    | "" :: names => d.walk ["/"] names
    | names => d.walk [] names

def look (d : Disk) (path : String) : Option Node := (d.place? path).bind d.node?

def read? (d : Disk) (path : String) : Option String :=
  match d.look path with
  | some (.file text) => some text
  | _ => none

def put (d : Disk) (place : Place) (node : Node) : Disk :=
  ⟨(place, node) :: d.nodes.filter fun entry => entry.1 ≠ place⟩

def write? (d : Disk) (path text : String) : Option Disk :=
  match d.place? path with
  | none => none
  | some place => if d.node? place = some .folder then none else some (d.put place (.file text))

def remove? (d : Disk) (path : String) : Option Disk :=
  match d.place? path, d.look path with
  | some place, some (.file _) => some ⟨d.nodes.filter fun entry => entry.1 ≠ place⟩
  | _, _ => none

def makeFolder? (d : Disk) (path : String) : Option Disk :=
  match d.place? (String.ofList (path.toList.reverse.dropWhile (· = '/')).reverse) with
  | none => none
  | some place => if (d.node? place).isSome then none else some (d.put place .folder)

def addFile (d : Disk) (path text : String) : Disk :=
  let names := ((path.toList.splitOn '/').map String.ofList).filter fun name => name ≠ "" ∧ name ≠ "."
  let folders := (List.range (names.length - 1)).map fun n => names.take (n + 1)
  (folders.foldl (fun d place => d.put place .folder) d).put names (.file text)

def files (d : Disk) : List (String × String) :=
  d.nodes.filterMap fun (place, node) =>
    match node with
    | .file text =>
      if place.head? = some ".." ∨ place.head? = some "/" then none
      else some (place.path, text)
    | .folder => none

def written (old new : Disk) : List (String × String) :=
  new.nodes.filterMap fun (place, node) =>
    match node with
    | .file text => if old.node? place = some node then none else some (place.path, text)
    | .folder => none

def removed (old new : Disk) : List String :=
  old.nodes.filterMap fun (place, node) =>
    match node with
    | .file _ => if (new.node? place).isSome then none else some place.path
    | .folder => none

end Disk

end Dialogue
