/-! Services by name. Which kinds of services there are is open, and so is the scope that knows them; services that
are provided one after the other make a scope, where those for the holder of a key come before those for all. -/

namespace Dialogue

structure Kinds where
  Kind : Type
  Carrier : Kind → Type
  name : Kind → String
  [decEq : DecidableEq Kind]

instance (κ : Kinds) : DecidableEq κ.Kind := κ.decEq

structure Service (κ : Kinds) where
  kind : κ.Kind
  content : κ.Carrier kind

inductive ServiceError
  | notProvided (service : String)
  | wrongKind (service expected : String)
  | noDependency (index : Nat)
  | assembly (reason : String)
deriving DecidableEq, Repr

def ServiceError.message : ServiceError → String
  | notProvided service => s!"service '{service}' is not provided by the scope"
  | wrongKind service expected => s!"service '{service}' is not a {expected}"
  | noDependency index => s!"dependency index {index} out of range"
  | assembly reason => s!"container factory failed: {reason}"

structure Scope (κ : Kinds) where
  find (key name : String) : Except ServiceError (Service κ)

variable {κ : Kinds}

namespace Scope

-- The first name that is not found decides the error.
def findAll (scope : Scope κ) (key : String) : List String → Except ServiceError (List (Service κ))
  | [] => .ok []
  | name :: rest =>
    match scope.find key name with
    | .error e => .error e
    | .ok service =>
      match findAll scope key rest with
      | .error e => .error e
      | .ok services => .ok (service :: services)

end Scope

structure Services (κ : Kinds) where
  forAll : List (String × Service κ) := []
  forKey : List ((String × String) × Service κ) := []

namespace Services

-- A service in front replaces an earlier one of the same name and key.
def provide (services : Services κ) (name : String) (key : Option String) (service : Service κ) : Services κ :=
  match key with
  | none => { services with forAll := (name, service) :: services.forAll }
  | some key => { services with forKey := ((name, key), service) :: services.forKey }

def find? (services : Services κ) (key name : String) : Option (Service κ) :=
  match services.forKey.lookup (name, key) with
  | some service => some service
  | none => services.forAll.lookup name

def scope (services : Services κ) : Scope κ where
  find key name :=
    match services.find? key name with
    | some service => .ok service
    | none => .error (.notProvided name)

end Services

structure Dependencies (κ : Kinds) where
  names : List String
  services : List (Service κ)
  key : String

namespace Dependencies

def get (d : Dependencies κ) (index : Nat) (kind : κ.Kind) : Except ServiceError (κ.Carrier kind) :=
  match d.services[index]? with
  | none => .error (.noDependency index)
  | some ⟨own, content⟩ =>
    if h : own = kind then .ok (h ▸ content)
    else .error (.wrongKind ((d.names[index]?).getD "") (κ.name kind))

end Dependencies

inductive CommonKind
  | text
  | int
  | flag
  | menu
deriving DecidableEq, Inhabited, Repr

namespace CommonKind

def Carrier : CommonKind → Type
  | text => String
  | int => Int
  | flag => Bool
  | menu => List String

def name : CommonKind → String
  | text => "alloc::string::String"
  | int => "i64"
  | flag => "bool"
  | menu => "parley_core::demo::Menu"

end CommonKind

def Kinds.common : Kinds := { Kind := CommonKind, Carrier := CommonKind.Carrier, name := CommonKind.name }

end Dialogue
