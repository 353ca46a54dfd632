import Dialogue.Json.Number

/-! Reading JSON texts: a strict reader with a limit on nesting, and records with named fields. -/

namespace Dialogue

abbrev Reader (α : Type) := List Char → Option (α × List Char)

namespace Reader

variable {α σ : Type}

def isBlank (c : Char) : Bool := c = ' ' || c = '\n' || c = '\t' || c = '\r'

def skipBlanks (s : List Char) : List Char := s.dropWhile isBlank

def hex? (c : Char) : Option Nat :=
  if '0' ≤ c ∧ c ≤ '9' then some (c.toNat - '0'.toNat)
  else if 'a' ≤ c ∧ c ≤ 'f' then some (c.toNat - 'a'.toNat + 10)
  else if 'A' ≤ c ∧ c ≤ 'F' then some (c.toNat - 'A'.toNat + 10)
  else none

def unit? (a b c d : Char) : Option Nat := do
  return ((← hex? a) * 16 + (← hex? b)) * 256 + ((← hex? c) * 16 + (← hex? d))

def unescape? (c : Char) : Option Char :=
  if c = '"' ∨ c = '\\' ∨ c = '/' then some c
  else if c = 'b' then some '\x08'
  else if c = 'f' then some '\x0c'
  else if c = 'n' then some '\n'
  else if c = 'r' then some '\r'
  else if c = 't' then some '\t'
  else none

def chars (acc : List Char) : Reader (List Char)
  | [] => none
  | '"' :: rest => some (acc.reverse, rest)
  | '\\' :: 'u' :: a :: b :: c :: d :: rest =>
    match unit? a b c d with
    | none => none
    | some u =>
      -- Code units of a pair must stand together.
      if 0xd800 ≤ u ∧ u < 0xdc00 then
        match rest with
        | '\\' :: 'u' :: a' :: b' :: c' :: d' :: rest =>
          match unit? a' b' c' d' with
          | none => none
          | some v =>
            if 0xdc00 ≤ v ∧ v < 0xe000 then
              chars (Char.ofNat (0x10000 + (u - 0xd800) * 1024 + (v - 0xdc00)) :: acc) rest
            else none
        | _ => none
      else if 0xdc00 ≤ u ∧ u < 0xe000 then none
      else chars (Char.ofNat u :: acc) rest
  | '\\' :: c :: rest =>
    match unescape? c with
    | none => none
    | some c => chars (c :: acc) rest
  | c :: rest => if c.toNat < 0x20 ∨ c = '\\' then none else chars (c :: acc) rest

def string : Reader String := fun s =>
  match skipBlanks s with
  | '"' :: rest => (chars [] rest).map fun (cs, rest) => (String.ofList cs, rest)
  | _ => none

def digits : Reader (List Char) := fun s =>
  match s.takeWhile Numeral.isDigit with
  | [] => none
  | ds => some (ds, s.dropWhile Numeral.isDigit)

def wholeDigits : Reader (List Char) := fun s =>
  match digits s with
  | some ('0' :: _ :: _, _) => none
  | r => r

def fraction : Reader (Option (List Char))
  | '.' :: rest => (digits rest).map fun (ds, rest) => (some ds, rest)
  | s => some (none, s)

def exponent : Reader (Option Int)
  | c :: rest =>
    if c = 'e' ∨ c = 'E' then
      match rest with
      | '-' :: rest => (digits rest).map fun (ds, rest) => (some (-(Numeral.ofDigits ds : Int)), rest)
      | '+' :: rest => (digits rest).map fun (ds, rest) => (some (Numeral.ofDigits ds : Int), rest)
      | rest => (digits rest).map fun (ds, rest) => (some (Numeral.ofDigits ds : Int), rest)
    else some (none, c :: rest)
  | [] => some (none, [])

def unsigned (negative : Bool) : Reader Value := fun s =>
  match wholeDigits s with
  | none => none
  | some (ds, rest) =>
    match fraction rest with
    | none => none
    | some (part, rest) =>
      match exponent rest with
      | none => none
      | some (e, rest) =>
        match part, e with
        | none, none => (Numeral.whole? negative ds).map (·, rest)
        | _, _ => (Numeral.fractional? negative ds (part.getD []) (e.getD 0)).map (·, rest)

def number : Reader Value
  | '-' :: rest => unsigned true rest
  | s => unsigned false s

def items (item : Reader α) : Nat → List α → Reader (List α)
  | 0, _, _ => none
  | fuel + 1, acc, s =>
    match item s with
    | none => none
    | some (v, rest) =>
      match skipBlanks rest with
      | ',' :: rest => items item fuel (v :: acc) rest
      | ']' :: rest => some ((v :: acc).reverse, rest)
      | _ => none

def list (item : Reader α) : Reader (List α) := fun s =>
  match skipBlanks s with
  | ']' :: rest => some ([], rest)
  | _ => items item s.length [] s

def members (member : σ → String → Reader σ) : Nat → σ → Reader σ
  | 0, _, _ => none
  | fuel + 1, state, s =>
    match string s with
    | none => none
    | some (name, rest) =>
      match skipBlanks rest with
      | ':' :: rest =>
        match member state name rest with
        | none => none
        | some (state, rest) =>
          match skipBlanks rest with
          | ',' :: rest => members member fuel state rest
          | '}' :: rest => some (state, rest)
          | _ => none
      | _ => none

def object (member : σ → String → Reader σ) (state : σ) : Reader σ := fun s =>
  match skipBlanks s with
  | '}' :: rest => some (state, rest)
  | _ => members member s.length state s

def value : Nat → Reader Value := fun depth s =>
  match skipBlanks s with
  | 'n' :: 'u' :: 'l' :: 'l' :: rest => some (.null, rest)
  | 't' :: 'r' :: 'u' :: 'e' :: rest => some (.bool true, rest)
  | 'f' :: 'a' :: 'l' :: 's' :: 'e' :: rest => some (.bool false, rest)
  | '"' :: rest => (chars [] rest).map fun (cs, rest) => (.str (String.ofList cs), rest)
  | '[' :: rest =>
    match depth with
    | 0 => none
    | depth + 1 => (list (value depth) rest).map fun (vs, rest) => (.arr vs, rest)
  | '{' :: rest =>
    match depth with
    | 0 => none
    | depth + 1 =>
      -- Of two fields with one name the later counts.
      (object (fun fields name s => (value depth s).map fun (v, rest) =>
        (Fields.insert name v fields, rest)) [] rest).map fun (fields, rest) => (.obj fields, rest)
  | s => number s

def nesting : Nat := 127

def whole (r : Reader α) (s : String) : Option α :=
  match r s.toList with
  | none => none
  | some (v, rest) => if skipBlanks rest = [] then some v else none

/-! Unknown fields of a record are skipped: any depth, any size of numbers, any code units. -/

def skipChars : List Char → Option (List Char)
  | [] => none
  | '"' :: rest => some rest
  | '\\' :: 'u' :: a :: b :: c :: d :: rest => (unit? a b c d).bind fun _ => skipChars rest
  | '\\' :: c :: rest => (unescape? c).bind fun _ => skipChars rest
  | c :: rest => if c.toNat < 0x20 ∨ c = '\\' then none else skipChars rest

def skipUnsigned (s : List Char) : Option (List Char) :=
  match wholeDigits s with
  | none => none
  | some (_, rest) =>
    match fraction rest with
    | none => none
    | some (_, rest) => (exponent rest).map Prod.snd

def skipMembers (skip : List Char → Option (List Char)) : Nat → List Char → Option (List Char)
  | 0, _ => none
  | fuel + 1, s =>
    match skipBlanks s with
    | '"' :: rest =>
      match (skipChars rest).map skipBlanks with
      | some (':' :: rest) =>
        match (skip rest).map skipBlanks with
        | some (',' :: rest) => skipMembers skip fuel rest
        | some ('}' :: rest) => some rest
        | _ => none
      | _ => none
    | _ => none

def skip : Nat → List Char → Option (List Char)
  | 0, _ => none
  | fuel + 1, s =>
    match skipBlanks s with
    | 'n' :: 'u' :: 'l' :: 'l' :: rest => some rest
    | 't' :: 'r' :: 'u' :: 'e' :: rest => some rest
    | 'f' :: 'a' :: 'l' :: 's' :: 'e' :: rest => some rest
    | '"' :: rest => skipChars rest
    | '-' :: rest => skipUnsigned rest
    | '[' :: rest =>
      (list (fun s => (skip fuel s).map ((), ·)) rest).map Prod.snd
    | '{' :: rest =>
      match skipBlanks rest with
      | '}' :: rest => some rest
      | _ => skipMembers (skip fuel) rest.length rest
    | s => skipUnsigned s

structure Field (σ : Type) where
  name : String
  read : Reader (σ → σ)

def Field.of (name : String) (read : Reader α) (put : α → σ → σ) : Field σ where
  name := name
  read := fun s => (read s).map fun (x, rest) => (put x, rest)

def slots : List (Field σ) → σ → Reader σ
  | [], _, _ => none
  | field :: rest, draft, s =>
    match field.read s with
    | none => none
    | some (update, s) =>
      match skipBlanks s with
      | ',' :: s => slots rest (update draft) s
      | ']' :: s => some (update draft, s)
      | _ => none

def known (fields : List (Field σ)) (state : σ × List String) (name : String) :
    Reader (σ × List String) := fun s =>
  -- A known name may come once, an unknown one is skipped.
  match fields.find? (·.name = name) with
  | none => (skip (s.length + 1) s).map (state, ·)
  | some field =>
    if name ∈ state.2 then none
    else (field.read s).map fun (update, rest) => ((update state.1, name :: state.2), rest)

def record (fields : List (Field σ)) (draft : σ) (finish : σ → Option α) : Reader α := fun s =>
  -- An object with the fields, or the list of them in order.
  match skipBlanks s with
  | '{' :: rest =>
    match object (known fields) (draft, []) rest with
    | none => none
    | some (state, rest) => (finish state.1).map (·, rest)
  | '[' :: rest =>
    match skipBlanks rest with
    | ']' :: rest => (finish draft).map (·, rest)
    | _ =>
      match slots fields draft rest with
      | none => none
      | some (draft, rest) => (finish draft).map (·, rest)
  | _ => none

def optional (r : Reader α) : Reader (Option α) := fun s =>
  match skipBlanks s with
  | 'n' :: 'u' :: 'l' :: 'l' :: rest => some (none, rest)
  | _ => (r s).map fun (v, rest) => (some v, rest)

end Reader

def Value.parse? (s : String) : Option Value := Reader.whole (Reader.value Reader.nesting) s

end Dialogue
