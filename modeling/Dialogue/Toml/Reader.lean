import Dialogue.Toml.Scalar
import Dialogue.Toml.Table

/-! Reading TOML documents. -/

namespace Dialogue.Toml

def skipComment : List Char → List Char
  | '#' :: rest => rest.dropWhile isPlain
  | s => s

def lineEnd (s : List Char) : Option (List Char) :=
  match skipComment (skipSpaces s) with
  | [] => some []
  | s => newline? s

def skipLayout (inComment : Bool) : List Char → List Char
  | [] => []
  | '\r' :: '\n' :: rest => skipLayout false rest
  | c :: rest =>
    if c = '\n' then skipLayout false rest
    else if inComment then if isPlain c then skipLayout true rest else c :: rest
    else if isSpace c then skipLayout false rest
    else if c = '#' then skipLayout true rest
    else c :: rest

def isBareChar (c : Char) : Bool := c.isAlphanum || c = '_' || c = '-'

def simpleKey : Reader String := fun s =>
  match s with
  | '"' :: rest => (basic [] rest).map fun (cs, rest) => (String.ofList cs, rest)
  | '\'' :: rest => (literal rest).map fun (cs, rest) => (String.ofList cs, rest)
  | s =>
    match s.takeWhile isBareChar with
    | [] => none
    | cs => some (String.ofList cs, s.dropWhile isBareChar)

def dottedKey : Nat → List String → Reader (List String)
  | 0, _, _ => none
  | fuel + 1, acc, s =>
    match simpleKey (skipSpaces s) with
    | none => none
    | some (key, rest) =>
      match skipSpaces rest with
      | '.' :: rest => dottedKey fuel (key :: acc) rest
      | rest => some ((key :: acc).reverse, rest)

def nesting : Nat := 79

def keys : Reader (List String) := dottedKey nesting []

def pair (value : Reader Item) : Reader (List String × Item) := fun s =>
  match keys s with
  | some (keys, '=' :: rest) => (value (skipSpaces rest)).map fun (v, rest) => ((keys, v), rest)
  | _ => none

def elements (value : Reader Item) : Nat → List Item → Reader (List Item)
  | 0, _, _ => none
  | fuel + 1, acc, s =>
    match skipLayout false s with
    | ']' :: rest => some (acc.reverse, rest)
    | s =>
      match value s with
      | none => none
      | some (v, rest) =>
        match skipLayout false rest with
        | ',' :: rest => elements value fuel (v :: acc) rest
        | ']' :: rest => some ((v :: acc).reverse, rest)
        | _ => none

def pairs (value : Reader Item) : Nat → Table → Reader Table
  | 0, _, _ => none
  | fuel + 1, t, s =>
    match pair value s with
    | none => none
    | some ((keys, v), rest) =>
      match t.define keys v with
      | none => none
      | some t =>
        match skipSpaces rest with
        | ',' :: rest => pairs value fuel t rest
        | '}' :: rest => some (t, rest)
        | _ => none

def value : Nat → Reader Item := fun depth s =>
  match s with
  | '"' :: _ => (string s).map fun (cs, rest) => (.scalar (.str (String.ofList cs)), rest)
  | '\'' :: _ => (string s).map fun (cs, rest) => (.scalar (.str (String.ofList cs)), rest)
  | '[' :: rest =>
    match depth with
    | 0 => none
    | depth + 1 => (elements (value depth) (rest.length + 1) [] rest).map fun (vs, rest) => (.list vs, rest)
  | '{' :: rest =>
    match depth with
    | 0 => none
    | depth + 1 =>
      match skipSpaces rest with
      | '}' :: rest => some (.inline .empty, rest)
      | rest =>
        (pairs (value depth) (rest.length + 1) .empty rest).map fun (t, rest) => (.inline t, rest)
  | s => token s

def lines : Nat → Table → List String → List Char → Option Table
  | 0, _, _, _ => none
  | fuel + 1, root, path, s =>
    match skipSpaces s with
    | [] => some root
    | '[' :: '[' :: rest =>
      match keys rest with
      | some (keys, ']' :: ']' :: rest) =>
        match root.openNext keys, lineEnd rest with
        | some root, some rest => lines fuel root keys rest
        | _, _ => none
      | _ => none
    | '[' :: rest =>
      match keys rest with
      | some (keys, ']' :: rest) =>
        match root.openTable keys, lineEnd rest with
        | some root, some rest => lines fuel root keys rest
        | _, _ => none
      | _ => none
    | s =>
      match lineEnd s with
      | some rest => lines fuel root path rest
      | none =>
        match pair (value nesting) s with
        | none => none
        | some ((keys, v), rest) =>
          match root.alter false (Table.define keys v) path, lineEnd rest with
          | some root, some rest => lines fuel root path rest
          | _, _ => none

def parse? (s : String) : Option Value :=
  let s := match s.toList with
    | '\ufeff' :: rest => rest
    | s => s
  (lines (s.length + 1) .empty [] s).bind Table.value?

end Dialogue.Toml
