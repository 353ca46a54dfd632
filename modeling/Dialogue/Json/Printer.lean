import Dialogue.Json.Number

/-! Texts of JSON values: on one line without blanks, or indented by two blanks for each level. -/

namespace Dialogue

namespace Quoted

def hexDigit (n : Nat) : Char := (Nat.toDigits 16 n).headD '0'

def escape (c : Char) : List Char :=
  if c = '"' then ['\\', '"']
  else if c = '\\' then ['\\', '\\']
  else if c = '\x08' then ['\\', 'b']
  else if c = '\x0c' then ['\\', 'f']
  else if c = '\n' then ['\\', 'n']
  else if c = '\r' then ['\\', 'r']
  else if c = '\t' then ['\\', 't']
  else if c.toNat < 0x20 then ['\\', 'u', '0', '0', hexDigit (c.toNat / 16), hexDigit (c.toNat % 16)]
  else [c]

def quote (s : String) : List Char := '"' :: (s.toList.flatMap escape ++ ['"'])

end Quoted

def Numeral.text (n : Int) : List Char :=
  if n < 0 then '-' :: Nat.toDigits 10 n.natAbs else Nat.toDigits 10 n.natAbs

namespace Value

mutual

def compactChars : Value → List Char
  | null => ['n', 'u', 'l', 'l']
  | bool true => ['t', 'r', 'u', 'e']
  | bool false => ['f', 'a', 'l', 's', 'e']
  | int n => Numeral.text n
  | float x => x.text
  | str s => Quoted.quote s
  | arr [] => ['[', ']']
  | arr (v :: rest) => '[' :: (compactChars v ++ compactItems rest)
  | obj [] => ['{', '}']
  | obj ((name, v) :: rest) =>
    '{' :: (Quoted.quote name ++ ':' :: (compactChars v ++ compactFields rest))

def compactItems : List Value → List Char
  | [] => [']']
  | v :: rest => ',' :: (compactChars v ++ compactItems rest)

def compactFields : List (String × Value) → List Char
  | [] => ['}']
  | (name, v) :: rest =>
    ',' :: (Quoted.quote name ++ ':' :: (compactChars v ++ compactFields rest))

end

def newline (level : Nat) : List Char := '\n' :: List.replicate (2 * level) ' '

mutual

def prettyChars (level : Nat) : Value → List Char
  | null => ['n', 'u', 'l', 'l']
  | bool true => ['t', 'r', 'u', 'e']
  | bool false => ['f', 'a', 'l', 's', 'e']
  | int n => Numeral.text n
  | float x => x.text
  | str s => Quoted.quote s
  | arr [] => ['[', ']']
  | arr (v :: rest) =>
    '[' :: (newline (level + 1) ++ (prettyChars (level + 1) v ++ prettyItems level rest))
  | obj [] => ['{', '}']
  | obj ((name, v) :: rest) =>
    '{' :: (newline (level + 1) ++ (Quoted.quote name ++
      ':' :: ' ' :: (prettyChars (level + 1) v ++ prettyFields level rest)))

def prettyItems (level : Nat) : List Value → List Char
  | [] => newline level ++ [']']
  | v :: rest => ',' :: (newline (level + 1) ++ (prettyChars (level + 1) v ++ prettyItems level rest))

def prettyFields (level : Nat) : List (String × Value) → List Char
  | [] => newline level ++ ['}']
  | (name, v) :: rest =>
    ',' :: (newline (level + 1) ++ (Quoted.quote name ++
      ':' :: ' ' :: (prettyChars (level + 1) v ++ prettyFields level rest)))

end

def compact (v : Value) : String := String.ofList v.compactChars

def pretty (v : Value) : String := String.ofList (v.prettyChars 0)

def plain (v : Value) : String := v.str?.getD v.compact

end Value

end Dialogue
