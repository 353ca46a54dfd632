import Dialogue.Json.Reader
import Dialogue.Toml.Table

/-! Scalars of TOML: strings in four notations, numbers, truth values, dates and times. -/

namespace Dialogue.Toml

open Reader (hex? unit?)

def isSpace (c : Char) : Bool := c = ' ' || c = '\t'

def skipSpaces (s : List Char) : List Char := s.dropWhile isSpace

def newline? : List Char → Option (List Char)
  | '\n' :: rest => some rest
  | '\r' :: '\n' :: rest => some rest
  | _ => none

def isPlain (c : Char) : Bool := c = '\t' || (0x20 ≤ c.toNat && c.toNat ≠ 0x7f)

def scalar? (n : Nat) : Option Char := if h : n.isValidChar then some (.ofNatAux n h) else none

def unescape? (c : Char) : Option Char :=
  if c = '"' ∨ c = '\\' then some c
  else if c = 'b' then some '\x08'
  else if c = 't' then some '\t'
  else if c = 'n' then some '\n'
  else if c = 'f' then some '\x0c'
  else if c = 'r' then some '\r'
  else none

def basic (acc : List Char) : Reader (List Char)
  | [] => none
  | '"' :: rest => some (acc.reverse, rest)
  | '\\' :: 'u' :: a :: b :: c :: d :: rest =>
    match (unit? a b c d).bind scalar? with
    | none => none
    | some c => basic (c :: acc) rest
  | '\\' :: 'U' :: a :: b :: c :: d :: e :: f :: g :: h :: rest =>
    match (do scalar? ((← unit? a b c d) * 65536 + (← unit? e f g h))) with
    | none => none
    | some c => basic (c :: acc) rest
  | '\\' :: c :: rest =>
    match unescape? c with
    | none => none
    | some c => basic (c :: acc) rest
  | c :: rest => if isPlain c ∧ c ≠ '\\' then basic (c :: acc) rest else none

def longBasic (trim : Bool) (acc : List Char) : Reader (List Char)
  -- A backslash at the end of a line takes away the blanks and line breaks after it, while `trim` holds.
  | [] => none
  | '"' :: '"' :: '"' :: '"' :: '"' :: rest => some (('"' :: '"' :: acc).reverse, rest)
  | '"' :: '"' :: '"' :: '"' :: rest => some (('"' :: acc).reverse, rest)
  | '"' :: '"' :: '"' :: rest => some (acc.reverse, rest)
  | '\\' :: 'u' :: a :: b :: c :: d :: rest =>
    match (unit? a b c d).bind scalar? with
    | none => none
    | some c => longBasic false (c :: acc) rest
  | '\\' :: 'U' :: a :: b :: c :: d :: e :: f :: g :: h :: rest =>
    match (do scalar? ((← unit? a b c d) * 65536 + (← unit? e f g h))) with
    | none => none
    | some c => longBasic false (c :: acc) rest
  | '\\' :: c :: rest =>
    match unescape? c with
    | some c => longBasic false (c :: acc) rest
    | none => if (newline? (skipSpaces (c :: rest))).isSome then longBasic true acc (c :: rest) else none
  | '\r' :: '\n' :: rest => longBasic trim (if trim then acc else '\n' :: acc) rest
  | '\n' :: rest => longBasic trim (if trim then acc else '\n' :: acc) rest
  | c :: rest =>
    if isSpace c ∧ trim then longBasic trim acc rest
    else if isPlain c ∧ c ≠ '\\' then longBasic false (c :: acc) rest
    else none

def literal : Reader (List Char) := fun s =>
  match s.dropWhile fun c => isPlain c && c ≠ '\'' with
  | '\'' :: rest => some (s.takeWhile fun c => isPlain c && c ≠ '\'', rest)
  | _ => none

def longLiteral (acc : List Char) : Reader (List Char)
  | [] => none
  | '\'' :: '\'' :: '\'' :: '\'' :: '\'' :: rest => some (('\'' :: '\'' :: acc).reverse, rest)
  | '\'' :: '\'' :: '\'' :: '\'' :: rest => some (('\'' :: acc).reverse, rest)
  | '\'' :: '\'' :: '\'' :: rest => some (acc.reverse, rest)
  | '\r' :: '\n' :: rest => longLiteral ('\n' :: acc) rest
  | c :: rest => if isPlain c ∨ c = '\n' then longLiteral (c :: acc) rest else none

def trimNewline (s : List Char) : List Char := (newline? s).getD s

def string : Reader (List Char)
  | '"' :: '"' :: '"' :: rest => longBasic false [] (trimNewline rest)
  | '"' :: rest => basic [] rest
  | '\'' :: '\'' :: '\'' :: rest => longLiteral [] (trimNewline rest)
  | '\'' :: rest => literal rest
  | _ => none

def joined? (ok : Char → Bool) : List Char → Option (List Char)
  | [] => none
  | [c] => if ok c then some [c] else none
  | c :: '_' :: rest => if ok c then (joined? ok rest).map (c :: ·) else none
  | c :: rest => if ok c then (joined? ok rest).map (c :: ·) else none

def decimal? (s : List Char) : Option (List Char) :=
  match joined? Numeral.isDigit s with
  | some ('0' :: _ :: _) => none
  | r => r

def inBase? (base : Nat) (s : List Char) : Option Nat :=
  (joined? (fun c => ((hex? c).getD base) < base) s).map
    (·.foldl (fun n c => n * base + (hex? c).getD 0) 0)

def int64? (n : Int) : Option Value := if -(Int.pow 2 63) ≤ n ∧ n < Int.pow 2 63 then some (.int n) else none

def integer? : List Char → Option Value
  | '0' :: 'x' :: s => (inBase? 16 s).bind (int64? ·)
  | '0' :: 'o' :: s => (inBase? 8 s).bind (int64? ·)
  | '0' :: 'b' :: s => (inBase? 2 s).bind (int64? ·)
  | '-' :: s => (decimal? s).bind fun ds => int64? (-(Numeral.ofDigits ds : Int))
  | '+' :: s => (decimal? s).bind fun ds => int64? (Numeral.ofDigits ds)
  | s => (decimal? s).bind fun ds => int64? (Numeral.ofDigits ds)

def exponent? : List Char → Option Int
  | '-' :: s => (joined? Numeral.isDigit s).map fun ds => -(Numeral.ofDigits ds : Int)
  | '+' :: s => (joined? Numeral.isDigit s).map fun ds => (Numeral.ofDigits ds : Int)
  | s => (joined? Numeral.isDigit s).map fun ds => (Numeral.ofDigits ds : Int)

def float? (negative : Bool) (s : List Char) : Option Value := do
  if s = ['i', 'n', 'f'] then return .float (Double.infinity.signed negative)
  if s = ['n', 'a', 'n'] then return .float (Double.nan.signed negative)
  let mantissa := s.takeWhile fun c => c ≠ 'e' ∧ c ≠ 'E'
  let e := s.drop mantissa.length
  let e ← if e = [] then pure 0 else exponent? (e.drop 1)
  let ds ← decimal? (mantissa.takeWhile (· ≠ '.'))
  let fraction := mantissa.dropWhile (· ≠ '.')
  let fs ← if fraction = [] then pure [] else joined? Numeral.isDigit (fraction.drop 1)
  guard (fraction ≠ [] ∨ mantissa.length < s.length)
  let x := Double.ofDecimal negative (Numeral.ofDigits (ds ++ fs)) (e - fs.length)
  guard (x ≠ Double.infinity)
  return .float x

def isTokenChar (c : Char) : Bool := c.isAlphanum || c ∈ ['+', '-', '_', '.', ':']

def token? (s : List Char) : Option Item :=
  if s = ['t', 'r', 'u', 'e'] then some (.scalar (.bool true))
  else if s = ['f', 'a', 'l', 's', 'e'] then some (.scalar (.bool false))
  else if Bounds.document.isDateTime s then some (.date (String.ofList s))
  else
    ((integer? s).orElse fun _ =>
      match s with
      | '-' :: rest => float? true rest
      | '+' :: rest => float? false rest
      | rest => float? false rest).map .scalar

def token : Reader Item := fun s =>
  let first := s.takeWhile isTokenChar
  let rest := s.dropWhile isTokenChar
  match rest with
  | ' ' :: c :: more =>
    if isDate first ∧ Numeral.isDigit c then
      let second := (c :: more).takeWhile isTokenChar
      (token? (first ++ ' ' :: second)).map (·, (c :: more).dropWhile isTokenChar)
    else (token? first).map (·, rest)
  | _ => (token? first).map (·, rest)

end Dialogue.Toml
