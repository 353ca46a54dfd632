import Dialogue.Settings.Layer

/-! Settings in environment variables. -/

namespace Dialogue

abbrev Environment := List (String × String)

namespace Environment

def supply (env : Environment) (name value : String) : Environment :=
  match env.lookup name with
  | some _ => env
  | none => env ++ [(name, value)]

def mark : List Char := "parley_".toList

def dots : List Char → List Char
  | '_' :: '_' :: rest => '.' :: dots rest
  | c :: rest => c :: dots rest
  | [] => []

def key? (name : String) : Option String :=
  let s := (lowercase name).toList
  if mark.isPrefixOf s then some (String.ofList (dots (s.drop mark.length))) else none

def sign : List Char → Bool × List Char
  | '-' :: rest => (true, rest)
  | '+' :: rest => (false, rest)
  | s => (false, s)

def integer? (s : String) : Option Int :=
  let (negative, digits) := sign s.toList
  if digits = [] ∨ ¬ digits.all Numeral.isDigit then none
  else
    let n : Int := if negative then -(Numeral.ofDigits digits : Int) else Numeral.ofDigits digits
    if -(Int.pow 2 63) ≤ n ∧ n < Int.pow 2 63 then some n else none

def exponent? : List Char → Option Int
  | [] => some 0
  | c :: s =>
    let (negative, digits) := sign s
    if (c ≠ 'e' ∧ c ≠ 'E') ∨ digits = [] ∨ ¬ digits.all Numeral.isDigit then none
    else some (if negative then -(Numeral.ofDigits digits : Int) else Numeral.ofDigits digits)

def float? (s : String) : Option Double :=
  let (negative, s) := sign s.toList
  let word := lowercase (String.ofList s)
  if word = "inf" ∨ word = "infinity" then some (Double.infinity.signed negative)
  else if word = "nan" then some (Double.nan.signed negative)
  else
    let whole := s.takeWhile Numeral.isDigit
    let (fraction, rest) := match s.dropWhile Numeral.isDigit with
      | '.' :: s => (s.takeWhile Numeral.isDigit, s.dropWhile Numeral.isDigit)
      | s => ([], s)
    if whole = [] ∧ fraction = [] then none
    else
      (exponent? rest).map fun e =>
        Double.ofDecimal negative (Numeral.ofDigits (whole ++ fraction)) (e - fraction.length)

def value (s : String) : Value :=
  let word := lowercase s
  if word = "true" then .bool true
  else if word = "false" then .bool false
  else
    match integer? s, float? s with
    | some n, _ => .int n
    | none, some x => .float x
    | none, none => .str s

def settings (env : Environment) : Fields :=
  env.filterMap fun (name, text) => (key? name).map (·, value text)

end Environment

end Dialogue
