import Dialogue.Json.Value

/-! Decimal texts of binary numbers: the fewest digits that read back, and the numbers that JSON texts denote. -/

namespace Dialogue

namespace Double

def decimalExponent (num den : Nat) : Int :=
  let guess : Int := ((num.log2 : Int) - den.log2) * 30103 / 100000
  let below (e : Int) : Bool := num * Nat.pow 10 (-e).toNat < den * Nat.pow 10 e.toNat
  if below guess then guess - 1 else if below (guess + 1) then guess else guess + 1

structure Neighbourhood where
  -- The reals that round to a number, in quarters of its last place.
  low : Nat
  middle : Nat
  high : Nat
  closed : Bool
  exponent : Int

def neighbourhood (x : Double) : Neighbourhood where
  low := 4 * x.significand - (if x.significand = Nat.pow 2 52 ∧ -1074 < x.exponent then 1 else 2)
  middle := 4 * x.significand
  high := 4 * x.significand + 2
  closed := x.significand % 2 = 0
  exponent := x.exponent - 2

def Neighbourhood.multiple? (r : Neighbourhood) (k : Int) : Option Nat :=
  let up := Nat.pow 10 k.toNat * Nat.pow 2 (-r.exponent).toNat
  let down := Nat.pow 10 (-k).toNat * Nat.pow 2 r.exponent.toNat
  let inside (c : Nat) : Bool :=
    if r.closed then r.low * down ≤ c * up ∧ c * up ≤ r.high * down
    else r.low * down < c * up ∧ c * up < r.high * down
  let c := r.middle * down / up
  let rest := 2 * (r.middle * down % up)
  let upward := up < rest ∨ (rest = up ∧ c % 2 = 1)
  match inside c, inside (c + 1) with
  | true, true => some (if upward then c + 1 else c)
  | true, false => some c
  | false, true => some (c + 1)
  | false, false => none

def shortest (x : Double) : Nat × Int :=
  let r := x.neighbourhood
  let top := decimalExponent (r.middle * Nat.pow 2 r.exponent.toNat) (Nat.pow 2 (-r.exponent).toNat)
  let fitting (n : Nat) : Option (Nat × Int) := (r.multiple? (top - n)).map fun c => (c, top - n)
  ((List.range 17).findSome? fitting).getD (0, 0)

def text (x : Double) : List Char :=
  -- Positional from `10 ^ -5` up to `10 ^ 16`, else with an exponent.
  let sign := if x.negative then ['-'] else []
  if x.magnitude = 0 then sign ++ ['0', '.', '0']
  else
    let (c, k) := x.shortest
    let digits := Nat.toDigits 10 c
    let point : Int := k + digits.length
    if point - 1 < -5 ∨ 15 < point - 1 then
      let mark := if point - 1 < 0 then '-' else '+'
      let shown := digits.reverse.dropWhile (· == '0') |>.reverse
      let fraction := if shown.length ≤ 1 then [] else '.' :: shown.drop 1
      sign ++ shown.take 1 ++ fraction ++ 'e' :: mark :: Nat.toDigits 10 (point - 1).natAbs
    else if 0 ≤ k then sign ++ digits ++ List.replicate k.toNat '0' ++ ['.', '0']
    else if 0 < point then sign ++ digits.take point.toNat ++ '.' :: digits.drop point.toNat
    else sign ++ '0' :: '.' :: (List.replicate (-point).toNat '0' ++ digits)

end Double

namespace Numeral

def isDigit (c : Char) : Bool := '0' ≤ c && c ≤ '9'

def digit (c : Char) : Nat := c.toNat - '0'.toNat

def gather (limit : Nat) : Nat → Nat → List Char → Nat × Nat
  -- Takes digits as long as the result fits 64 bits.
  | n, taken, c :: rest =>
    if n * 10 + digit c ≤ limit then gather limit (n * 10 + digit c) (taken + 1) rest else (n, taken)
  | n, taken, [] => (n, taken)

def ofDigits (digits : List Char) : Nat := digits.foldl (fun n c => n * 10 + digit c) 0

def shrink (x : Double) (k : Nat) : Double :=
  if k ≤ 308 then x.dividedBy (Double.powerOfTen k)
  else if x.magnitude = 0 then x
  else shrink (x.dividedBy (Double.powerOfTen 308)) (k - 308)
termination_by k
decreasing_by omega

def scale (m : Nat) (e : Int) : Option Double :=
  -- The number and the power of ten are rounded before they are multiplied or divided.
  let x := Double.ofNat m
  if e < 0 then some (shrink x (-e).toNat)
  else if 308 < e then if m = 0 then some x else none
  else
    let y := x.times (Double.powerOfTen e.toNat)
    if y.isFinite then some y else none

def whole? (negative : Bool) (digits : List Char) : Option Value :=
  let (m, taken) := gather (Nat.pow 2 64 - 1) 0 0 digits
  if taken < digits.length then
    (scale m (digits.length - taken : Nat)).map fun x => .float (x.signed negative)
  else if !negative then some (.int m)
  else if m = 0 ∨ Nat.pow 2 63 < m then some (.float ((Double.ofNat m).signed true))
  else some (.int (-m))

def fractional? (negative : Bool) (digits fraction : List Char) (exponent : Int) : Option Value :=
  -- Digits that no longer fit 64 bits do not count, whole ones but for their place.
  let (m, taken) := gather (Nat.pow 2 64 - 1) 0 0 digits
  let (m, places) := gather (Nat.pow 2 64 - 1) m 0 fraction
  (scale m ((digits.length - taken : Nat) - places + exponent)).map fun x => .float (x.signed negative)

end Numeral

end Dialogue
