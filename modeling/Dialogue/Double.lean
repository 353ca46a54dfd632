/-! Binary numbers of 64 bits: every operation is exact on integers and rounds once, to the nearest. -/

namespace Dialogue

structure Double where
  bits : UInt64
deriving DecidableEq, Inhabited, Repr

namespace Double

def ofMagnitude (negative : Bool) (magnitude : Nat) : Double :=
  ⟨UInt64.ofNat (if negative then Nat.pow 2 63 + magnitude else magnitude)⟩

def zero : Double := ⟨0⟩

def infinity : Double := ⟨0x7ff0000000000000⟩

def nan : Double := ⟨0x7ff8000000000000⟩

def negative (x : Double) : Bool := Nat.pow 2 63 ≤ x.bits.toNat

def magnitude (x : Double) : Nat := x.bits.toNat % Nat.pow 2 63

def isFinite (x : Double) : Bool := x.magnitude < infinity.bits.toNat

def isNaN (x : Double) : Bool := infinity.bits.toNat < x.magnitude

def signed (x : Double) (negative : Bool) : Double := ofMagnitude negative x.magnitude

def significand (x : Double) : Nat :=
  -- A finite number has the absolute value `significand * 2 ^ exponent`.
  if x.magnitude < Nat.pow 2 52 then x.magnitude else Nat.pow 2 52 + x.magnitude % Nat.pow 2 52

def exponent (x : Double) : Int := max 1 (x.magnitude / Nat.pow 2 52 : Nat) - 1075

def same (x y : Double) : Bool :=
  -- The two zeros are equal and NaN differs from itself.
  !x.isNaN && (x == y || x.magnitude == 0 && y.magnitude == 0)

def unitsBelow (num den : Nat) (e : Int) : Nat :=
  num * Nat.pow 2 (-e).toNat / (den * Nat.pow 2 e.toNat)

def unitsNearest (num den : Nat) (e : Int) : Nat :=
  let n := num * Nat.pow 2 (-e).toNat
  let d := den * Nat.pow 2 e.toNat
  let rest := 2 * (n % d)
  if d < rest ∨ (rest = d ∧ n / d % 2 = 1) then n / d + 1 else n / d

def ofRatio (negative : Bool) (num den : Nat) : Double :=
  -- Of two nearest numbers the one with the even significand.
  if num = 0 then ofMagnitude negative 0
  else
    let low : Int := max ((num.log2 : Int) - den.log2 - 53) (-1074)
    let e := if Nat.pow 2 53 ≤ unitsBelow num den low then low + 1 else low
    ofMagnitude negative
      (min (unitsNearest num den e + (e + 1074).toNat * Nat.pow 2 52) infinity.bits.toNat)

def ofNat (n : Nat) : Double := ofRatio false n 1

def ofDecimal (negative : Bool) (m : Nat) (e : Int) : Double :=
  if m = 0 ∨ e < -(400 + m.log2 : Int) then ofMagnitude negative 0
  else if 400 < e then ofMagnitude negative infinity.bits.toNat
  else ofRatio negative (m * Nat.pow 10 e.toNat) (Nat.pow 10 (-e).toNat)

def times (x y : Double) : Double :=
  let e := x.exponent + y.exponent
  ofRatio false (x.significand * y.significand * Nat.pow 2 e.toNat) (Nat.pow 2 (-e).toNat)

def dividedBy (x y : Double) : Double :=
  let e := x.exponent - y.exponent
  ofRatio false (x.significand * Nat.pow 2 e.toNat) (y.significand * Nat.pow 2 (-e).toNat)

def powerOfTen (k : Nat) : Double := ofNat (Nat.pow 10 k)

def roundToNat (x : Double) : Nat :=
  if x.negative || x.isNaN then 0
  else if x.exponent < 0 then
    (2 * x.significand + Nat.pow 2 (-x.exponent).toNat) / (2 * Nat.pow 2 (-x.exponent).toNat)
  else x.significand * Nat.pow 2 x.exponent.toNat

end Double

end Dialogue
