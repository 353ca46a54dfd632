import Dialogue.Json.Number

/-! Dates and times of day in TOML. -/

namespace Dialogue.Toml

structure Bounds where
  lastHour : Nat
  distance : Nat → Nat → Bool

def Bounds.document : Bounds := ⟨23, fun hours minutes => hours ≤ 23 && minutes ≤ 59⟩

-- A day may end at hour 24, and a distance is a day at the most.
def Bounds.text : Bounds := ⟨24, fun hours minutes => hours * 60 + minutes ≤ 24 * 60⟩

def fixed? (s : List Char) : Option Nat :=
  if s.all Numeral.isDigit then some (Numeral.ofDigits s) else none

def daysIn (year month : Nat) : Nat :=
  if month = 2 then
    if year % 4 = 0 ∧ (year % 100 ≠ 0 ∨ year % 400 = 0) then 29 else 28
  else if month ∈ [4, 6, 9, 11] then 30 else 31

def isDate : List Char → Bool
  | [y₁, y₂, y₃, y₄, '-', m₁, m₂, '-', d₁, d₂] =>
    match fixed? [y₁, y₂, y₃, y₄], fixed? [m₁, m₂], fixed? [d₁, d₂] with
    | some year, some month, some day => 1 ≤ month ∧ month ≤ 12 ∧ 1 ≤ day ∧ day ≤ daysIn year month
    | _, _, _ => false
  | _ => false

def clock? : List Char → Option (Nat × Nat × List Char)
  | h₁ :: h₂ :: ':' :: m₁ :: m₂ :: rest =>
    match fixed? [h₁, h₂], fixed? [m₁, m₂] with
    | some hours, some minutes => some (hours, minutes, rest)
    | _, _ => none
  | _ => none

def skipFraction : List Char → Option (List Char)
  | '.' :: c :: rest => if Numeral.isDigit c then some (rest.dropWhile Numeral.isDigit) else none
  | '.' :: [] => none
  | rest => some rest

namespace Bounds

variable (bounds : Bounds)

def skipTime (s : List Char) : Option (List Char) :=
  match clock? s with
  | some (hours, minutes, ':' :: s₁ :: s₂ :: rest) =>
    match fixed? [s₁, s₂] with
    | some seconds =>
      if hours ≤ bounds.lastHour ∧ minutes ≤ 59 ∧ seconds ≤ 60 then skipFraction rest else none
    | none => none
  | _ => none

def isTime (s : List Char) : Bool := bounds.skipTime s = some []

def isDistance (s : List Char) : Bool :=
  match clock? s with
  | some (hours, minutes, []) => bounds.distance hours minutes
  | _ => false

def isZonedTime (s : List Char) : Bool :=
  match bounds.skipTime s with
  | some [] => true
  | some [c] => c = 'Z' || c = 'z'
  | some (c :: rest) => (c = '+' || c = '-') && bounds.isDistance rest
  | none => false

def isDateTime (s : List Char) : Bool :=
  bounds.isTime s || isDate (s.take 10) &&
    match s.drop 10 with
    | [] => true
    | c :: rest => (c = 'T' || c = 't' || c = ' ') && bounds.isZonedTime rest

end Bounds

end Dialogue.Toml
