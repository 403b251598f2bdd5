import ControlMachine.Decimal.Positional

/- The decimal with the fewest digits among those that round to a number of a format; among those
   of that length the nearest, and of two as near the greater. -/
namespace ControlMachine.Decimal
open Datum

def floorLog10 (num den : Nat) : Int :=
  if den ≤ num then (Nat.toDigits 10 (num / den)).length - 1
  else -((Nat.toDigits 10 ((den - 1) / num)).length : Int)

/-- The numbers that round to `m * 2 ^ e`, in quarters of its last place. Below a power of two the
    places are half as wide. The ends belong to the range if the significand is even. -/
structure Neighbourhood where
  low : Nat
  middle : Nat
  high : Nat
  closed : Bool

def neighbourhood (f : Format) (m : Nat) (e : Int) : Neighbourhood where
  low := if m = f.leading ∧ f.least < e then 4 * m - 1 else 4 * m - 2
  middle := 4 * m
  high := 4 * m + 2
  closed := m % 2 == 0

/-- The best multiple of `down / up` in the neighbourhood, if there is one: it is next to the
    middle. -/
def Neighbourhood.onGrid (n : Neighbourhood) (up down : Nat) : Option Nat :=
  let inside (c : Nat) : Bool :=
    if n.closed then n.low * up ≤ c * down ∧ c * down ≤ n.high * up
    else n.low * up < c * down ∧ c * down < n.high * up
  let c := n.middle * up / down
  match inside c, inside (c + 1) with
  | true, true => some (if 2 * (n.middle * up) < (2 * c + 1) * down then c else c + 1)
  | true, false => some c
  | false, true => some (c + 1)
  | false, false => none

def digitBound (f : Format) : Nat := f.precision * 30103 / 100000 + 2

def shortest (f : Format) (m : Nat) (e : Int) : Decimal :=
  let n := neighbourhood f m e
  let quarter := e - 2
  let top := floorLog10 (numerator m e) (denominator e) + 1
  let grid (i : Nat) : Option Decimal :=
    let exponent := top - i
    let up := twos quarter * tens (-exponent)
    let down := twos (-quarter) * tens exponent
    (n.onGrid up down).map fun digits => ⟨digits, exponent⟩
  ((List.range (digitBound f + 1)).findSome? grid).getD
    ⟨numerator m e * Nat.pow 5 (-e).toNat, -((-e).toNat : Int)⟩

def shortestText (f : Format) (d : Datum) : String :=
  (f.roundDatum d).text fun m e => if m = 0 then "0" else (shortest f m e).text

end ControlMachine.Decimal
