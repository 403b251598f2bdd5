/- Numbers with a power of two, and the formats that hold some of them. Rounding takes an exact
   quotient to the nearest number of a format; of two as near, the one with the even significand. -/
namespace ControlMachine

inductive Datum where
  | nan
  | infinite (negative : Bool)
  /-- The number `significand * 2 ^ exponent` under a sign; zero has a sign as well. -/
  | finite (negative : Bool) (significand : Nat) (exponent : Int)
  deriving DecidableEq, Repr

/-- Two to a power, which below zero counts as zero. -/
def twos (e : Int) : Nat := Nat.pow 2 e.toNat

namespace Datum

def ofNat (n : Nat) : Datum := .finite false n 0

def ofInt (i : Int) : Datum := .finite (decide (i < 0)) i.natAbs 0

/-- The magnitude `m * 2 ^ e` is `numerator m e / denominator e`. -/
def numerator (m : Nat) (e : Int) : Nat := m * twos e

def denominator (e : Int) : Nat := twos (-e)

end Datum

/-- The nearest whole number to a quotient, a half going to the even neighbour. -/
def roundEven (num den : Nat) : Nat :=
  let q := num / den
  let r := num % den
  if 2 * r < den then q else if den < 2 * r then q + 1 else q + q % 2

def floorLog2 (num den : Nat) : Int :=
  let guess : Int := num.log2 - den.log2
  if den * twos guess ≤ num * twos (-guess) then guess else guess - 1

/-- A binary interchange format: a sign bit, an exponent field, and a fraction field that leaves
    out the leading bit of the significand. -/
structure Format where
  precision : Nat
  exponentBits : Nat
  deriving DecidableEq, Repr

def binary32 : Format := ⟨24, 8⟩
def binary64 : Format := ⟨53, 11⟩

namespace Format
open Datum

def least (f : Format) : Int := 3 - twos (f.exponentBits - 1) - f.precision

def greatest (f : Format) : Int := twos (f.exponentBits - 1) - f.precision

def round (f : Format) (negative : Bool) (num den : Nat) : Datum :=
  if num = 0 then .finite negative 0 f.least
  else
    let place := max f.least (floorLog2 num den - (f.precision - 1))
    let m := roundEven (num * twos (-place)) (den * twos place)
    let carried := m = twos f.precision
    let last := if carried then place + 1 else place
    if f.greatest < last then .infinite negative
    else .finite negative (if carried then m / 2 else m) last

def roundDatum (f : Format) : Datum → Datum
  | .finite negative m e => f.round negative (numerator m e) (denominator e)
  | d => d

def fractionBits (f : Format) : Nat := f.precision - 1

def leading (f : Format) : Nat := twos f.fractionBits

def exponentMask (f : Format) : Nat := twos f.exponentBits - 1

def signBit (f : Format) (negative : Bool) : Nat :=
  if negative then twos (f.fractionBits + f.exponentBits) else 0

/-- The bits of a datum, rounded first. A not-a-number is the positive quiet one. -/
def encode (f : Format) (d : Datum) : Nat :=
  match f.roundDatum d with
  | .nan => f.exponentMask * f.leading + f.leading / 2
  | .infinite negative => f.signBit negative + f.exponentMask * f.leading
  | .finite negative m e =>
    f.signBit negative +
      (if m < f.leading then m
      else (e - f.least).toNat * f.leading + m)

def decode (f : Format) (bits : Nat) : Datum :=
  let negative := bits / twos (f.fractionBits + f.exponentBits) % 2 = 1
  let field := bits / f.leading % twos f.exponentBits
  let fraction := bits % f.leading
  if field = f.exponentMask then
    if fraction = 0 then .infinite negative else .nan
  else if field = 0 then .finite negative fraction f.least
  else .finite negative (f.leading + fraction) (f.least + (field - 1 : Nat))

end Format
end ControlMachine
