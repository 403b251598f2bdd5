import ControlMachine.Binary.Format

/- Decimals written out by place, never with an exponent. -/
namespace ControlMachine

/-- The number `digits * 10 ^ exponent`. -/
structure Decimal where
  digits : Nat
  exponent : Int
  deriving DecidableEq, Repr

def tens (e : Int) : Nat := Nat.pow 10 e.toNat

namespace Decimal

/-- Digits with a point before the last `places`, at least one digit standing before it. -/
def pointed (digits places : Nat) : String :=
  let all := (Nat.toDigits 10 digits).leftpad (places + 1) '0'
  let whole := all.length - places
  if places = 0 then String.ofList all
  else String.ofList (all.take whole ++ '.' :: all.drop whole)

def text (d : Decimal) : String :=
  pointed (d.digits * tens d.exponent) (-d.exponent).toNat

def signed (negative : Bool) (magnitude : String) : String :=
  if negative then "-" ++ magnitude else magnitude

end Decimal

def Datum.text (digits : Nat → Int → String) : Datum → String
  | .nan => "NaN"
  | .infinite negative => Decimal.signed negative "inf"
  | .finite negative m e => Decimal.signed negative (digits m e)

end ControlMachine
