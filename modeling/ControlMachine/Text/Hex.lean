/- Hexadecimal text: numbers with a least number of digits, and single digits read back. -/
namespace ControlMachine.Hex

def lower (n : Nat) : String := String.ofList (Nat.toDigits 16 n)

def upper (width n : Nat) : String :=
  String.ofList (((Nat.toDigits 16 n).map Char.toUpper).leftpad width '0')

/-- Digits are ASCII only, of either case. -/
def digit? (c : Char) : Option Nat :=
  if '0' ≤ c ∧ c ≤ '9' then some (c.toNat - '0'.toNat)
  else if 'a' ≤ c ∧ c ≤ 'f' then some (c.toNat - 'a'.toNat + 10)
  else if 'A' ≤ c ∧ c ≤ 'F' then some (c.toNat - 'A'.toNat + 10)
  else none

end ControlMachine.Hex
