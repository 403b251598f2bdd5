import ControlMachine.Binary.Format

/- What the machine asks of its rational numbers. Each is four bytes wide, so a number and a
   32-bit word are one and the same in memory. -/
namespace ControlMachine

class Rational (R : Type) extends Zero R, Neg R, Add R, Sub R, Mul R, Div R where
  name : String
  ofBits : UInt32 → R
  toBits : R → UInt32
  /-- What is left of a dividend, with the sign of the dividend. -/
  remainder : R → R → R
  /-- Nothing is ordered against a not-a-number. -/
  order : R → R → Option Ordering
  /-- The number in double precision, where it is exact. -/
  toDouble : R → Datum
  ofDouble : Datum → R
  /-- The format whose shortest decimals name the numbers. -/
  shown : Format
  toBits_ofBits : ∀ bits, toBits (ofBits bits) = bits
  ofBits_toBits : ∀ x, ofBits (toBits x) = x

namespace Rational
variable {R : Type} [Rational R]

def less (a b : R) : Bool := order a b == some .lt

def greater (a b : R) : Bool := order a b == some .gt

def same (a b : R) : Bool := order a b == some .eq

def isZero (a : R) : Bool := same a 0

def isNegative (a : R) : Bool := less a 0

/-- A not-a-number is left as it is. -/
def clamp (x low high : R) : R :=
  if greater x high then high else if less x low then low else x

end Rational
end ControlMachine
