import ControlMachine.Number.Rational
import ControlMachine.Binary.Arithmetic
import ControlMachine.Decimal.Shortest
import ControlMachine.Text.Hex

/- Signed fixed point with 24 whole and 8 fraction bits. Sums and products keep their low 32 bits;
   products, quotients and conversions drop fractions toward zero. -/
namespace ControlMachine

structure Fixed where
  raw : Int32
  deriving DecidableEq, Repr

namespace Fixed

/-- The number `units / 256`, units taken modulo 2^32. -/
def ofUnits (units : Int) : Fixed := ⟨Int32.ofInt units⟩

def units (x : Fixed) : Int := x.raw.toInt

def ofInt32 (n : Int32) : Fixed := ofUnits (n.toInt * 256)

def greatest : Fixed := ⟨Int32.maxValue⟩
def least : Fixed := ⟨Int32.minValue⟩

instance : Zero Fixed := ⟨⟨0⟩⟩
instance : Neg Fixed := ⟨fun a => ofUnits (-a.units)⟩
instance : Add Fixed := ⟨fun a b => ofUnits (a.units + b.units)⟩
instance : Sub Fixed := ⟨fun a b => ofUnits (a.units - b.units)⟩
instance : Mul Fixed := ⟨fun a b => ofUnits ((a.units * b.units).tdiv 256)⟩

/-- A zero divisor gives the limit on the dividend's side. -/
instance : Div Fixed := ⟨fun a b =>
  if b.units = 0 then if a.units < 0 then least else greatest
  else ofUnits ((a.units * 256).tdiv b.units)⟩

def remainder (a b : Fixed) : Fixed :=
  if b.units = 0 then 0 else ofUnits (a.units.tmod b.units)

def toDouble (x : Fixed) : Datum := .finite (decide (x.units < 0)) x.units.natAbs (-8)

/-- Numbers out of range go to the nearer limit; a not-a-number goes to zero. -/
def ofDouble : Datum → Fixed
  | .nan => 0
  | .infinite negative => if negative then least else greatest
  | .finite negative m e =>
    ofUnits (max least.units (min greatest.units (Datum.truncate negative m (e + 8))))

instance : Rational Fixed where
  name := "fixed24.8"
  ofBits bits := ⟨bits.toInt32⟩
  toBits x := x.raw.toUInt32
  remainder := remainder
  order a b := some (compare a.units b.units)
  toDouble := toDouble
  ofDouble := ofDouble
  shown := binary64
  toBits_ofBits _ := rfl
  ofBits_toBits _ := rfl

def debugText (x : Fixed) : String :=
  s!"Fixed8({Decimal.shortestText binary64 x.toDouble} / 0x{Hex.upper 8 x.raw.toUInt32.toNat})"

end Fixed
end ControlMachine
