import ControlMachine.Number.Rational
import ControlMachine.Binary.Arithmetic

/- Single precision binary floating point. The bits are kept, so that a copy of a not-a-number is
   the same not-a-number. -/
namespace ControlMachine

structure Single where
  bits : UInt32
  deriving DecidableEq, Repr

namespace Single

def value (x : Single) : Datum := binary32.decode x.bits.toNat

def ofValue (d : Datum) : Single := ⟨UInt32.ofNat (binary32.encode d)⟩

instance : Zero Single := ⟨⟨0⟩⟩
instance : Neg Single := ⟨fun a => ⟨a.bits ^^^ 0x80000000⟩⟩
instance : Add Single := ⟨fun a b => ofValue (a.value.add binary32 b.value)⟩
instance : Sub Single := ⟨fun a b => ofValue (a.value.sub binary32 b.value)⟩
instance : Mul Single := ⟨fun a b => ofValue (a.value.mul binary32 b.value)⟩
instance : Div Single := ⟨fun a b => ofValue (a.value.div binary32 b.value)⟩

instance : Rational Single where
  name := "f32"
  ofBits := Single.mk
  toBits := Single.bits
  remainder a b := ofValue (a.value.rem binary32 b.value)
  order a b := a.value.compare? b.value
  toDouble := value
  ofDouble := ofValue
  shown := binary32
  toBits_ofBits _ := rfl
  ofBits_toBits _ := rfl

end Single
end ControlMachine
