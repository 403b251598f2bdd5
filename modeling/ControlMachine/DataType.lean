/- Types of cells and the selector byte: bits 4 to 7 are an id, bits 1 to 3 a type, and bit 0
   says whether the operand stands in the code. -/
namespace ControlMachine

inductive Width where
  | one | two | four
  deriving DecidableEq, Repr

def Width.bytes : Width → Nat
  | .one => 1
  | .two => 2
  | .four => 4

inductive DataType where
  | word (width : Width)
  | rational
  deriving DecidableEq, Repr

def DataType.bytes : DataType → Nat
  | .word width => width.bytes
  | .rational => 4

def DataType.name : DataType → String
  | .word .one => "u8"
  | .word .two => "u16"
  | .word .four => "u32"
  | .rational => "rational"

structure Selector where
  byte : UInt8
  deriving DecidableEq, Repr

namespace Selector

def id (s : Selector) : UInt8 := s.byte >>> 4

def isLiteral (s : Selector) : Bool := s.byte &&& 1 == 1

def dataType? (s : Selector) : Option DataType :=
  match s.byte &&& 0x0E with
  | 0x00 => some (.word .four)
  | 0x02 => some .rational
  | 0x04 => some (.word .one)
  | 0x06 => some (.word .two)
  | _ => none

end Selector
end ControlMachine
