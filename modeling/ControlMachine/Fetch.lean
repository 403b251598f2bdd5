import ControlMachine.Fault
import ControlMachine.DataType
import ControlMachine.LittleEndian

/- Reading the fields of instructions one after the other. The state is the address of the first
   byte not yet read, and a fault leaves it where reading stopped. -/
namespace ControlMachine

abbrev Code := UInt16 → Except Fault UInt8

def Code.ofArray (program : Array UInt8) : Code := fun address =>
  match program[address.toNat]? with
  | some b => .ok b
  | none => .error (.accessViolation .fetch address.toNat 1)

abbrev Fetch := EStateM Fault UInt16

namespace Fetch

/-- Moves past so many bytes and gives the address of the first. Past 0xFFFF there is no address. -/
def advance (width : Nat) : Fetch UInt16 := fun pc =>
  if pc.toNat + width ≤ 0xFFFF then .ok pc (pc + UInt16.ofNat width)
  else .error (.accessViolation .fetch pc.toNat width) pc

def lift {α : Type} (result : Except Fault α) : Fetch α := fun pc =>
  match result with
  | .ok a => .ok a pc
  | .error fault => .error fault pc

def byte (code : Code) : Fetch UInt8 := do
  let b ← lift (code (← get))
  let _ ← advance 1
  return b

def bytes (code : Code) : Nat → Fetch (List UInt8)
  | 0 => return []
  | n + 1 => do
    let b ← byte code
    return b :: (← bytes code n)

def selector (code : Code) : Fetch Selector := Selector.mk <$> byte code

def address (code : Code) : Fetch UInt16 := do
  return UInt16.ofNat (LittleEndian.value (← bytes code 2))

def unsigned (code : Code) : Fetch UInt32 := do
  return UInt32.ofNat (LittleEndian.value (← bytes code 4))

/-- The address of a value in the code, which is skipped and not read. -/
def literal (width : Nat) : Fetch UInt16 := advance width

def operand (code : Code) (s : Selector) (width : Nat) : Fetch UInt16 :=
  if s.isLiteral then literal width else address code

def text (code : Code) (pc : UInt16) : EStateM.Result Fault UInt16 (List UInt8) :=
  match code pc with
  | .error fault => .error fault pc
  | .ok b =>
    if pc.toNat + 1 ≤ 0xFFFF then
      if b = 0 then .ok [] (pc + 1)
      else match text code (pc + 1) with
        | .ok rest next => .ok (b :: rest) next
        | .error fault next => .error fault next
    else .error (.accessViolation .fetch pc.toNat 1) pc
termination_by 0xFFFF - pc.toNat
decreasing_by
  have : (pc + 1).toNat = pc.toNat + 1 := by
    rw [UInt16.toNat_add, UInt16.toNat_one]
    omega
  omega

def string (code : Code) : Fetch UInt16 := do
  let start ← get
  let _ ← text code
  return start

end Fetch
end ControlMachine
