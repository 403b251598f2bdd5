import ControlMachine.Outcome
import ControlMachine.Store
import ControlMachine.CallStack
import ControlMachine.Pid.Bank

/- The state of a machine: what it shares with others, its stack and its registers. -/
namespace ControlMachine

structure Flags where
  halted : Bool
  error : Bool
  divideByZero : Bool
  deriving DecidableEq, Repr

def Flags.clean : Flags := ⟨false, false, false⟩

def Flags.byte (f : Flags) : UInt8 :=
  (if f.halted then 0x01 else 0) ||| (if f.error then 0x02 else 0) |||
    (if f.divideByZero then 0x04 else 0)

structure Status where
  pc : UInt16
  opcode : UInt8
  code : UInt8
  deriving DecidableEq, Repr

def Status.clean : Status := ⟨0, 0, 0⟩

def Status.word (s : Status) : UInt32 :=
  s.pc.toUInt32 <<< 16 ||| s.opcode.toUInt32 <<< 8 ||| s.code.toUInt32

structure Machine (R : Type) where
  store : Store
  bank : Bank R
  stack : CallStack
  pc : UInt16
  flags : Flags
  status : Status
  debug : Bool

namespace Machine
variable {R : Type} [Rational R]

def ofParts (store : Store) (bank : Bank R) (stackDepth : Nat) : Machine R :=
  ⟨store, bank, .ofCapacity stackDepth, 0, .clean, .clean, false⟩

def ofSizes (capacity mapSize pidCount stackDepth : Nat) : Machine R :=
  .ofParts (.ofSizes capacity mapSize) (.ofCount pidCount) stackDepth

def memory (m : Machine R) : Memory := m.store.memory

def isHalted (m : Machine R) : Bool := m.flags.halted

def withMemory (m : Machine R) (memory : Memory) : Machine R :=
  { m with store := { m.store with memory := memory } }

def withMappings (m : Machine R) (mappings : MappingTable) : Machine R :=
  { m with store := { m.store with mappings := mappings } }

def clear (m : Machine R) : Machine R :=
  { m with pc := 0, flags := .clean, status := .clean, stack := m.stack.clear }

def reset (m : Machine R) : Machine R :=
  { m with store := m.store.clear, bank := m.bank.clearAll }.clear

/-- Memory past the program and all mappings stay as they are. -/
def loadProgram (m : Machine R) (program : List UInt8) : Except Fault (Machine R) := do
  return (m.withMemory (← m.memory.writeBytes 0 program)).clear

def statusReport (m : Machine R) : List UInt8 := LittleEndian.bytes 4 m.status.word.toNat

end Machine
end ControlMachine
