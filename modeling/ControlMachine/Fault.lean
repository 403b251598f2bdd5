import ControlMachine.Text.Hex

/- What can go wrong while an instruction runs. A fault names its cause; the error code of the
   status word and the wording are functions of it. -/
namespace ControlMachine

inductive Access where
  | load | store | loadAddress | storeAddress | loadUnsigned | storeUnsigned
  | loadRational | storeRational | copy | writeBytes | readBytes | loadString | multiload | fetch
  deriving DecidableEq, Repr

def Access.name : Access → String
  | .load => "load"
  | .store => "store"
  | .loadAddress => "load_address"
  | .storeAddress => "store_address"
  | .loadUnsigned => "load_unsigned"
  | .storeUnsigned => "store_unsigned"
  | .loadRational => "load_rational"
  | .storeRational => "store_rational"
  | .copy => "copy"
  | .writeBytes => "write_bytes"
  | .readBytes => "read_bytes"
  | .loadString => "load_string"
  | .multiload => "multiload"
  | .fetch => "fetch"

inductive Resource where
  | pid | mapping
  deriving DecidableEq, Repr

def Resource.name : Resource → String
  | .pid => "pid"
  | .mapping => "mapping"

inductive Fault where
  | accessViolation (access : Access) (address width : Nat)
  | stackOverflow (capacity : Nat)
  | stackUnderflow
  | divideByZero
  | unsupportedOperand (mnemonic : String) (selector : UInt8)
  | unsupportedOperation (byte : UInt8)
  | idUnavailable (resource : Resource) (id : UInt8)
  | pidAlreadyInitialized (id : UInt8)
  | resetRequested
  deriving DecidableEq, Repr

/-- The low byte of the status word after the fault. Zero is kept for "no error". -/
def Fault.code : Fault → UInt8
  | .resetRequested => 1
  | .divideByZero => 2
  | .unsupportedOperand _ _ => 3
  | .unsupportedOperation _ => 4
  | .accessViolation _ _ _ => 5
  | .stackOverflow _ => 5
  | .stackUnderflow => 5
  | .idUnavailable _ _ => 6
  | .pidAlreadyInitialized _ => 7

def Fault.message : Fault → String
  | .accessViolation access address width =>
    s!"memory access violation ({access.name}) at 0x{Hex.upper 4 address}, width {width}"
  | .stackOverflow capacity => s!"stack overflow (capacity {capacity})"
  | .stackUnderflow => "stack underflow"
  | .divideByZero => "division by zero"
  | .unsupportedOperand mnemonic selector =>
    s!"unsupported operand type 0x{Hex.upper 2 selector.toNat} for {mnemonic}"
  | .unsupportedOperation byte => s!"unsupported operation 0x{Hex.upper 2 byte.toNat}"
  | .idUnavailable resource id => s!"{resource.name} id {id} unavailable"
  | .pidAlreadyInitialized id => s!"pid controller {id} already initialized"
  | .resetRequested => "reset requested"

theorem Fault.code_ne_zero (fault : Fault) : fault.code ≠ 0 := by
  cases fault <;> simp [Fault.code]

end ControlMachine
