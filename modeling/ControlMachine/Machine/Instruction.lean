import ControlMachine.Machine.State
import ControlMachine.Opcode
import ControlMachine.Fetch
import ControlMachine.Disassembly
import ControlMachine.Clock

/- What each instruction does. Operands are read from memory as they are needed. Most kinds of
   instruction change one part of the machine, and that only if nothing goes wrong. -/
namespace ControlMachine

namespace Arithmetic

def onWords (op : Arithmetic) (a b : UInt32) : Except Fault UInt32 :=
  match op with
  | add => .ok (a + b)
  | sub => .ok (a - b)
  | mul => .ok (a * b)
  | div => if b = 0 then .error .divideByZero else .ok (a / b)
  | mod => if b = 0 then .error .divideByZero else .ok (a % b)

def onNumbers {R : Type} [Rational R] (op : Arithmetic) (a b : R) : Except Fault R :=
  match op with
  | add => .ok (a + b)
  | sub => .ok (a - b)
  | mul => .ok (a * b)
  | div => if Rational.isZero b then .error .divideByZero else .ok (a / b)
  | mod => if Rational.isZero b then .error .divideByZero else .ok (Rational.remainder a b)

end Arithmetic

/-- Shifts by the width of a word or more leave nothing. -/
def Bitwise.onWords (op : Bitwise) (a b : UInt32) : UInt32 :=
  match op with
  | and => a &&& b
  | or => a ||| b
  | xor => a ^^^ b
  | lshift => if b < 32 then a <<< b else 0
  | rshift => if b < 32 then a >>> b else 0

def Opcode.wordType (op : Opcode) (s : Selector) : Except Fault Width := do
  match ← op.dataType s with
  | .word width => return width
  | .rational => throw (.unsupportedOperand op.mnemonic s.byte)

namespace Memory

def arithmetic (R : Type) [Rational R] (m : Memory) (op : Arithmetic) (type : DataType)
    (dest source : UInt16) : Except Fault Memory := do
  match type with
  | .word width =>
    let b ← m.loadWord width source
    let a ← m.loadWord width dest
    m.storeWord width dest (← op.onWords a b)
  | .rational =>
    let b : R ← m.loadRational source
    let a : R ← m.loadRational dest
    m.storeRational dest (← op.onNumbers a b)

def bitwise (m : Memory) (op : Bitwise) (width : Width) (dest source : UInt16) :
    Except Fault Memory := do
  let b ← m.loadWord width source
  let a ← m.loadWord width dest
  m.storeWord width dest (op.onWords a b)

def complement (m : Memory) (width : Width) (dest : UInt16) : Except Fault Memory := do
  let a ← m.loadWord width dest
  m.storeWord width dest (~~~a)

def move (R : Type) [Rational R] (m : Memory) (type : DataType) (dest source : UInt16) :
    Except Fault Memory := do
  match type with
  | .word width => m.storeWord width dest (← m.loadWord width source)
  | .rational =>
    let value : R ← m.loadRational source
    m.storeRational dest value

/-- Numbers without an order count as equal. -/
def compareCells (R : Type) [Rational R] (m : Memory) (type : DataType) (dest source : UInt16) :
    Except Fault Ordering := do
  match type with
  | .word width =>
    let a ← m.loadWord width dest
    let b ← m.loadWord width source
    return compare a b
  | .rational =>
    let a : R ← m.loadRational dest
    let b : R ← m.loadRational source
    return (Rational.order a b).getD .eq

end Memory

namespace Machine
open Fetch
variable {R : Type} [Rational R]

def code (m : Machine R) : Code := m.memory.load

def changingMemory (m : Machine R) (act : Fetch Memory) : Outcome (Machine R) UInt16 :=
  match act (m.pc + 1) with
  | .ok memory next => .ok next (m.withMemory memory)
  | .error fault _ => .error fault m

def changingMappings (m : Machine R) (act : Fetch MappingTable) : Outcome (Machine R) UInt16 :=
  match act (m.pc + 1) with
  | .ok mappings next => .ok next (m.withMappings mappings)
  | .error fault _ => .error fault m

def changingBank (m : Machine R) (act : Fetch (Bank R)) : Outcome (Machine R) UInt16 :=
  match act (m.pc + 1) with
  | .ok bank next => .ok next { m with bank := bank }
  | .error fault _ => .error fault m

def branching (m : Machine R) (act : Fetch (UInt16 × CallStack)) : Outcome (Machine R) UInt16 :=
  match act (m.pc + 1) with
  | .ok (target, stack) _ => .ok target { m with stack := stack }
  | .error fault _ => .error fault m

def cells (code : Code) (s : Selector) (width : Nat) : Fetch (UInt16 × UInt16) := do
  let dest ← address code
  return (dest, ← operand code s width)

/-- Stores element after element. Operands are read from the memory that the earlier elements left,
    and elements before a fault stay stored. -/
def storeElements (R : Type) [Rational R] (type : DataType) (s : Selector) :
    Nat → Nat → Memory → UInt16 → Outcome (Memory × UInt16) Unit
  | 0, _, memory, pc => .ok () (memory, pc)
  | count + 1, target, memory, pc =>
    match operand memory.load s type.bytes pc with
    | .error fault pc => .error fault (memory, pc)
    | .ok source next =>
      if target ≤ 0xFFFF then
        match memory.move R type (UInt16.ofNat target) source with
        | .error fault => .error fault (memory, next)
        | .ok memory => storeElements R type s count (target + type.bytes) memory next
      else .error (.accessViolation .multiload target type.bytes) (memory, next)

def multiload (m : Machine R) : Outcome (Machine R) UInt16 :=
  let header : Fetch (Selector × DataType × UInt16 × UInt8) := do
    let s ← selector m.code
    let type ← lift (Opcode.multiload.dataType s)
    let dest ← address m.code
    return (s, type, dest, ← byte m.code)
  match header (m.pc + 1) with
  | .error fault _ => .error fault m
  | .ok (s, type, dest, count) pc =>
    match storeElements R type s count.toNat dest.toNat m.memory pc with
    | .ok () (memory, next) => .ok next (m.withMemory memory)
    | .error fault (memory, _) => .error fault (m.withMemory memory)

/-- Writes the status that a poll saw. The poll has given up a finished slot by then, also if the
    write fails. -/
def checkMapping (m : Machine R) : Outcome (Machine R) UInt16 :=
  let header : Fetch (UInt8 × UInt16) := do
    let s ← selector m.code
    return (s.id, ← address m.code)
  match header (m.pc + 1) with
  | .error fault _ => .error fault m
  | .ok (id, dest) next =>
    match m.store.mappings.check id true with
    | .error fault => .error fault m
    | .ok (status, mappings) =>
      match m.memory.store dest status with
      | .error fault => .error fault (m.withMappings mappings)
      | .ok memory => .ok next ((m.withMappings mappings).withMemory memory)

def changeMode (m : Machine R) (mode : Mode) : Outcome (Machine R) UInt16 :=
  match selector m.code (m.pc + 1) with
  | .error fault _ => .error fault m
  | .ok s next =>
    match m.bank.setMode s.id m.memory mode with
    | .ok () bank => .ok next { m with bank := bank }
    | .error fault bank => .error fault { m with bank := bank }

def inlineNumber (memory : Memory) : Fetch R := do
  lift (memory.loadRational (← literal 4))

def pidSettings (memory : Memory) : Fetch (PidSettings R) := do
  let input ← address memory.load
  let output ← address memory.load
  let setpoint ← address memory.load
  let kp ← inlineNumber memory
  let ki ← inlineNumber memory
  let kd ← inlineNumber memory
  let sampleMs ← unsigned memory.load
  let lower ← inlineNumber memory
  let upper ← inlineNumber memory
  let direction := Direction.ofByte (← byte memory.load)
  return ⟨input, output, setpoint, kp, ki, kd, sampleMs, direction, lower, upper⟩

/-- The id must exist before any of the settings is read. -/
def initHeader (m : Machine R) : Fetch (UInt8 × PidSettings R) := do
  let id := (← selector m.code).id
  let _ ← lift (m.bank.controller id)
  return (id, ← pidSettings m.memory)

def initController (m : Machine R) (clock : Clock) : Outcome (Machine R) UInt16 :=
  match m.initHeader (m.pc + 1) with
  | .error fault _ => .error fault m
  | .ok (id, settings) next =>
    match m.bank.init id m.store settings clock.millis with
    | .ok () (bank, memory) => .ok next { m.withMemory memory with bank := bank }
    | .error fault (bank, memory) => .error fault { m.withMemory memory with bank := bank }

def textAddress (code : Code) (literal : Bool) : Fetch UInt16 :=
  if literal then string code else address code

def execute (m : Machine R) (clock : Clock) (op : Opcode) : Outcome (Machine R) UInt16 :=
  let memory := m.memory
  let code := m.code
  match op with
  | .halt => .ok m.pc { m with flags := { m.flags with halted := true } }
  | .arithmetic a => m.changingMemory do
    let s ← selector code
    let type ← lift (op.dataType s)
    let (dest, source) ← cells code s type.bytes
    lift (memory.arithmetic R a type dest source)
  | .bitwise b => m.changingMemory do
    let s ← selector code
    let width ← lift (op.wordType s)
    let (dest, source) ← cells code s width.bytes
    lift (memory.bitwise b width dest source)
  | .not => m.changingMemory do
    let width ← lift (op.wordType (← selector code))
    lift (memory.complement width (← address code))
  | .load => m.changingMemory do
    let s ← selector code
    let type ← lift (op.dataType s)
    let (dest, source) ← cells code s type.bytes
    lift (memory.move R type dest source)
  | .multiload => m.multiload
  | .push | .pop => .error (.unsupportedOperation op.byte) m
  | .copy => m.changingMemory do
    let source ← address code
    let length ← byte code
    lift (memory.copy source length (← address code))
  | .jump => m.branching do
    let s ← selector code
    return (← lift (memory.loadAddress (← operand code s 2)), m.stack)
  | .compare => m.branching do
    let s ← selector code
    let type ← lift (op.dataType s)
    let (dest, source) ← cells code s type.bytes
    let order ← lift (memory.compareCells R type dest source)
    let less ← address code
    let equal ← address code
    let greater ← address code
    return (match order with | .lt => less | .eq => equal | .gt => greater, m.stack)
  | .call => m.branching do
    let target ← address code
    return (target, ← lift (m.stack.push (← get)))
  | .ret => m.branching (lift m.stack.pop)
  | .time => m.changingMemory do
    lift (memory.storeUnsigned (← address code) clock.micros.toUInt32)
  | .compareTime => m.branching do
    let stamp ← address code
    let timeoutMs ← unsigned code
    let expired ← address code
    let pending ← address code
    let elapsed := clock.micros.toUInt32 - (← lift (memory.loadUnsigned stamp))
    return (if timeoutMs.toNat * 1000 ≤ elapsed.toNat then expired else pending, m.stack)
  | .urlMap => m.changingMappings do
    let s ← selector code
    let options ← byte code
    let value ← address code
    let port ← address code
    let url ← textAddress code (Mapping.urlIsLiteral options)
    let resource ← textAddress code (Mapping.resourceIsLiteral options)
    lift (m.store.mappings.map s.id s.byte options value port url resource)
  | .urlMapCheck => m.checkMapping
  | .urlMapDelete => m.changingMappings do
    lift (m.store.mappings.unmap (← selector code).id)
  | .pidInit => m.initController clock
  | .pidClear => m.changingBank do
    lift (m.bank.clear (← selector code).id)
  | .pidStop => m.changeMode .manual
  | .pidRun => m.changeMode .automatic
  | .reset => .error .resetRequested
      { m with store := m.store.clear, stack := m.stack.clear, bank := m.bank.clearAll }

end Machine
end ControlMachine
