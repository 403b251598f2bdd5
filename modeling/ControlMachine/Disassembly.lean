import ControlMachine.Opcode
import ControlMachine.Fetch
import ControlMachine.Mapping
import ControlMachine.Number.Rational
import ControlMachine.Decimal.Shortest
import ControlMachine.Text.Quoted
import ControlMachine.Text.Utf8

/- Programs as text, one line for each instruction, from the first byte to the first instruction
   that cannot be read. -/
namespace ControlMachine

/-- A type that the selector does not name, or that the instruction does not take, is a fault. -/
def Opcode.dataType (op : Opcode) (s : Selector) : Except Fault DataType :=
  match s.dataType? with
  | some type => .ok type
  | none => .error (.unsupportedOperand op.mnemonic s.byte)

namespace Disassembly
open Fetch

def addressText (address : UInt16) : String := "0x" ++ Hex.upper 4 address.toNat

def pointer (code : Code) : Fetch String := do
  return "[" ++ addressText (← address code) ++ "]"

/-- A value in the code is shown byte by byte, an operand elsewhere by its address. -/
def operandText (code : Code) (s : Selector) (width : Nat) : Fetch String := do
  if s.isLiteral then
    return "#" ++ String.join ((← bytes code width).map fun b => Hex.upper 2 b.toNat)
  else pointer code

def stringText (code : Code) (literal : Bool) : Fetch String := do
  if literal then return Quoted.text (Utf8.lossy (← text code)).toList
  else pointer code

def operandTexts (code : Code) (s : Selector) (width : Nat) : Nat → Fetch (List String)
  | 0 => return []
  | n + 1 => do
    let first ← operandText code s width
    return first :: (← operandTexts code s width n)

def numberText (R : Type) [Rational R] (code : Code) : Fetch String := do
  let x : R := Rational.ofBits (UInt32.ofNat (LittleEndian.value (← bytes code 4)))
  return Decimal.shortestText binary64 (Rational.toDouble x)

def typedText (code : Code) (op : Opcode) : Fetch String := do
  let s ← selector code
  let type ← lift (op.dataType s)
  let dest ← address code
  let value ← operandText code s type.bytes
  return s!".{type.name} {addressText dest}, {value}"

def pidText (R : Type) [Rational R] (code : Code) : Fetch String := do
  let id := (← selector code).id
  let input := addressText (← address code)
  let output := addressText (← address code)
  let setpoint := addressText (← address code)
  let kp ← numberText R code
  let ki ← numberText R code
  let kd ← numberText R code
  let sample ← unsigned code
  let lower ← numberText R code
  let upper ← numberText R code
  let direction ← byte code
  return s!" id={id} in={input} out={output} set={setpoint} k=({kp}, {ki}, {kd}) {sample}ms " ++
    s!"[{lower}, {upper}] dir={direction}"

def operands (R : Type) [Rational R] (code : Code) (op : Opcode) : Fetch String := do
  match op with
  | .halt | .reset | .ret | .push | .pop => return ""
  | .arithmetic _ | .bitwise _ | .load => typedText code op
  | .compare =>
    let cells ← typedText code op
    let less := addressText (← address code)
    let equal := addressText (← address code)
    let greater := addressText (← address code)
    return s!"{cells} ? {less} : {equal} : {greater}"
  | .not =>
    let s ← selector code
    let type ← lift (op.dataType s)
    let dest := addressText (← address code)
    return s!".{type.name} {dest}"
  | .multiload =>
    let s ← selector code
    let type ← lift (op.dataType s)
    let dest := addressText (← address code)
    let count ← byte code
    let values ← operandTexts code s type.bytes count.toNat
    return s!".{type.name} {dest}" ++ String.join (values.map (", " ++ ·))
  | .copy =>
    let source := addressText (← address code)
    let length ← byte code
    let dest := addressText (← address code)
    return s!" {source}, {length}, {dest}"
  | .jump =>
    let s ← selector code
    return " " ++ (← operandText code s 2)
  | .call | .time => return " " ++ addressText (← address code)
  | .compareTime =>
    let stamp := addressText (← address code)
    let timeout ← unsigned code
    let expired := addressText (← address code)
    let pending := addressText (← address code)
    return s!" {stamp}, {timeout}ms ? {expired} : {pending}"
  | .urlMap =>
    let id := (← selector code).id
    let options ← byte code
    let value := addressText (← address code)
    let port ← address code
    let url ← stringText code (Mapping.urlIsLiteral options)
    let resource ← stringText code (Mapping.resourceIsLiteral options)
    return s!" id={id} opt=0x{Hex.upper 2 options.toNat} value={value} port={port} " ++
      s!"{url} {resource}"
  | .urlMapCheck =>
    let id := (← selector code).id
    let dest := addressText (← address code)
    return s!" id={id} -> {dest}"
  | .urlMapDelete | .pidClear | .pidStop | .pidRun =>
    let id := (← selector code).id
    return s!" id={id}"
  | .pidInit => pidText R code

structure Line where
  opcode : Opcode
  operands : String
  deriving DecidableEq, Repr

def Line.text (l : Line) : String := l.opcode.mnemonic ++ l.operands

def instruction (R : Type) [Rational R] (code : Code) : Fetch Line := do
  let b ← byte code
  match Opcode.ofByte? b with
  | some op => return ⟨op, ← operands R code op⟩
  | none => throw (.unsupportedOperation b)

/-- Every instruction is at least a byte long, so there are no more of them than bytes. -/
def linesFrom (R : Type) [Rational R] (program : Array UInt8) :
    Nat → UInt16 → List (UInt16 × String)
  | 0, _ => []
  | bytes + 1, pc =>
    if pc.toNat < program.size then
      match instruction R (Code.ofArray program) pc with
      | .ok line next => (pc, line.text) :: linesFrom R program bytes next
      | .error fault _ => [(pc, "?? " ++ fault.message)]
    else []

end Disassembly

def disassemble (R : Type) [Rational R] (program : Array UInt8) : List (UInt16 × String) :=
  Disassembly.linesFrom R program program.size 0

end ControlMachine
