/- The instruction set. One byte names an instruction; most are followed by a selector byte that
   holds a slot id, the type of the operands and whether the operand stands in the code. -/
namespace ControlMachine

inductive Arithmetic where
  | add | sub | mul | div | mod
  deriving DecidableEq, Repr

inductive Bitwise where
  | and | or | xor | lshift | rshift
  deriving DecidableEq, Repr

inductive Opcode where
  | halt
  | arithmetic (op : Arithmetic)
  | bitwise (op : Bitwise)
  | not
  | load
  | multiload
  | push
  | pop
  | copy
  | jump
  | compare
  | call
  | ret
  | time
  | compareTime
  | urlMap
  | urlMapCheck
  | urlMapDelete
  | pidInit
  | pidClear
  | pidStop
  | pidRun
  | reset
  deriving DecidableEq, Repr

namespace Opcode

def all : List Opcode :=
  [halt, arithmetic .add, arithmetic .sub, arithmetic .mul, arithmetic .div, arithmetic .mod,
    bitwise .and, bitwise .or, not, bitwise .xor, bitwise .lshift, bitwise .rshift,
    load, multiload, push, pop, copy, jump, compare, call, ret, time, compareTime,
    urlMap, urlMapCheck, urlMapDelete, pidInit, pidClear, pidStop, pidRun, reset]

def byte : Opcode → UInt8
  | halt => 0x00
  | arithmetic .add => 0x01
  | arithmetic .sub => 0x02
  | arithmetic .mul => 0x03
  | arithmetic .div => 0x04
  | arithmetic .mod => 0x05
  | bitwise .and => 0x10
  | bitwise .or => 0x11
  | not => 0x12
  | bitwise .xor => 0x13
  | bitwise .lshift => 0x14
  | bitwise .rshift => 0x15
  | load => 0x20
  | multiload => 0x21
  | push => 0x30
  | pop => 0x31
  | copy => 0x40
  | jump => 0x51
  | compare => 0x52
  | call => 0x53
  | ret => 0x54
  | time => 0x60
  | compareTime => 0x61
  | urlMap => 0x70
  | urlMapCheck => 0x71
  | urlMapDelete => 0x72
  | pidInit => 0x80
  | pidClear => 0x82
  | pidStop => 0x83
  | pidRun => 0x84
  | reset => 0xFF

def mnemonic : Opcode → String
  | halt => "HALT"
  | arithmetic .add => "ADD"
  | arithmetic .sub => "SUB"
  | arithmetic .mul => "MUL"
  | arithmetic .div => "DIV"
  | arithmetic .mod => "MOD"
  | bitwise .and => "AND"
  | bitwise .or => "OR"
  | not => "NOT"
  | bitwise .xor => "XOR"
  | bitwise .lshift => "LSHIFT"
  | bitwise .rshift => "RSHIFT"
  | load => "LOAD"
  | multiload => "MULTILOAD"
  | push => "PUSH"
  | pop => "POP"
  | copy => "COPY"
  | jump => "JUMP"
  | compare => "COMPARE"
  | call => "CALL"
  | ret => "RETURN"
  | time => "TIME"
  | compareTime => "COMPARETIME"
  | urlMap => "URLMAP"
  | urlMapCheck => "URLMAPCHECK"
  | urlMapDelete => "URLMAPDELETE"
  | pidInit => "PIDINIT"
  | pidClear => "PIDCLEAR"
  | pidStop => "PIDSTOP"
  | pidRun => "PIDRUN"
  | reset => "RESET"

def ofByte? (b : UInt8) : Option Opcode := all.find? (·.byte == b)

theorem ofByte_byte (op : Opcode) : ofByte? op.byte = some op := by
  rcases op with _ | (_ | _ | _ | _ | _) | (_ | _ | _ | _ | _) | _ <;> decide

theorem byte_of_ofByte {b : UInt8} {op : Opcode} (h : ofByte? b = some op) : op.byte = b := by
  simpa using List.find?_some h

end Opcode
end ControlMachine
