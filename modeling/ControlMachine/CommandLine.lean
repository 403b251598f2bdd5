import ControlMachine.Config.Settings
import ControlMachine.Machine.Run
import ControlMachine.Disassembly
import ControlMachine.Number.Fixed
import ControlMachine.Text.HexProgram

/- The command line: running a program file and showing one as text. -/
namespace ControlMachine

structure World (μ : Type → Type) where
  read : String → μ (Except ReadFailure (List UInt8))
  clock : μ Clock
  pause : Nat → μ Unit

structure RunOptions where
  program : String
  hex : Bool
  steps : Nat
  config? : Option String
  memorySize? : Option Nat
  debug : Bool
  dump? : Option (UInt16 × Nat)
  deriving DecidableEq, Repr

inductive Command where
  | run (options : RunOptions)
  | disasm (program : String) (hex : Bool)
  deriving DecidableEq, Repr

structure Arguments where
  plain : List String
  options : List (String × Option String)

namespace Arguments

def isOption (arg : String) : Bool := arg.startsWith "-" && arg != "-"

def splitOption (arg : String) : String × Option String :=
  match arg.toList.span (· != '=') with
  | (name, _ :: value) => (String.ofList name, some (String.ofList value))
  | (name, []) => (String.ofList name, none)

/-- Options may stand anywhere before a double dash. A value follows its option, and only a single
    dash of all that starts with one is a value. -/
def sort? (flags valued : List String) : List String → Option Arguments
  | [] => some ⟨[], []⟩
  | "--" :: rest => some ⟨rest, []⟩
  | arg :: rest =>
    let (name, value?) := splitOption arg
    if !isOption arg then
      (sort? flags valued rest).map fun a => { a with plain := arg :: a.plain }
    else if flags.contains name then
      if value?.isSome then none
      else (sort? flags valued rest).map fun a => { a with options := (name, none) :: a.options }
    else if valued.contains name then
      match value?, rest with
      | some value, rest =>
        (sort? flags valued rest).map fun a =>
          { a with options := (name, some value) :: a.options }
      | none, value :: rest =>
        if isOption value then none
        else (sort? flags valued rest).map fun a =>
          { a with options := (name, some value) :: a.options }
      | none, [] => none
    else none

def distinct (a : Arguments) : Bool := decide (a.options.map (·.1)).Nodup

def has (a : Arguments) (name : String) : Bool := a.options.any (·.1 == name)

/-- The value of an option that may be missing, but not unreadable. -/
def value? {α : Type} (a : Arguments) (name : String) (read : String → Option α) :
    Option (Option α) :=
  match a.options.find? (·.1 == name) with
  | some (_, some text) => (read text).map some
  | _ => some none

def path? (a : Arguments) : Option String :=
  match a.plain with
  | [path] => if path.isEmpty then none else some path
  | _ => none

end Arguments

namespace Command

/-- Digits of a base after a plus sign or none, up to 2^64 - 1. -/
def natural? (base : Nat) (text : List Char) : Option Nat := do
  let digits := match text with
    | '+' :: rest => rest
    | rest => rest
  guard !digits.isEmpty
  let n ← digits.foldlM (fun n c => do
    let d ← Hex.digit? c
    guard (d < base)
    return n * base + d) 0
  guard (n ≤ 0xFFFFFFFFFFFFFFFF)
  return n

def count? (text : String) : Option Nat := natural? 10 text.toList

def number? : List Char → Option Nat
  | '0' :: 'x' :: rest => natural? 16 rest
  | '0' :: 'X' :: rest => natural? 16 rest
  | text => natural? 10 text

def range? (text : String) : Option (UInt16 × Nat) := do
  let (start, rest) := text.toList.span (· != ':')
  let _ :: length := rest | none
  let start ← number? start
  guard (start ≤ 0xFFFF)
  return (UInt16.ofNat start, ← number? length)

def file? (text : String) : Option String := if text.isEmpty then none else some text

def standardSteps : Nat := 1000000

def parse? : List String → Option Command
  | "run" :: args => do
    let a ← Arguments.sort? ["--hex", "--debug"]
      ["--steps", "--config", "--memory-size", "--dump"] args
    guard a.distinct
    return .run {
      program := ← a.path?
      hex := a.has "--hex"
      steps := (← a.value? "--steps" count?).getD standardSteps
      config? := ← a.value? "--config" file?
      memorySize? := ← a.value? "--memory-size" count?
      debug := a.has "--debug"
      dump? := ← a.value? "--dump" range? }
  | "disasm" :: args => do
    let a ← Arguments.sort? ["--hex"] [] args
    guard a.distinct
    return .disasm (← a.path?) (a.has "--hex")
  | _ => none

end Command

structure Output where
  exit : UInt32
  stdout : String
  stderr : String
  deriving DecidableEq, Repr

namespace Output

def lines (texts : List String) : String := String.join (texts.map (· ++ "\n"))

/-- Causes are named from the outermost to the innermost. -/
def fatal (causes : List String) : Output :=
  ⟨1, "", "fatal: " ++ ": ".intercalate causes ++ "\n"⟩

end Output

namespace Command
variable {μ : Type → Type} [Monad μ]

def programBytes (path : String) (hex : Bool) (contents : Except ReadFailure (List UInt8)) :
    Except (List String) (List UInt8) :=
  if hex then
    match textContents contents with
    | .error failure => .error ["reading " ++ path, failure.message]
    | .ok text => (HexProgram.decode text).mapError fun error => [error.message]
  else contents.mapError fun failure => ["reading " ++ path, failure.message]

/-- Steps while there is a budget and the machine is not halted, and lets the controllers compute
    whenever their interval has passed. -/
@[specialize] def drive {R : Type} [Rational R] (clock : μ Clock) (pause : μ Unit)
    (intervalMs : Nat) : Nat → Nat → Clock → Machine R → μ (Nat × Machine R)
  | 0, taken, _, m => pure (taken, m)
  | budget + 1, taken, ticked, m =>
    if m.isHalted then pure (taken, m)
    else do
      let now ← clock
      let stepped := (m.step now).state
      pause
      if intervalMs * 1000 ≤ (now.micros - ticked.micros).toNat then
        let (_, bank, memory) := stepped.bank.computeAll stepped.store now.millis
        drive clock pause intervalMs budget (taken + 1) now
          { stepped.withMemory memory with bank := bank }
      else drive clock pause intervalMs budget (taken + 1) ticked stepped

def dumpRow (address : Nat) (bytes : List UInt8) : String :=
  Hex.upper 4 address ++ ": " ++ " ".intercalate (bytes.map fun b => Hex.upper 2 b.toNat)

def dumpRows : Nat → Nat → List UInt8 → List String
  | 0, _, _ => []
  | _ + 1, _, [] => []
  | rows + 1, address, b :: bytes =>
    dumpRow address ((b :: bytes).take 16) :: dumpRows rows (address + 16) ((b :: bytes).drop 16)

def report {R : Type} [Rational R] (options : RunOptions) (taken : Nat) (m : Machine R) : Output :=
  let registers := [s!"steps:  {taken}", "pc:     0x" ++ Hex.upper 4 m.pc.toNat,
    "flags:  0x" ++ Hex.upper 2 m.flags.byte.toNat,
    "status: 0x" ++ Hex.upper 8 m.status.word.toNat]
  let exit : UInt32 := if m.flags.error then 1 else 0
  match options.dump? with
  | none => ⟨exit, Output.lines registers, ""⟩
  | some (start, length) =>
    match m.memory.readBytes start length with
    | .ok bytes =>
      ⟨exit, Output.lines (registers ++ dumpRows bytes.length start.toNat bytes), ""⟩
    | .error fault => { Output.fatal [fault.message] with stdout := Output.lines registers }

/-- A configured machine with its program loaded. A program that does not fit is found before a
    setting that is out of range. -/
def prepare (options : RunOptions) (config : Config)
    (contents : Except ReadFailure (List UInt8)) : Except (List String) (Machine Fixed) := do
  let program ← programBytes options.program options.hex contents
  let (length, size) := (program.length, config.memorySize)
  if size < length then
    throw [s!"program of {length} bytes does not fit in {size} bytes of memory"]
  let machine ← (config.build (R := Fixed)).mapError ConfigError.messages
  (machine.loadProgram program).mapError fun fault => [fault.message]

def loadConfig (world : World μ) (options : RunOptions) : μ (Except (List String) Config) := do
  match options.config? with
  | none => return .ok .standard
  | some path =>
    return (Config.ofFile (← world.read path)).mapError fun error =>
      ("loading config " ++ path) :: error.messages

def runProgram (world : World μ) (options : RunOptions) : μ Output := do
  match ← loadConfig world options with
  | .error causes => return .fatal causes
  | .ok loaded =>
    let config := { loaded with
      memorySize := options.memorySize?.getD loaded.memorySize
      debug := loaded.debug || options.debug }
    match prepare options config (← world.read options.program) with
    | .error causes => return .fatal causes
    | .ok machine =>
      let (taken, last) ← drive world.clock (world.pause config.stepPauseUs) config.pidIntervalMs
        options.steps 0 (← world.clock) machine
      return report options taken last

def showProgram (path : String) (hex : Bool) (contents : Except ReadFailure (List UInt8)) :
    Output :=
  match programBytes path hex contents with
  | .error causes => .fatal causes
  | .ok program =>
    let texts := (disassemble Fixed program.toArray).map fun (address, text) =>
      Hex.upper 4 address.toNat ++ "  " ++ text
    ⟨0, Output.lines texts, ""⟩

def perform (world : World μ) : Command → μ Output
  | .run options => runProgram world options
  | .disasm path hex => do return showProgram path hex (← world.read path)

end Command
end ControlMachine
