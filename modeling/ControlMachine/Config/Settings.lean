import ControlMachine.Config.Document
import ControlMachine.Files
import ControlMachine.Machine.State

/- Settings of a machine and of what runs it, read from a document. -/
namespace ControlMachine

structure Config where
  memorySize : Nat
  stackDepth : Nat
  pidCount : Nat
  mapSize : Nat
  pidIntervalMs : Nat
  stepPauseUs : Nat
  debug : Bool
  deriving DecidableEq, Repr

inductive ConfigProblem where
  | noMemory | memoryTooLarge | noStack | stackTooDeep | noMappings | tooManyPids | noPidInterval
  deriving DecidableEq, Repr

def ConfigProblem.message : ConfigProblem → String
  | .noMemory => "memory_size must be non-zero"
  | .memoryTooLarge => "memory_size exceeds 65535 bytes"
  | .noStack => "stack_depth must be non-zero"
  | .stackTooDeep => "stack_depth exceeds 65535 entries"
  | .noMappings => "map_size must be non-zero"
  | .tooManyPids => "pid_count exceeds 16"
  | .noPidInterval => "pid_interval_ms must be non-zero"

inductive ConfigError where
  | unreadable (failure : ReadFailure)
  | malformed
  | invalid (problem : ConfigProblem)
  deriving DecidableEq, Repr

/-- An error and, if it has one, its cause, which reports name as well. -/
def ConfigError.messages : ConfigError → List String
  | .unreadable failure => ["io error: " ++ failure.message, failure.message]
  | .malformed => ["config parse error: malformed document"]
  | .invalid problem => ["invalid config: " ++ problem.message]

namespace Config

def standard : Config := ⟨1024, 20, 3, 16, 10, 0, false⟩

/-- The first problem, in a fixed order. -/
def problem? (c : Config) : Option ConfigProblem :=
  if c.memorySize = 0 then some .noMemory
  else if 65535 < c.memorySize then some .memoryTooLarge
  else if c.stackDepth = 0 then some .noStack
  else if 65535 < c.stackDepth then some .stackTooDeep
  else if c.mapSize = 0 then some .noMappings
  else if 16 < c.pidCount then some .tooManyPids
  else if c.pidIntervalMs = 0 then some .noPidInterval
  else none

def validate (c : Config) : Except ConfigError Unit :=
  match c.problem? with
  | some problem => .error (.invalid problem)
  | none => .ok ()

inductive Field where
  | memorySize | stackDepth | pidCount | mapSize | pidIntervalMs | stepPauseUs | debug
  deriving DecidableEq, Repr

def Field.all : List Field :=
  [.memorySize, .stackDepth, .pidCount, .mapSize, .pidIntervalMs, .stepPauseUs, .debug]

def Field.name : Field → String
  | .memorySize => "memory_size"
  | .stackDepth => "stack_depth"
  | .pidCount => "pid_count"
  | .mapSize => "map_size"
  | .pidIntervalMs => "pid_interval_ms"
  | .stepPauseUs => "step_pause_us"
  | .debug => "debug"

def number? : Document → Option Nat
  | .number (some n) => if n ≤ 0xFFFFFFFFFFFFFFFF then some n else none
  | _ => none

def set? (c : Config) (field : Field) (value : Document) : Option Config :=
  match field with
  | .memorySize => (number? value).map fun n => { c with memorySize := n }
  | .stackDepth => (number? value).map fun n => { c with stackDepth := n }
  | .pidCount => (number? value).map fun n => { c with pidCount := n }
  | .mapSize => (number? value).map fun n => { c with mapSize := n }
  | .pidIntervalMs => (number? value).map fun n => { c with pidIntervalMs := n }
  | .stepPauseUs => (number? value).map fun n => { c with stepPauseUs := n }
  | .debug => match value with
    | .bool b => some { c with debug := b }
    | _ => none

/-- Fields of other names are passed over; a field given twice is an error. -/
def ofFields? (c : Config) (seen : List Field) :
    List (Option (List Char) × Document) → Option Config
  | [] => some c
  | (key?, value) :: rest => do
    let key ← key?
    match Field.all.find? (·.name.toList == key) with
    | none => ofFields? c seen rest
    | some field =>
      guard (!seen.contains field)
      ofFields? (← c.set? field value) (field :: seen) rest

def ofItems? (c : Config) : List Field → List Document → Option Config
  | _, [] => some c
  | [], _ :: _ => none
  | field :: fields, value :: values => do
    ofItems? (← c.set? field value) fields values

def ofDocument? : Document → Option Config
  | .record fields => ofFields? standard [] fields
  | .list items => ofItems? standard Field.all items
  | _ => none

def ofText (text : List Char) : Except ConfigError Config := do
  match Document.read? text >>= ofDocument? with
  | none => throw .malformed
  | some config =>
    config.validate
    return config

def ofFile (contents : Except ReadFailure (List UInt8)) : Except ConfigError Config :=
  match textContents contents with
  | .ok text => ofText text
  | .error failure => .error (.unreadable failure)

def build {R : Type} [Rational R] (c : Config) : Except ConfigError (Machine R) := do
  c.validate
  return { Machine.ofSizes c.memorySize c.mapSize c.pidCount c.stackDepth with debug := c.debug }

end Config
end ControlMachine
