import ControlMachine.Outcome
import ControlMachine.Store
import ControlMachine.Binary.Arithmetic

/- A controller that reads a measured value and a target from memory and writes a setting there.
   Gains are kept per sample: ki times the period and kd over it, all negated for reverse action.
   The accumulated integral stays within the limits of the output. -/
namespace ControlMachine

inductive Mode where
  | manual | automatic
  deriving DecidableEq, Repr

def Mode.nibble : Mode → UInt8
  | .manual => 0
  | .automatic => 1

inductive Direction where
  | direct | reverse
  deriving DecidableEq, Repr

def Direction.ofByte (b : UInt8) : Direction := if b = 1 then .reverse else .direct

structure PidSettings (R : Type) where
  input : UInt16
  output : UInt16
  setpoint : UInt16
  kp : R
  ki : R
  kd : R
  sampleMs : UInt32
  direction : Direction
  lower : R
  upper : R

structure Controller (R : Type) where
  id : UInt8
  input : UInt16
  output : UInt16
  setpoint : UInt16
  kp : R
  ki : R
  kd : R
  lower : R
  upper : R
  direction : Direction
  sampleMs : UInt32
  integral : R
  lastInput : R
  lastMs : UInt64
  mode : Mode
  initialized : Bool
  mapId? : Option UInt8

namespace Controller
variable {R : Type} [Rational R]

def leastSampleMs : UInt32 := 100

def fresh (id : UInt8) : Controller R where
  id := id
  input := 0
  output := 0
  setpoint := 0
  kp := 0
  ki := 0
  kd := 0
  lower := 0
  upper := 0
  direction := .direct
  sampleMs := leastSampleMs
  integral := 0
  lastInput := 0
  lastMs := 0
  mode := .manual
  initialized := false
  mapId? := none

def negateGains (c : Controller R) : Controller R :=
  { c with kp := -c.kp, ki := -c.ki, kd := -c.kd }

/-- One negative gain makes all three be ignored. -/
def setTunings (c : Controller R) (kp ki kd : R) : Controller R :=
  if Rational.isNegative kp || Rational.isNegative ki || Rational.isNegative kd then c
  else
    let seconds := (Datum.ofNat c.sampleMs.toNat).div binary64 (Datum.ofNat 1000)
    let scaled := { c with
      kp := kp
      ki := Rational.ofDouble ((Rational.toDouble ki).mul binary64 seconds)
      kd := Rational.ofDouble ((Rational.toDouble kd).div binary64 seconds) }
    match c.direction with
    | .direct => scaled
    | .reverse => scaled.negateGains

/-- Brings ki and kd to a new period; a period of zero is ignored. -/
def setSampleTime (c : Controller R) (ms : UInt32) : Controller R :=
  if ms = 0 then c
  else
    let ratio := (Datum.ofNat ms.toNat).div binary64 (Datum.ofNat c.sampleMs.toNat)
    { c with
      ki := Rational.ofDouble ((Rational.toDouble c.ki).mul binary64 ratio)
      kd := Rational.ofDouble ((Rational.toDouble c.kd).div binary64 ratio)
      sampleMs := ms }

/-- Gains change sign with the direction only while the controller is automatic. -/
def setDirection (c : Controller R) (direction : Direction) : Controller R :=
  let turned := if c.mode = .automatic ∧ direction ≠ c.direction then c.negateGains else c
  { turned with direction := direction }

/-- Limits that are equal or the wrong way round are no limits. -/
def validLimits (lower upper : R) : Bool :=
  !(Rational.greater lower upper || Rational.same lower upper)

/-- An automatic controller brings its output cell and its integral within the new limits. -/
def setLimits (c : Controller R) (memory : Memory) (lower upper : R) :
    Outcome (Controller R × Memory) Unit :=
  if validLimits lower upper then
    let limited := { c with lower := lower, upper := upper }
    match c.mode with
    | .manual => .ok () (limited, memory)
    | .automatic =>
      let clamped := { limited with integral := Rational.clamp c.integral lower upper }
      match memory.loadRational (R := R) c.output with
      | .error fault => .error fault (limited, memory)
      | .ok output =>
        let value := Rational.clamp output lower upper
        if Rational.same value output then .ok () (clamped, memory)
        else match memory.storeRational c.output value with
          | .error fault => .error fault (limited, memory)
          | .ok written => .ok () (clamped, written)
  else .ok () (c, memory)

/-- Ties the controller to its cells. It starts in manual mode, one period behind the clock, and
    must be cleared before it is initialized anew. -/
def init (c : Controller R) (store : Store) (settings : PidSettings R) (now : UInt64) :
    Outcome (Controller R × Memory) Unit :=
  if c.initialized then .error (.pidAlreadyInitialized c.id) (c, store.memory)
  else
    let bound := { c with
      input := settings.input
      output := settings.output
      setpoint := settings.setpoint
      mode := .manual
      integral := 0
      lastInput := 0 }
    match bound.setLimits store.memory settings.lower settings.upper with
    | .error fault left => .error fault left
    | .ok () (limited, memory) =>
      let timed := { limited with sampleMs := max settings.sampleMs leastSampleMs }
      let turned := timed.setDirection settings.direction
      let tuned := turned.setTunings settings.kp settings.ki settings.kd
      .ok () ({ tuned with
        lastMs := now - tuned.sampleMs.toUInt64
        mapId? := store.mappings.idForAddress? tuned.input
        initialized := true }, memory)

/-- The controller goes on from the live output and input, so that its first output is no jump. -/
def setMode (c : Controller R) (memory : Memory) (mode : Mode) : Outcome (Controller R) Unit :=
  if mode = .automatic ∧ c.mode = .manual ∧ c.initialized then
    match memory.loadRational (R := R) c.output with
    | .error fault => .error fault c
    | .ok output =>
      let seeded := { c with integral := Rational.clamp output c.lower c.upper }
      match memory.loadRational (R := R) c.input with
      | .error fault => .error fault seeded
      | .ok input => .ok () { seeded with lastInput := input, mode := mode }
  else .ok () { c with mode := mode }

def respond (c : Controller R) (input setpoint : R) : R × R :=
  let error := setpoint - input
  let integral := Rational.clamp (c.integral + c.ki * error) c.lower c.upper
  let output := c.kp * error + integral - c.kd * (input - c.lastInput)
  (integral, Rational.clamp output c.lower c.upper)

/-- An error in the mapping of the input holds the controller back. -/
def heldBack (c : Controller R) (mappings : MappingTable) : Except Fault Bool :=
  match c.mapId? with
  | none => .ok false
  | some id => (mappings.check id false).map fun (status, _) => decide (Mapping.done < status)

def isDue (c : Controller R) (now : UInt64) : Bool :=
  decide (c.sampleMs.toUInt64 ≤ now - c.lastMs)

def compute (c : Controller R) (store : Store) (now : UInt64) :
    Outcome (Controller R × Memory) Bool :=
  let memory := store.memory
  if c.initialized && c.mode == .automatic then
    match c.heldBack store.mappings with
    | .error fault => .error fault (c, memory)
    | .ok true => .ok false (c, memory)
    | .ok false =>
      if c.isDue now then
        match memory.loadRational (R := R) c.input with
        | .error fault => .error fault (c, memory)
        | .ok input =>
          match memory.loadRational (R := R) c.setpoint with
          | .error fault => .error fault (c, memory)
          | .ok setpoint =>
            let (integral, output) := c.respond input setpoint
            match memory.storeRational c.output output with
            | .error fault => .error fault ({ c with integral := integral }, memory)
            | .ok written =>
              .ok true ({ c with integral := integral, lastInput := input, lastMs := now }, written)
      else .ok false (c, memory)
  else .ok false (c, memory)

def clear (c : Controller R) : Controller R := { c with initialized := false }

/-- The mode in the high half and in the low half whether the controller is initialized. -/
def statusByte (c : Controller R) : UInt8 :=
  c.mode.nibble <<< 4 ||| (if c.initialized then 1 else 0)

end Controller
end ControlMachine
