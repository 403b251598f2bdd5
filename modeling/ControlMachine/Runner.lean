import ControlMachine.Machine.Run

/- A machine under the control of commands that wait for it in a queue. While none waits it steps,
   as long as it runs and is not halted. -/
namespace ControlMachine

inductive RunnerCommand where
  | run
  | stop
  /-- Back to address 0, and run. -/
  | restart
  | status
  /-- A new program, not yet running. -/
  | load (program : List UInt8)
  | shutdown
  deriving DecidableEq, Repr

structure Runner (R : Type) where
  machine : Machine R
  running : Bool
  alive : Bool
  /-- Commands that are posted and not yet received, the oldest first. -/
  pending : List RunnerCommand

def disconnectedMessage : String := "calcvm-vm thread is no longer running"

namespace Runner
variable {R : Type} [Rational R]

def ofMachine (machine : Machine R) : Runner R := ⟨machine, false, true, []⟩

def post? (r : Runner R) (command : RunnerCommand) : Option (Runner R) :=
  if r.alive then some { r with pending := r.pending ++ [command] } else none

/-- A program that does not fit stops the machine and is otherwise ignored. What waits behind a
    shutdown is lost. -/
def receive (r : Runner R) : RunnerCommand → Runner R
  | .run => { r with running := true }
  | .stop => { r with running := false }
  | .restart => { r with machine := r.machine.clear, running := true }
  | .status => r
  | .load program =>
    match r.machine.loadProgram program with
    | .ok machine => { r with machine := machine, running := false }
    | .error _ => { r with running := false }
  | .shutdown => { r with alive := false, pending := [] }

def reply? (r : Runner R) : RunnerCommand → Option UInt32
  | .status => some r.machine.status.word
  | _ => none

def isStepping (r : Runner R) : Bool := r.alive && r.running && !r.machine.isHalted

def idle (r : Runner R) (clock : Clock) : Runner R :=
  if r.isStepping then { r with machine := (r.machine.step clock).state } else r

def turn (r : Runner R) (clock : Clock) : Option UInt32 × Runner R :=
  match r.pending with
  | command :: rest => (r.reply? command, { r with pending := rest }.receive command)
  | [] => (none, r.idle clock)

def drain (r : Runner R) : Runner R :=
  r.pending.foldl (fun r command => if r.alive then r.receive command else r)
    { r with pending := [] }

def status? (r : Runner R) : Option UInt32 × Runner R :=
  match r.post? .status with
  | none => (none, r)
  | some posted =>
    let r := posted.drain
    (if r.alive then r.reply? .status else none, r)

/-- A byte from outside is stored at once and waits for no command. -/
def store (r : Runner R) (address : UInt16) (value : UInt8) : Except Fault (Runner R) := do
  return { r with machine := r.machine.withMemory (← r.machine.memory.store address value) }

end Runner
end ControlMachine
