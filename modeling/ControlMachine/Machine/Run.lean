import ControlMachine.Machine.Instruction

/- Steps and runs. A fault halts the machine at the instruction that raised it, and a halted
   machine stays as it is. -/
namespace ControlMachine.Machine
variable {R : Type} [Rational R]

def haltedBy (m : Machine R) (fault : Fault) : Machine R :=
  { m with
    flags := ⟨true, true, m.flags.divideByZero || decide (fault = .divideByZero)⟩
    status := { m.status with code := fault.code } }

def step (m : Machine R) (clock : Clock) : Outcome (Machine R) Unit :=
  if m.isHalted then .ok () m
  else match m.memory.load m.pc with
    | .error fault => .error fault ({ m with status := ⟨m.pc, 0, 0⟩ }.haltedBy fault)
    | .ok b =>
      let started := { m with status := ⟨m.pc, b, 0⟩ }
      match Opcode.ofByte? b with
      | none => .error (.unsupportedOperation b) (started.haltedBy (.unsupportedOperation b))
      | some op =>
        match started.execute clock op with
        | .ok next after => .ok () { after with pc := next }
        | .error fault after => .error fault (after.haltedBy fault)

/-- At most so many steps, counted on top of those already taken. A step that faults counts, and is
    the last one. -/
def runFrom (clock : Clock) : Nat → Nat → Machine R → Nat × Machine R
  | 0, taken, m => (taken, m)
  | budget + 1, taken, m =>
    if m.isHalted then (taken, m)
    else match m.step clock with
      | .ok () after => runFrom clock budget (taken + 1) after
      | .error _ after => (taken + 1, after)

/-- Steps until the machine is halted, a step faults or the budget is spent, and how many there
    were. -/
def run (m : Machine R) (clock : Clock) (budget : Nat) : Nat × Machine R :=
  runFrom clock budget 0 m

end ControlMachine.Machine
