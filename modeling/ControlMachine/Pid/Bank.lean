import ControlMachine.Pid.Controller

/- Controllers by id. A tick lets each of them compute once, in the order of their ids; what one
   writes the next ones read. -/
namespace ControlMachine

structure Bank (R : Type) where
  controllers : List (Controller R)
  few : controllers.length ≤ 256

namespace Bank
variable {R : Type} [Rational R]

def ofCount (count : Nat) : Bank R where
  controllers := (List.range (min count 256)).map fun id => .fresh (UInt8.ofNat id)
  few := by rw [List.length_map, List.length_range]; omega

def count (b : Bank R) : Nat := b.controllers.length

def controller (b : Bank R) (id : UInt8) : Except Fault (Controller R) :=
  match b.controllers[id.toNat]? with
  | some c => .ok c
  | none => .error (.idUnavailable .pid id)

def set (b : Bank R) (id : UInt8) (c : Controller R) : Bank R where
  controllers := b.controllers.set id.toNat c
  few := by simpa using b.few

def update (b : Bank R) (id : UInt8) (f : Controller R → Controller R) :
    Except Fault (Bank R) := do
  return b.set id (f (← b.controller id))

def init (b : Bank R) (id : UInt8) (store : Store) (settings : PidSettings R) (now : UInt64) :
    Outcome (Bank R × Memory) Unit :=
  match b.controller id with
  | .error fault => .error fault (b, store.memory)
  | .ok c => (c.init store settings now).mapState fun (c, memory) => (b.set id c, memory)

def clear (b : Bank R) (id : UInt8) : Except Fault (Bank R) := b.update id Controller.clear

def setMode (b : Bank R) (id : UInt8) (memory : Memory) (mode : Mode) :
    Outcome (Bank R) Unit :=
  match b.controller id with
  | .error fault => .error fault b
  | .ok c => (c.setMode memory mode).mapState (b.set id)

def setLimits (b : Bank R) (id : UInt8) (memory : Memory) (lower upper : R) :
    Outcome (Bank R × Memory) Unit :=
  match b.controller id with
  | .error fault => .error fault (b, memory)
  | .ok c => (c.setLimits memory lower upper).mapState fun (c, memory) => (b.set id c, memory)

def compute (b : Bank R) (id : UInt8) (store : Store) (now : UInt64) :
    Outcome (Bank R × Memory) Bool :=
  match b.controller id with
  | .error fault => .error fault (b, store.memory)
  | .ok c => (c.compute store now).mapState fun (c, memory) => (b.set id c, memory)

/-- How many of the controllers wrote, and all of them and the memory afterwards. Faults are
    passed over. -/
def tick (now : UInt64) : List (Controller R) → Store → Nat × List (Controller R) × Memory
  | [], store => (0, [], store.memory)
  | c :: rest, store =>
    let outcome := c.compute store now
    let (c, memory) := outcome.state
    let wrote := match outcome with
      | .ok true _ => 1
      | _ => 0
    let (count, rest, memory) := tick now rest { store with memory := memory }
    (wrote + count, c :: rest, memory)

theorem length_tick (now : UInt64) (cs : List (Controller R)) (store : Store) :
    (tick now cs store).2.1.length = cs.length := by
  induction cs generalizing store with
  | nil => rfl
  | cons c rest ih => simp [tick, ih]

def computeAll (b : Bank R) (store : Store) (now : UInt64) : Nat × Bank R × Memory :=
  let ticked := tick now b.controllers store
  (ticked.1, ⟨ticked.2.1, by rw [length_tick]; exact b.few⟩, ticked.2.2)

def clearAll (b : Bank R) : Bank R where
  controllers := b.controllers.map Controller.clear
  few := by simpa using b.few

/-- The number of controllers modulo 256, then the status of each. -/
def report (b : Bank R) : List UInt8 :=
  UInt8.ofNat b.count :: b.controllers.map (·.statusByte)

end Bank
end ControlMachine
