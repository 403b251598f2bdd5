import ControlMachine.Proofs.Outline

/- A machine that was reset, next to a new one. Both have the same outline, so they show the same as
   long as no initialization is refused its settings, and they may part where one is. -/
namespace ControlMachine

theorem Memory.clear_eq_ofCapacity {m : Memory} {capacity : Nat}
    (same : m.capacity = max 1 (min capacity 0xFFFF)) : m.clear = .ofCapacity capacity := by
  unfold Memory.capacity at same
  simp only [Memory.clear, Memory.ofCapacity, same]

theorem MappingTable.clear_eq_ofSize {t : MappingTable} {size : Nat}
    (same : t.slots.length = min size 16) : t.clear = .ofSize size := by
  simp only [MappingTable.clear, MappingTable.ofSize, List.map_const', same]

theorem Bank.clearAll_eq_ofCount {R : Type} [Rational R] {b : Bank R} {count : Nat}
    (same : b.ids = (List.range (min count 256)).map UInt8.ofNat) :
    b.clearAll.outline = (Bank.ofCount count).outline := by
  apply eq_of_controllers
  have cleared : b.clearAll.outline.controllers = b.ids.map Controller.fresh := by
    simp [outline, clearAll, ids, Controller.outline, Controller.clear]
  have made : (ofCount count : Bank R).outline.controllers =
      ((List.range (min count 256)).map UInt8.ofNat).map Controller.fresh := by
    simp [outline, ofCount, Controller.outline, Controller.fresh]
  rw [cleared, made, same]

inductive Turn where
  | step (clock : Clock)
  | computeAll (clock : Clock)

def Turn.event {R : Type} : Turn → MachineEvent R
  | step clock => .step clock
  | computeAll clock => .onBank .computeAll clock

structure View where
  bytes : ByteArray
  slots : List Mapping
  pc : UInt16
  flags : UInt8
  status : UInt32
  stack : CallStack

namespace Machine
variable {R : Type} {m n : Machine R}

def view (m : Machine R) : View :=
  ⟨m.memory.bytes, m.store.mappings.slots, m.pc, m.flags.byte, m.status.word, m.stack⟩

variable [Rational R]

/-- The views before the first turn and after each of them. -/
def trace (m : Machine R) : List Turn → List View
  | [] => [m.view]
  | turn :: turns => m.view :: trace (m.undergo turn.event) turns

def accepts (m : Machine R) : Turn → Bool
  | .step _ => m.isHalted || m.opcode? != some .pidInit || m.initAccepted
  | .computeAll _ => true

/-- No initialization on the way is refused its settings. -/
def allAccepted (m : Machine R) : List Turn → Bool
  | [] => true
  | turn :: turns => m.accepts turn && allAccepted (m.undergo turn.event) turns

theorem view_outline (m : Machine R) : m.outline.view = m.view := rfl

theorem view_eq_of_outline (same : m.outline = n.outline) : m.view = n.view := by
  rw [← view_outline, same, view_outline]

theorem accepts_outline (m : Machine R) (turn : Turn) : m.outline.accepts turn = m.accepts turn := by
  cases turn with
  | step clock =>
    unfold accepts
    rw [initAccepted_outline]
    rfl
  | computeAll clock => rfl

theorem undergo_outline {turn : Turn} (accepted : m.accepts turn = true) :
    (m.outline.undergo turn.event).outline = (m.undergo turn.event).outline := by
  cases turn with
  | step clock =>
    have alike : Alike (m.outline.step clock) (m.step clock) := by
      apply step_outline
      intro running here
      simpa [accepts, running, here] using accepted
    have same := congrArg Outcome.state alike
    rw [Outcome.state_mapState, Outcome.state_mapState] at same
    exact same
  | computeAll clock =>
    have same := Bank.computeAll_outline m.bank m.store clock.millis
    simp only [Turn.event, undergo, operate, outline_bank, outline_store, same]
    exact outline_outline (m.withBoth (m.bank.computeAll m.store clock.millis).2)

theorem trace_eq_of_outline {turns : List Turn} (same : m.outline = n.outline)
    (accepted : n.allAccepted turns = true) : m.trace turns = n.trace turns := by
  induction turns generalizing m n with
  | nil => rw [trace, trace, view_eq_of_outline same]
  | cons turn turns ih =>
    obtain ⟨now, later⟩ := Bool.and_eq_true_iff.mp accepted
    have also : m.accepts turn = true := by
      rw [← accepts_outline, same, accepts_outline]
      exact now
    have next : (m.undergo turn.event).outline = (n.undergo turn.event).outline := by
      rw [← undergo_outline also, same, undergo_outline now]
    rw [trace, trace, view_eq_of_outline same, ih next later]

theorem reload_outline (m : Machine R) (program : List UInt8) :
    m.outline.reload program = (m.reload program).outline := by
  unfold reload loadProgram
  rw [outline_memory]
  cases m.memory.writeBytes 0 program <;> rfl

theorem sizes_ofSizes (capacity mapSize pidCount stackDepth : Nat) :
    (ofSizes capacity mapSize pidCount stackDepth : Machine R).sizes =
      ⟨max 1 (min capacity 0xFFFF), min mapSize 16, (List.range (min pidCount 256)).map UInt8.ofNat,
        stackDepth⟩ := by
  simp [sizes, ofSizes, ofParts, memory, Store.ofSizes, Memory.ofCapacity, Memory.capacity,
    MappingTable.ofSize, Bank.ofCount, Bank.ids, CallStack.ofCapacity, CallStack.capacity,
    Controller.fresh]

theorem reset_outline {capacity mapSize pidCount stackDepth : Nat}
    (same : m.sizes = (ofSizes capacity mapSize pidCount stackDepth : Machine R).sizes) :
    m.reset.outline = (ofSizes capacity mapSize pidCount stackDepth).outline := by
  rw [sizes_ofSizes] at same
  simp only [sizes, Sizes.mk.injEq] at same
  obtain ⟨size, slots, ids, stack⟩ := same
  have cleared : m.store.memory.clear = .ofCapacity capacity := Memory.clear_eq_ofCapacity size
  simp only [reset, clear, outline, ofSizes, ofParts, Store.clear, Store.ofSizes, CallStack.clear,
    Bank.clearAll_eq_ofCount ids, MappingTable.clear_eq_ofSize slots, stack, cleared]

/-- A machine with any history behind it, once it is reset, shows what a new one of its sizes shows:
    after any program is loaded, and after each turn that follows. -/
theorem reset_like_new (capacity mapSize pidCount stackDepth : Nat)
    (history : List (MachineEvent R)) (program : List UInt8) (turns : List Turn)
    (accepted : allAccepted
      ((ofSizes capacity mapSize pidCount stackDepth : Machine R).reload program) turns = true) :
    trace ((history.foldl undergo (ofSizes capacity mapSize pidCount stackDepth)).reset.reload
      program) turns =
      trace ((ofSizes capacity mapSize pidCount stackDepth : Machine R).reload program) turns := by
  have sizes := foldl_undergo_sizes
    (ofSizes capacity mapSize pidCount stackDepth : Machine R) history
  apply trace_eq_of_outline _ accepted
  rw [← reload_outline, reset_outline sizes, reload_outline]

def limitedBefore : List (MachineEvent Fixed) :=
  [.onBank (.init 0 ⟨0, 4, 8, 0, 0, 0, 100, .direct, 0, .ofUnits 0x6400⟩) ⟨0⟩]

/-- Initializes controller 0 with gain 1 and the given upper limit, and starts it. The target in the
    data behind the code is 10. -/
def regulating (upper : UInt8) : List UInt8 :=
  [0x80, 0x00, 0x28, 0x00, 0x2C, 0x00, 0x24, 0x00, 0x00, 0x01, 0x00, 0x00, 0x00, 0x00, 0x00, 0x00,
    0x00, 0x00, 0x00, 0x00, 0x64, 0x00, 0x00, 0x00, 0x00, 0x00, 0x00, 0x00, 0x00, upper, 0x00, 0x00,
    0x00, 0x84, 0x00, 0x00, 0x00, 0x0A, 0x00, 0x00]

def regulatingTurns : List Turn := [.step ⟨0⟩, .step ⟨0⟩, .computeAll ⟨0⟩]

def regulator : Machine Fixed := .ofSizes 64 1 1 1

theorem reset_like_new_regulating :
    (limitedBefore.foldl undergo regulator).reset.bank.controllers.map (·.upper.units) = [0x6400] ∧
      trace ((limitedBefore.foldl undergo regulator).reset.reload (regulating 0x05))
        regulatingTurns = trace (regulator.reload (regulating 0x05)) regulatingTurns := by
  have accepted : allAccepted (regulator.reload (regulating 0x05)) regulatingTurns = true := by
    decide +kernel
  refine ⟨by rfl, ?_⟩
  exact reset_like_new 64 1 1 1 limitedBefore (regulating 0x05) regulatingTurns accepted

def regulatedOutput (m : Machine Fixed) : UInt8 :=
  (regulatingTurns.foldl (fun m turn => m.undergo turn.event) m).memory.byteAt 45

/-- Equal limits are refused, and the reset machine goes by the ones from before. -/
theorem old_limits_survive :
    regulatedOutput ((limitedBefore.foldl undergo regulator).reset.reload (regulating 0x00)) = 10 ∧
      regulatedOutput (regulator.reload (regulating 0x00)) = 0 ∧
      trace ((limitedBefore.foldl undergo regulator).reset.reload (regulating 0x00))
        regulatingTurns ≠ trace (regulator.reload (regulating 0x00)) regulatingTurns := by
  refine ⟨by decide +kernel, by decide +kernel, ?_⟩
  intro same
  have shown := congrArg (List.map fun view => view.bytes.data[45]?) same
  revert shown
  decide +kernel

end Machine
end ControlMachine
