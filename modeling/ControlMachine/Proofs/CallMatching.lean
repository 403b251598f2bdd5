import ControlMachine.Proofs.Footprint

/- Calls and returns over whole runs. A call puts the address after it on the stack, and whatever
   runs until the stack is back at its old depth never gets below that address: it comes back only
   by the return that takes the address, and the entries of the caller are still there. -/
namespace ControlMachine

namespace CallStack
variable {s after : CallStack} {address : UInt16}

theorem push_eq_ok : s.push address = .ok after ↔
    ∃ free spare, s.spare = free :: spare ∧ after = ⟨address :: s.live, spare⟩ := by
  unfold push
  cases s.spare with
  | nil => simp
  | cons free spare =>
    simp only [Except.ok.injEq, List.cons.injEq]
    grind

theorem pop_eq_ok : s.pop = .ok (address, after) ↔
    ∃ live, s.live = address :: live ∧ after = ⟨live, address :: s.spare⟩ := by
  unfold pop
  cases s.live with
  | nil => simp
  | cons top live =>
    simp only [Except.ok.injEq, Prod.mk.injEq, List.cons.injEq]
    grind

theorem push_capacity (pushed : s.push address = .ok after) : after.capacity = s.capacity := by
  obtain ⟨free, spare, split, rfl⟩ := push_eq_ok.mp pushed
  simp only [capacity, split, List.length_cons]
  omega

theorem pop_capacity (popped : s.pop = .ok (address, after)) : after.capacity = s.capacity := by
  obtain ⟨live, split, rfl⟩ := pop_eq_ok.mp popped
  simp only [capacity, split, List.length_cons]
  omega

theorem depth_le_capacity (s : CallStack) : s.depth ≤ s.capacity := Nat.le_add_right _ _

end CallStack

namespace Machine
open Fetch
variable {R : Type} {m after : Machine R}

inductive StackStep (m after : Machine R) : Prop where
  | kept (same : after.stack = m.stack)
  | called (back : UInt16) (place : back.toNat = m.pc.toNat + 3)
      (pushed : m.stack.push back = .ok after.stack)
  | returned (running : m.isHalted = false) (here : m.opcode? = some .ret)
      (popped : m.stack.pop = .ok (after.pc, after.stack))

theorem stackStep_capacity (step : StackStep m after) : after.stack.capacity = m.stack.capacity := by
  cases step with
  | kept same => rw [same]
  | called back place pushed => exact CallStack.push_capacity pushed
  | returned running here popped => exact CallStack.pop_capacity popped

/-- A step from a stack that has an address above the old entries leaves it there, or it is the
    return that takes it. -/
theorem stackStep_above {above old : List UInt16} {back : UInt16} (step : StackStep m after)
    (before : m.stack.live = above ++ back :: old) :
    (∃ above, after.stack.live = above ++ back :: old) ∨
      m.isHalted = false ∧ m.opcode? = some .ret ∧ after.pc = back ∧ after.stack.live = old := by
  cases step with
  | kept same =>
    rw [same]
    exact Or.inl ⟨above, before⟩
  | called inner place pushed =>
    obtain ⟨free, spare, -, same⟩ := CallStack.push_eq_ok.mp pushed
    refine Or.inl ⟨inner :: above, ?_⟩
    rw [same, before, List.cons_append]
  | returned running here popped =>
    obtain ⟨live, split, same⟩ := CallStack.pop_eq_ok.mp popped
    rw [before] at split
    cases above with
    | nil =>
      obtain ⟨taken, rest⟩ := List.cons.inj split
      exact Or.inr ⟨running, here, taken.symm, by rw [same, rest]⟩
    | cons inner above =>
      obtain ⟨-, rest⟩ := List.cons.inj split
      refine Or.inl ⟨above, ?_⟩
      rw [same]
      exact rest.symm

variable [Rational R] {clock : Clock} {next : UInt16}

theorem call_pushes (inside : m.pc.toNat < m.memory.capacity)
    (done : m.execute clock .call = .ok next after) :
    ∃ back : UInt16, back.toNat = m.pc.toNat + 3 ∧ m.stack.push back = .ok after.stack := by
  obtain ⟨back, read, pushed⟩ := call_ok done
  have place := (address_place read).2
  rw [toNat_afterOpcode inside] at place
  exact ⟨back, place, pushed⟩

theorem step_stack (done : m.step clock = .ok () after) : StackStep m after := by
  rcases step_ok done with ⟨-, rfl⟩ | ⟨running, op, next, changed, here, run, rfl⟩
  · exact .kept rfl
  · have inside := (Memory.load_eq_ok.mp (opcode_eq_some.mp here)).1
    by_cases call : op = .call
    · subst call
      obtain ⟨back, place, pushed⟩ := call_pushes (m := m.started) inside run
      exact .called back place pushed
    · by_cases ret : op = .ret
      · subst ret
        have popped := ret_ok (m := m.started) run
        exact .returned running here popped
      · have confined := execute_confined (m := m.started) inside run
        exact .kept (confined.stack call ret)

theorem step_call (running : m.isHalted = false) (here : m.opcode? = some .call)
    (done : m.step clock = .ok () after) :
    ∃ back : UInt16, back.toNat = m.pc.toNat + 3 ∧ after.stack.live = back :: m.stack.live := by
  rcases step_ok done with ⟨halted, -⟩ | ⟨-, op, next, changed, found, run, rfl⟩
  · rw [running] at halted
    cases halted
  · have inside := (Memory.load_eq_ok.mp (opcode_eq_some.mp here)).1
    have call : op = .call := Option.some.inj (found.symm.trans here)
    subst call
    obtain ⟨back, place, pushed⟩ := call_pushes (m := m.started) inside run
    obtain ⟨free, spare, -, same⟩ := CallStack.push_eq_ok.mp pushed
    refine ⟨back, place, ?_⟩
    exact congrArg CallStack.live same

def Walks (states : Nat → Machine R) (clocks : Nat → Clock) (n : Nat) : Prop :=
  ∀ i, i < n → (states i).step (clocks i) = .ok () (states (i + 1))

/-- A walk from a call to where the stack is as deep as before the call for the first time. -/
structure CallSpan (states : Nat → Machine R) (n : Nat) : Prop where
  running : (states 0).isHalted = false
  call : (states 0).opcode? = some .call
  started : 0 < n
  deeper : ∀ i, 0 < i → i < n → (states 0).stack.depth < (states i).stack.depth
  level : (states n).stack.depth = (states 0).stack.depth

/-- The call came back: by a return, to the address after it, and with the entries as they were. -/
structure CameBack (states : Nat → Machine R) (n : Nat) : Prop where
  running : (states (n - 1)).isHalted = false
  ret : (states (n - 1)).opcode? = some .ret
  place : (states n).pc.toNat = (states 0).pc.toNat + 3
  entries : (states n).stack.entries = (states 0).stack.entries

variable {states : Nat → Machine R} {clocks : Nat → Clock} {n : Nat}

theorem walks_capacity (walks : Walks states clocks n) {i : Nat} (within : i ≤ n) :
    (states i).stack.capacity = (states 0).stack.capacity := by
  induction i with
  | zero => rfl
  | succ i ih =>
    have step := step_stack (walks i within)
    exact (stackStep_capacity step).trans (ih (by omega))

/-- Before the walk is back at its first depth, the address after the call is on the stack. -/
theorem address_stays (walks : Walks states clocks n) {old : List UInt16} {back : UInt16}
    (called : (states 1).stack.live = back :: old)
    (deeper : ∀ i, 0 < i → i < n → old.length < (states i).stack.depth) {i : Nat}
    (within : i + 1 < n) : ∃ above, (states (i + 1)).stack.live = above ++ back :: old := by
  induction i with
  | zero => exact ⟨[], called⟩
  | succ i ih =>
    obtain ⟨above, before⟩ := ih (by omega)
    have step := step_stack (walks (i + 1) (by omega))
    rcases stackStep_above step before with still | ⟨-, -, -, low⟩
    · exact still
    · have high := deeper (i + 1 + 1) (by omega) within
      rw [CallStack.depth, low] at high
      omega

theorem span_comes_back (walks : Walks states clocks n) (span : CallSpan states n) :
    CameBack states n := by
  obtain ⟨back, place, called⟩ := step_call span.running span.call (walks 0 span.started)
  have level := span.level
  have more : 1 < n := by
    have some := span.started
    rcases Nat.lt_or_ge 1 n with more | one
    · exact more
    · have only : n = 1 := by omega
      rw [only, CallStack.depth, called, CallStack.depth, List.length_cons] at level
      omega
  obtain ⟨above, before⟩ := address_stays walks called span.deeper (i := n - 2) (by omega)
  rw [show n - 2 + 1 = n - 1 by omega] at before
  have last := walks (n - 1) (by omega)
  rw [show n - 1 + 1 = n by omega] at last
  rcases stackStep_above (step_stack last) before with ⟨rest, still⟩ | ⟨running, ret, pc, live⟩
  · rw [CallStack.depth, still, CallStack.depth, List.length_append, List.length_cons] at level
    omega
  · refine ⟨running, ret, ?_, ?_⟩
    · rw [pc, place]
    · rw [CallStack.entries, live, CallStack.entries]

/-- On any walk the stack keeps within its capacity, and a call that is left again is left by its
    own return. -/
theorem calls_come_back (states : Nat → Machine R) (clocks : Nat → Clock) (n : Nat)
    (walks : Walks states clocks n) :
    (∀ i, i ≤ n → (states i).stack.depth ≤ (states 0).stack.capacity) ∧
      (CallSpan states n → CameBack states n) := by
  constructor
  · intro i within
    rw [← walks_capacity walks within]
    exact CallStack.depth_le_capacity _
  · exact span_comes_back walks

def nesting : Nat → Machine Fixed
  | 0 => { filled [0x53, 0x04, 0x00, 0x00, 0x53, 0x08, 0x00, 0x54, 0x54] with
      stack := .ofCapacity 2 }
  | i + 1 => ((nesting i).step ⟨0⟩).state

theorem calls_come_back_nesting :
    Walks nesting (fun _ => ⟨0⟩) 4 ∧ CallSpan nesting 4 ∧ (nesting 2).stack.depth = 2 ∧
      (nesting 4).pc.toNat = 3 ∧ (nesting 4).stack.entries = [] := by
  have walks : Walks nesting (fun _ => ⟨0⟩) 4 := by
    intro i within
    rcases i with _ | _ | _ | _ | i
    · rfl
    · rfl
    · rfl
    · rfl
    · omega
  have span : CallSpan nesting 4 := by
    constructor
    case running => rfl
    case call => rfl
    case started => decide
    case deeper =>
      intro i some within
      rcases i with _ | _ | _ | _ | i
      · omega
      · decide
      · decide
      · decide
      · omega
    case level => rfl
  have back := (calls_come_back nesting (fun _ => ⟨0⟩) 4 walks).2 span
  exact ⟨walks, span, by rfl, back.place, back.entries⟩

end Machine
end ControlMachine
