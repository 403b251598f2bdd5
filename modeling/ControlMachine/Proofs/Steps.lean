import ControlMachine.Number.Fixed
import ControlMachine.Proofs.Effects

/- One step taken apart: the fetch, the instruction, and what becomes of its outcome. A fault halts
   the machine, so a run that ends with one has nothing left to do. -/
namespace ControlMachine.Machine
variable {R : Type} {m after : Machine R}

def fetchedByte (m : Machine R) : UInt8 :=
  match m.memory.load m.pc with
  | .ok b => b
  | .error _ => 0

def opcode? (m : Machine R) : Option Opcode :=
  match m.memory.load m.pc with
  | .ok b => Opcode.ofByte? b
  | .error _ => none

def started (m : Machine R) : Machine R := { m with status := ⟨m.pc, m.fetchedByte, 0⟩ }

theorem opcode_eq_some {op : Opcode} :
    m.opcode? = some op ↔ m.memory.load m.pc = .ok op.byte := by
  unfold opcode?
  cases m.memory.load m.pc with
  | error fault => simp
  | ok b =>
    simp only [Except.ok.injEq]
    constructor
    · intro found
      exact (Opcode.byte_of_ofByte found).symm
    · intro same
      rw [same, Opcode.ofByte_byte]

def filled (program : List UInt8) : Machine Fixed :=
  (Machine.ofSizes program.length 1 1 1).withMemory
    ((Memory.ofCapacity program.length).patch 0 program)

variable [Rational R] {clock : Clock} {fault : Fault}

theorem step_halted (halted : m.isHalted = true) : m.step clock = .ok () m := by
  simp [step, halted]

theorem step_ok (done : m.step clock = .ok () after) :
    (m.isHalted = true ∧ after = m) ∨
      m.isHalted = false ∧ ∃ op next changed, m.opcode? = some op ∧
        m.started.execute clock op = .ok next changed ∧ after = { changed with pc := next } := by
  cases halted : m.isHalted with
  | true =>
    rw [step_halted halted] at done
    cases done
    exact Or.inl ⟨rfl, rfl⟩
  | false =>
    refine Or.inr ⟨rfl, ?_⟩
    cases fetched : m.memory.load m.pc with
    | error reason => simp [step, halted, fetched] at done
    | ok b =>
      cases decoded : Opcode.ofByte? b with
      | none => simp [step, halted, fetched, decoded] at done
      | some op =>
        have begun : m.started = { m with status := ⟨m.pc, b, 0⟩ } := by
          simp [started, fetchedByte, fetched]
        refine ⟨op, ?_⟩
        rw [begun]
        simp only [step, halted, fetched, decoded, Bool.false_eq_true, if_false] at done
        split at done
        · rename_i next changed run
          cases done
          exact ⟨next, changed, by simp [opcode?, fetched, decoded], run, rfl⟩
        · cases done

theorem step_error (failed : m.step clock = .error fault after) :
    m.isHalted = false ∧
      ((m.opcode? = none ∧ after = m.started.haltedBy fault) ∨
        ∃ op left, m.opcode? = some op ∧ m.started.execute clock op = .error fault left ∧
          after = left.haltedBy fault) := by
  cases halted : m.isHalted with
  | true =>
    rw [step_halted halted] at failed
    cases failed
  | false =>
    refine ⟨rfl, ?_⟩
    cases fetched : m.memory.load m.pc with
    | error reason =>
      simp only [step, halted, fetched, Bool.false_eq_true, if_false] at failed
      cases failed
      exact Or.inl ⟨by simp [opcode?, fetched], by simp [started, fetchedByte, fetched]⟩
    | ok b =>
      have begun : m.started = { m with status := ⟨m.pc, b, 0⟩ } := by
        simp [started, fetchedByte, fetched]
      rw [begun]
      cases decoded : Opcode.ofByte? b with
      | none =>
        simp only [step, halted, fetched, decoded, Bool.false_eq_true, if_false] at failed
        cases failed
        exact Or.inl ⟨by simp [opcode?, fetched, decoded], rfl⟩
      | some op =>
        simp only [step, halted, fetched, decoded, Bool.false_eq_true, if_false] at failed
        split at failed
        · cases failed
        · rename_i reason left run
          cases failed
          exact Or.inr ⟨op, left, by simp [opcode?, fetched, decoded], run, rfl⟩

theorem halted_of_error (failed : m.step clock = .error fault after) : after.isHalted = true := by
  obtain ⟨-, ⟨-, rfl⟩ | ⟨op, left, -, -, rfl⟩⟩ := step_error failed
  · rfl
  · rfl

theorem runFrom_halted (halted : m.isHalted = true) (budget taken : Nat) :
    runFrom clock budget taken m = (taken, m) := by
  cases budget with
  | zero => rfl
  | succ budget => rw [runFrom, if_pos halted]

theorem runFrom_running (running : m.isHalted = false) (budget taken : Nat) :
    runFrom clock (budget + 1) taken m =
      runFrom clock budget (taken + 1) (m.step clock).state := by
  rw [runFrom, running, if_neg Bool.false_ne_true]
  cases stepped : m.step clock with
  | ok done after => rfl
  | error fault after => exact (runFrom_halted (halted_of_error stepped) _ _).symm

end ControlMachine.Machine
