import ControlMachine.Proofs.Steps

/- Flags, status word and program counter agree. A running machine has clean flags, and a machine
   that a fault halted stands at the instruction that raised it and has its error code. -/
namespace ControlMachine

theorem Status.toNat_word (s : Status) :
    s.word.toNat = (s.pc.toNat * 256 + s.opcode.toNat) * 256 + s.code.toNat := by
  have place := s.pc.toNat_lt
  have opcode := s.opcode.toNat_lt
  have code := s.code.toNat_lt
  have high : s.pc.toNat <<< 16 = (s.pc.toNat <<< 8) <<< 8 := Nat.shiftLeft_add _ 8 8
  have small : s.pc.toNat <<< 16 < 2 ^ 32 := by
    rw [Nat.shiftLeft_eq]
    omega
  have middle : s.opcode.toNat <<< 8 < 2 ^ 32 := by
    rw [Nat.shiftLeft_eq]
    omega
  simp only [Status.word, UInt32.toNat_or, UInt32.toNat_shiftLeft, UInt16.toNat_toUInt32,
    UInt8.toNat_toUInt32]
  rw [show (16 : UInt32).toNat % 32 = 16 from rfl, show (8 : UInt32).toNat % 32 = 8 from rfl,
    Nat.mod_eq_of_lt small, Nat.mod_eq_of_lt middle, high, ← Nat.shiftLeft_or_distrib,
    ← Nat.shiftLeft_add_eq_or_of_lt opcode, ← Nat.shiftLeft_add_eq_or_of_lt code,
    Nat.shiftLeft_eq, Nat.shiftLeft_eq]

theorem Status.word_low (s : Status) : s.word.toUInt8 = s.code := by
  have code := s.code.toNat_lt
  apply UInt8.toNat_inj.mp
  rw [UInt32.toNat_toUInt8, toNat_word]
  omega

theorem Status.word_high (s : Status) : s.word >>> 16 = s.pc.toUInt32 := by
  have opcode := s.opcode.toNat_lt
  have code := s.code.toNat_lt
  apply UInt32.toNat_inj.mp
  rw [UInt32.toNat_shiftRight, toNat_word, UInt16.toNat_toUInt32,
    show (16 : UInt32).toNat % 32 = 16 from rfl, Nat.shiftRight_eq_div_pow]
  omega

theorem Flags.byte_halted (f : Flags) : f.byte &&& 0x01 ≠ 0 ↔ f.halted = true := by
  rcases f with ⟨_ | _, _ | _, _ | _⟩ <;> decide

theorem Flags.byte_error (f : Flags) : f.byte &&& 0x02 ≠ 0 ↔ f.error = true := by
  rcases f with ⟨_ | _, _ | _, _ | _⟩ <;> decide

theorem Flags.byte_divide (f : Flags) : f.byte &&& 0x04 ≠ 0 ↔ f.divideByZero = true := by
  rcases f with ⟨_ | _, _ | _, _ | _⟩ <;> decide

theorem Fault.code_eq_two {fault : Fault} : fault.code = 2 ↔ fault = .divideByZero := by
  cases fault <;> simp [Fault.code]

namespace Machine
variable {R : Type} {m after : Machine R} {op : Opcode} {fault : Fault}

theorem effect_status (effect : m.Effect op after) : after.status = m.status := by
  cases op with
  | halt | jump | compare | compareTime =>
    cases effect
    rfl
  | push | pop | reset => exact effect.elim
  | urlMapCheck =>
    obtain ⟨mappings, memory, rfl⟩ := effect
    rfl
  | _ =>
    obtain ⟨changed, rfl⟩ := effect
    rfl

theorem effect_flags (effect : m.Effect op after) :
    after.flags = m.flags ∨ op = .halt ∧ after.flags = { m.flags with halted := true } := by
  cases op with
  | halt =>
    cases effect
    exact Or.inr ⟨rfl, rfl⟩
  | jump | compare | compareTime =>
    cases effect
    exact Or.inl rfl
  | push | pop | reset => exact effect.elim
  | urlMapCheck =>
    obtain ⟨mappings, memory, rfl⟩ := effect
    exact Or.inl rfl
  | _ =>
    obtain ⟨changed, rfl⟩ := effect
    exact Or.inl rfl

theorem residue_registers (left : m.Residue op after) :
    after.status = m.status ∧ after.flags = m.flags ∧ after.pc = m.pc := by
  cases op with
  | multiload | urlMapCheck | pidRun =>
    obtain ⟨changed, rfl⟩ := left
    exact ⟨rfl, rfl, rfl⟩
  | _ =>
    cases left
    exact ⟨rfl, rfl, rfl⟩

/-- The registers of a machine that only its own steps and its host have changed. -/
structure Registered (m : Machine R) : Prop where
  running : m.flags.halted = false → m.flags = .clean
  error : m.flags.error = true ↔ m.status.code ≠ 0
  divide : m.flags.divideByZero = true ↔ m.status.code = 2
  place : m.flags.halted = true → m.status.pc = m.pc

theorem registered_clean (flags : m.flags = .clean) (code : m.status.code = 0) :
    Registered m where
  running := fun _ => flags
  error := by simp [flags, code, Flags.clean]
  divide := by simp [flags, code, Flags.clean]
  place := by simp [flags, Flags.clean]

structure Coherent (m : Machine R) : Prop where
  flags : m.flags.byte ∈ [0x00, 0x01, 0x03, 0x07]
  error : m.flags.byte &&& 0x02 ≠ 0 ↔ m.status.word.toUInt8 ≠ 0
  divide : m.flags.byte &&& 0x04 ≠ 0 ↔ m.status.word.toUInt8 = 2
  place : m.flags.byte &&& 0x01 ≠ 0 → m.status.word >>> 16 = m.pc.toUInt32

theorem coherent_of_registered (registered : Registered m) : Coherent m where
  flags := by
    rcases found : m.flags with ⟨_ | _, error, divide⟩
    · have clean := registered.running (by rw [found])
      rw [found] at clean
      rw [clean]
      decide
    · -- the code that sets the third flag is not zero, so it sets the second one as well
      have bits : divide = true → error = true := by
        intro set
        have code := registered.divide.mp (by rw [found]; exact set)
        have failed := registered.error.mpr (by rw [code]; decide)
        rw [found] at failed
        exact failed
      cases error <;> cases divide <;> first | decide | exact absurd (bits rfl) (by decide)
  error := by
    rw [Flags.byte_error, Status.word_low]
    exact registered.error
  divide := by
    rw [Flags.byte_divide, Status.word_low]
    exact registered.divide
  place := by
    rw [Flags.byte_halted, Status.word_high]
    intro halted
    rw [registered.place halted]

variable [Rational R] {clock : Clock}

theorem step_ok_registers (running : m.isHalted = false) (done : m.step clock = .ok () after) :
    after.status = ⟨m.pc, m.fetchedByte, 0⟩ ∧
      (after.flags = m.flags ∨
        after.flags = { m.flags with halted := true } ∧ after.pc = m.pc) := by
  rcases step_ok done with ⟨halted, -⟩ | ⟨-, op, next, changed, -, run, rfl⟩
  · rw [running] at halted
    cases halted
  · have effect := execute_effect run
    refine ⟨effect_status effect, ?_⟩
    rcases effect_flags effect with same | ⟨rfl, halted⟩
    · exact Or.inl same
    · cases run
      exact Or.inr ⟨halted, rfl⟩

theorem step_error_registers (failed : m.step clock = .error fault after) :
    after.status = ⟨m.pc, m.fetchedByte, fault.code⟩ ∧
      after.flags = ⟨true, true, m.flags.divideByZero || decide (fault = .divideByZero)⟩ ∧
      after.pc = m.pc := by
  rcases step_error failed with ⟨-, ⟨-, rfl⟩ | ⟨op, left, -, run, rfl⟩⟩
  · exact ⟨rfl, rfl, rfl⟩
  · obtain ⟨status, flags, pc⟩ := residue_registers (execute_residue run)
    refine ⟨?_, ?_, pc⟩
    · rw [haltedBy, status]
      rfl
    · rw [haltedBy, flags]
      rfl

theorem step_registered (clock : Clock) (before : Registered m) :
    Registered (m.step clock).state := by
  cases halted : m.isHalted with
  | true =>
    rw [step_halted halted]
    exact before
  | false =>
    have clean := before.running halted
    cases outcome : m.step clock with
    | ok u after =>
      obtain ⟨status, flags⟩ := step_ok_registers halted outcome
      have code : after.status.code = 0 := by rw [status]
      rcases flags with same | ⟨halts, place⟩
      · exact registered_clean (same.trans clean) code
      · constructor
        · intro goesOn
          rw [Outcome.state, halts] at goesOn
          cases goesOn
        · simp [Outcome.state, halts, clean, code, Flags.clean]
        · simp [Outcome.state, halts, clean, code, Flags.clean]
        · intro _
          rw [Outcome.state, status, place]
    | error fault after =>
      obtain ⟨status, flags, place⟩ := step_error_registers outcome
      constructor
      · intro goesOn
        rw [Outcome.state, flags] at goesOn
        cases goesOn
      · simp [Outcome.state, flags, status, Fault.code_ne_zero]
      · simp [Outcome.state, flags, status, clean, Flags.clean, Fault.code_eq_two]
      · intro _
        rw [Outcome.state, status, place]

theorem runFrom_registered (clock : Clock) (budget taken : Nat) (before : Registered m) :
    Registered (runFrom clock budget taken m).2 := by
  induction budget generalizing m taken with
  | zero => exact before
  | succ budget ih =>
    cases halted : m.isHalted with
    | true =>
      rw [runFrom_halted halted]
      exact before
    | false =>
      rw [runFrom_running halted]
      exact ih (taken + 1) (step_registered clock before)

/-- What the host of a machine can do, and what others can do to what they share with it. A run
    that others disturb, or that sees the clock move, is a sequence of steps. -/
inductive HostAction (R : Type) where
  | load (program : List UInt8)
  | clear
  | reset
  | step (clock : Clock)
  | run (clock : Clock) (budget : Nat)
  | disturb (store : Store) (bank : Bank R)

def perform (m : Machine R) : HostAction R → Machine R
  | .load program =>
    match m.loadProgram program with
    | .ok loaded => loaded
    | .error _ => m
  | .clear => m.clear
  | .reset => m.reset
  | .step clock => (m.step clock).state
  | .run clock budget => (m.run clock budget).2
  | .disturb store bank => { m with store := store, bank := bank }

theorem perform_registered (action : HostAction R) (before : Registered m) :
    Registered (m.perform action) := by
  cases action with
  | load program =>
    unfold perform
    cases written : m.memory.writeBytes 0 program with
    | error reason =>
      simp only [loadProgram, written]
      exact before
    | ok memory =>
      simp only [loadProgram, written]
      exact registered_clean rfl rfl
  | clear | reset => exact registered_clean rfl rfl
  | step clock => exact step_registered clock before
  | run clock budget => exact runFrom_registered clock budget 0 before
  | disturb store bank => exact ⟨before.running, before.error, before.divide, before.place⟩

def hosted (store : Store) (bank : Bank R) (stackDepth : Nat) (actions : List (HostAction R)) :
    Machine R :=
  actions.foldl perform (.ofParts store bank stackDepth)

theorem foldl_perform_registered (actions : List (HostAction R)) (before : Registered m) :
    Registered (actions.foldl perform m) := by
  induction actions generalizing m with
  | nil => exact before
  | cons action actions ih => exact ih (perform_registered action before)

structure Reported (m : Machine R) (clock : Clock) : Prop where
  succeeded : ∀ after, m.step clock = .ok () after →
    after.status.word = m.pc.toUInt32 <<< 16 ||| m.fetchedByte.toUInt32 <<< 8 ||| 0
  failed : ∀ fault after, m.step clock = .error fault after →
    after.status.word =
        m.pc.toUInt32 <<< 16 ||| m.fetchedByte.toUInt32 <<< 8 ||| fault.code.toUInt32 ∧
      after.pc = m.pc ∧ after.isHalted = true

theorem reported_of_running (running : m.isHalted = false) (clock : Clock) :
    Reported m clock where
  succeeded := by
    intro after done
    rw [(step_ok_registers running done).1]
    rfl
  failed := by
    intro fault after stopped
    obtain ⟨status, flags, place⟩ := step_error_registers stopped
    refine ⟨?_, place, ?_⟩
    · rw [status]
      rfl
    · rw [isHalted, flags]

/-- Whatever the host and others do, the registers of a machine agree, and each step that it takes
    reports where it was taken, which byte was fetched and what went wrong. -/
theorem hosted_coherent (store : Store) (bank : Bank R) (stackDepth : Nat)
    (actions : List (HostAction R)) :
    Coherent (hosted store bank stackDepth actions) ∧
      ∀ clock, (hosted store bank stackDepth actions).isHalted = false →
        Reported (hosted store bank stackDepth actions) clock := by
  constructor
  · have start : Registered (ofParts store bank stackDepth) := registered_clean rfl rfl
    exact coherent_of_registered (foldl_perform_registered actions start)
  · intro clock running
    exact reported_of_running running clock

def rewinding : List (HostAction Fixed) :=
  [.load (List.replicate 9 0xFF), .load [0x04, 0x05, 0x00, 0x00, 0x00], .run ⟨0⟩ 3, .clear]

def rewound : Machine Fixed := hosted (.ofSizes 8 1) (.ofCount 1) 1 rewinding

theorem hosted_coherent_rewound :
    rewound.isHalted = false ∧ Coherent rewound ∧
      rewound.step ⟨0⟩ = .error .divideByZero (rewound.step ⟨0⟩).state ∧
      (rewound.step ⟨0⟩).state.status.word = 0x00000402 := by
  have running : rewound.isHalted = false := by rfl
  have failed : rewound.step ⟨0⟩ = .error .divideByZero (rewound.step ⟨0⟩).state := by rfl
  obtain ⟨coherent, reported⟩ := hosted_coherent (.ofSizes 8 1) (.ofCount 1) 1 rewinding
  refine ⟨running, coherent, failed, ?_⟩
  exact ((reported ⟨0⟩ running).failed _ _ failed).1

end Machine
end ControlMachine
