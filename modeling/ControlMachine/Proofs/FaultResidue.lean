import ControlMachine.Proofs.ElementStores
import ControlMachine.Proofs.InstructionsInPlace
import ControlMachine.Proofs.Steps

/- What a faulting step leaves behind, when it changes the machine itself and nothing is taken back.
   Most instructions check everything before they write. A sequence of stores keeps the elements
   before the fault, a poll may have given up its slot, and a controller that could not be started
   has a new integral at most. -/
namespace ControlMachine.Machine
variable {R : Type} {m after : Machine R} {op : Opcode} {fault : Fault}

theorem residue_memory (left : m.Residue op after) (notReset : op ≠ .reset)
    (notElements : op ≠ .multiload) : after.memory = m.memory := by
  cases op with
  | reset => exact absurd rfl notReset
  | multiload => exact absurd rfl notElements
  | urlMapCheck =>
    obtain ⟨mappings, rfl⟩ := left
    rfl
  | pidRun =>
    obtain ⟨bank, rfl⟩ := left
    rfl
  | _ =>
    cases left
    rfl

theorem residue_mappings (left : m.Residue op after) (notReset : op ≠ .reset)
    (notPoll : op ≠ .urlMapCheck) : after.store.mappings = m.store.mappings := by
  cases op with
  | reset => exact absurd rfl notReset
  | urlMapCheck => exact absurd rfl notPoll
  | multiload =>
    obtain ⟨memory, rfl⟩ := left
    rfl
  | pidRun =>
    obtain ⟨bank, rfl⟩ := left
    rfl
  | _ =>
    cases left
    rfl

theorem residue_stack (left : m.Residue op after) (notReset : op ≠ .reset) :
    after.stack = m.stack := by
  cases op with
  | reset => exact absurd rfl notReset
  | multiload | urlMapCheck | pidRun =>
    obtain ⟨changed, rfl⟩ := left
    rfl
  | _ =>
    cases left
    rfl

theorem residue_bank (left : m.Residue op after) (notReset : op ≠ .reset)
    (notRun : op ≠ .pidRun) : after.bank = m.bank := by
  cases op with
  | reset => exact absurd rfl notReset
  | pidRun => exact absurd rfl notRun
  | multiload | urlMapCheck =>
    obtain ⟨changed, rfl⟩ := left
    rfl
  | _ =>
    cases left
    rfl

variable [Rational R]

/-- So many elements were stored one after another, and the next one faulted and stored nothing. -/
structure Interrupted (R : Type) [Rational R] (type : DataType) (s : Selector) (pc : UInt16)
    (dest count : Nat) (before after : Memory) (fault : Fault) (completed : Nat) : Prop where
  few : completed < count
  stored : ∃ middle, storeElements R type s completed dest before pc = .ok () (after, middle) ∧
    ∃ last, storeElements R type s 1 (dest + completed * type.bytes) after middle =
      .error fault (after, last)
  capacity : after.capacity = before.capacity
  outside : ∀ i, i < dest ∨ dest + completed * type.bytes ≤ i →
    after.byteAt i = before.byteAt i

/-- What a step that faults may have changed, by the instruction it was to run. -/
structure LeftByFault (m after : Machine R) (fault : Fault) : Prop where
  memory : m.opcode? ≠ some .reset → m.opcode? ≠ some .multiload → after.memory = m.memory
  header : m.opcode? = some .multiload →
    ∀ reason last, m.elementsHeader (m.pc + 1) = .error reason last → after.memory = m.memory
  elements : m.opcode? = some .multiload →
    ∀ s type dest count pc, m.elementsHeader (m.pc + 1) = .ok (s, type, dest, count) pc →
      ∃ completed, Interrupted R type s pc dest.toNat count.toNat m.memory after.memory fault
        completed
  mappings : m.opcode? ≠ some .reset → m.opcode? ≠ some .urlMapCheck →
    after.store.mappings = m.store.mappings
  stack : m.opcode? ≠ some .reset → after.stack = m.stack
  bank : m.opcode? ≠ some .reset → m.opcode? ≠ some .pidRun → after.bank = m.bank
  unaddressed : m.opcode? = some .pidRun → m.addressed? = none → after.bank = m.bank
  seeded : m.opcode? = some .pidRun → ∀ id c, m.addressed? = some (id, c) →
    c.mode = .manual ∧ ∃ integral, after.bank = m.bank.set id { c with integral := integral }

theorem interrupted_of_error {type : DataType} {s : Selector} {pc last : UInt16}
    {dest count : Nat} {before after : Memory}
    (failed : storeElements R type s count dest before pc = .error fault (after, last)) :
    ∃ completed, Interrupted R type s pc dest count before after fault completed := by
  obtain ⟨k, middle, few, stored, here⟩ := storeElements_error failed
  refine ⟨k, few, ⟨middle, stored, last, here⟩, storeElements_capacity stored, ?_⟩
  intro i outside
  exact storeElements_outside stored outside

theorem multiload_header_residue (failed : m.multiload = .error fault after) {reason : Fault}
    {last : UInt16} (header : m.elementsHeader (m.pc + 1) = .error reason last) :
    after.memory = m.memory := by
  rcases multiload_error failed with ⟨rfl, -⟩ | ⟨s, type, dest, count, pc, _, _, read, -, -⟩
  · rfl
  · rw [header] at read
    cases read

theorem multiload_elements_residue (failed : m.multiload = .error fault after)
    {s : Selector} {type : DataType} {dest pc : UInt16} {count : UInt8}
    (header : m.elementsHeader (m.pc + 1) = .ok (s, type, dest, count) pc) :
    ∃ completed, Interrupted R type s pc dest.toNat count.toNat m.memory after.memory fault
      completed := by
  rcases multiload_error failed with ⟨-, last, read⟩ | ⟨_, _, _, _, _, memory, last, read, run, rfl⟩
  · rw [header] at read
    cases read
  · rw [header] at read
    cases read
    exact interrupted_of_error run

theorem leftByFault_unfetched (nothing : m.opcode? = none) :
    LeftByFault m (m.started.haltedBy fault) fault := by
  have never : ∀ op, m.opcode? ≠ some op := by
    intro op here
    rw [nothing] at here
    cases here
  constructor
  case memory => exact fun _ _ => rfl
  case header => exact fun here => absurd here (never _)
  case elements => exact fun here => absurd here (never _)
  case mappings => exact fun _ _ => rfl
  case stack => exact fun _ => rfl
  case bank => exact fun _ _ => rfl
  case unaddressed => exact fun _ _ => rfl
  case seeded => exact fun here => absurd here (never _)

theorem leftByFault_started {clock : Clock} {left : Machine R} (here : m.opcode? = some op)
    (run : m.started.execute clock op = .error fault left) :
    LeftByFault m (left.haltedBy fault) fault := by
  have residue := execute_residue run
  have differs : ∀ {other : Opcode}, m.opcode? ≠ some other → op ≠ other := by
    intro other no same
    exact no (same ▸ here)
  have named : ∀ {other : Opcode}, m.opcode? = some other → op = other := by
    intro other same
    exact Option.some.inj (here.symm.trans same)
  constructor
  case memory =>
    intro notReset notElements
    have kept : left.memory = m.memory :=
      residue_memory (m := m.started) residue (differs notReset) (differs notElements)
    exact kept
  case header =>
    intro multiload reason last read
    cases named multiload
    have kept : left.memory = m.memory :=
      multiload_header_residue (m := m.started) run read
    exact kept
  case elements =>
    intro multiload s type dest count pc read
    cases named multiload
    have interrupted : ∃ completed, Interrupted R type s pc dest.toNat count.toNat m.memory
        left.memory fault completed := multiload_elements_residue (m := m.started) run read
    exact interrupted
  case mappings =>
    intro notReset notPoll
    have kept : left.store.mappings = m.store.mappings :=
      residue_mappings (m := m.started) residue (differs notReset) (differs notPoll)
    exact kept
  case stack =>
    intro notReset
    have kept : left.stack = m.stack :=
      residue_stack (m := m.started) residue (differs notReset)
    exact kept
  case bank =>
    intro notReset notRun
    have kept : left.bank = m.bank :=
      residue_bank (m := m.started) residue (differs notReset) (differs notRun)
    exact kept
  case unaddressed =>
    intro starting nobody
    cases named starting
    have same := (changeMode_error (m := m.started) run).1 nobody
    rw [same]
    rfl
  case seeded =>
    intro starting id c addressed
    cases named starting
    obtain ⟨-, manual, integral, rfl⟩ := (changeMode_error (m := m.started) run).2 id c addressed
    exact ⟨manual, integral, rfl⟩

theorem leftByFault_of_step {clock : Clock} (failed : m.step clock = .error fault after) :
    LeftByFault m after fault := by
  rcases step_error failed with ⟨-, ⟨nothing, rfl⟩ | ⟨op, left, here, run, rfl⟩⟩
  · exact leftByFault_unfetched nothing
  · exact leftByFault_started here run

/-- The step that is done in place is the step of the machine, and where it breaks off it has changed
    this much. -/
structure FaultConfined (m : Machine R) (clock : Clock) : Prop where
  same : stepInPlace clock m = m.step clock
  left : ∀ fault after, stepInPlace clock m = .error fault after → LeftByFault m after fault

theorem step_fault_residue (m : Machine R) (clock : Clock) : FaultConfined m clock := by
  constructor
  case same => exact stepInPlace_eq clock m
  case left =>
    intro fault after failed
    rw [stepInPlace_eq] at failed
    exact leftByFault_of_step failed

def overlong : Machine Fixed := filled [0x21, 0x05, 0x07, 0x00, 0x02, 0x11, 0x22, 0x33]

theorem step_fault_residue_overlong :
    stepInPlace ⟨0⟩ overlong =
        .error (.accessViolation .store 8 1) (overlong.step ⟨0⟩).state ∧
      overlong.opcode? = some .multiload ∧
      (overlong.step ⟨0⟩).state.memory.byteAt 7 = 0x11 ∧
      ∀ i, i < 7 → (overlong.step ⟨0⟩).state.memory.byteAt i = overlong.memory.byteAt i := by
  have failed : stepInPlace ⟨0⟩ overlong =
      .error (.accessViolation .store 8 1) (overlong.step ⟨0⟩).state := by
    rw [stepInPlace_eq]
    rfl
  have here : overlong.opcode? = some .multiload := by rfl
  refine ⟨failed, here, by rfl, ?_⟩
  intro i below
  have left := (step_fault_residue overlong ⟨0⟩).left _ _ failed
  obtain ⟨completed, interrupted⟩ := left.elements here ⟨0x05⟩ (.word .one) 7 2 5 (by rfl)
  exact interrupted.outside i (Or.inl below)

end ControlMachine.Machine
