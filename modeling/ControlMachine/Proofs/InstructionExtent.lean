import ControlMachine.Number.Fixed
import ControlMachine.Proofs.ElementStores
import ControlMachine.Proofs.Steps
import ControlMachine.Proofs.Tracking

/- Running an instruction and showing it as text take the same bytes. The machine skips a value in
   the code and reads it later as a cell of memory, while the text shows it byte by byte. -/
namespace ControlMachine.Fetch
open Disassembly
variable {R : Type} [Rational R] {α β γ δ : Type} {memory : Memory} {wider : Code}

/-- Whoever skips an operand and finds all of it in memory has skipped what the text shows. The
    memory may have changed since, as long as its size has not. -/
theorem operandText_of_operand (wide : Code.Extends memory.load wider) {current : Memory}
    {s : Selector} {width : Nat} {pc source last : UInt16}
    (same : current.capacity = memory.capacity)
    (skipped : operand current.load s width pc = .ok source last)
    (inside : source.toNat + width ≤ current.capacity) :
    ∃ text, operandText wider s width pc = .ok text last := by
  unfold operand at skipped
  unfold operandText
  split at skipped
  · rename_i literal
    obtain ⟨rfl, moved⟩ := advance_eq_ok.mp skipped
    have read : bytes memory.load width source = .ok (memory.slice source.toNat width) last :=
      bytes_eq_ok.mpr ⟨rfl, moved, Or.inr (by omega)⟩
    rw [if_pos literal]
    exact ⟨_, bind_eq_ok.mpr ⟨_, last, bytes_keeps wide width _ _ _ read, rfl⟩⟩
  · rename_i pointer
    obtain ⟨-, moved, room⟩ := address_eq_ok.mp skipped
    have read : address memory.load pc = .ok _ last :=
      address_eq_ok.mpr ⟨rfl, moved, by omega⟩
    rw [if_neg pointer]
    exact ⟨_, bind_eq_ok.mpr ⟨_, last, address_keeps wide _ _ _ read, rfl⟩⟩

theorem operand_tracks (wide : Code.Extends memory.load wider) (s : Selector) (width : Nat)
    {f : UInt16 → Fetch γ} {g : String → Fetch δ}
    (inside : ∀ source pc c last, f source pc = .ok c last →
      source.toNat + width ≤ memory.capacity)
    (rest : ∀ source text, Tracks (f source) (g text)) :
    Tracks (operand memory.load s width >>= f) (operandText wider s width >>= g) := by
  intro pc c last done
  obtain ⟨source, middle, head, tail⟩ := bind_eq_ok.mp done
  obtain ⟨text, seen⟩ := operandText_of_operand wide rfl head (inside source middle c last tail)
  obtain ⟨d, ends⟩ := rest source text middle c last tail
  exact ⟨d, bind_eq_ok.mpr ⟨text, middle, seen, ends⟩⟩

theorem cells_tracks (wide : Code.Extends memory.load wider) (s : Selector) (width : Nat)
    {f : UInt16 × UInt16 → Fetch γ} {g : UInt16 → String → Fetch δ}
    (inside : ∀ dest source pc c last, f (dest, source) pc = .ok c last →
      source.toNat + width ≤ memory.capacity)
    (rest : ∀ dest source text, Tracks (f (dest, source)) (g dest text)) :
    Tracks (Machine.cells memory.load s width >>= f)
      (do let dest ← address wider
          let text ← operandText wider s width
          g dest text) := by
  simp only [Machine.cells, bind_assoc, pure_bind]
  refine Tracks.bind_keeps (address_keeps wide) fun dest => ?_
  exact operand_tracks wide s width (inside dest) (rest dest)

theorem string_tracks (wide : Code.Extends memory.load wider) (literal : Bool) :
    Tracks (Machine.textAddress memory.load literal) (stringText wider literal) := by
  unfold Machine.textAddress stringText
  cases literal with
  | true =>
    intro pc a last done
    rw [if_pos rfl] at done
    obtain ⟨start, middle, head, tail⟩ := bind_eq_ok.mp done
    obtain ⟨rfl, rfl⟩ := get_eq_ok.mp head
    obtain ⟨values, ends, read, same⟩ := bind_eq_ok.mp tail
    obtain ⟨-, rfl⟩ := pure_eq_ok.mp same
    exact ⟨_, bind_eq_ok.mpr ⟨values, ends, text_keeps wide _ _ _ read, rfl⟩⟩
  | false =>
    intro pc a last done
    exact ⟨_, bind_eq_ok.mpr ⟨a, last, address_keeps wide _ _ _ done, rfl⟩⟩

theorem inlineNumber_tracks (wide : Code.Extends memory.load wider) :
    Tracks (Machine.inlineNumber memory : Fetch R) (numberText R wider) := by
  intro pc x last done
  obtain ⟨start, middle, head, tail⟩ := bind_eq_ok.mp done
  obtain ⟨rfl, moved⟩ := advance_eq_ok.mp head
  obtain ⟨loaded, rfl⟩ := lift_eq_ok.mp tail
  have inside := (Memory.loadRational_eq_ok.mp loaded).1
  have read : bytes memory.load 4 start = .ok (memory.slice start.toNat 4) middle :=
    bytes_eq_ok.mpr ⟨rfl, moved, Or.inr (by omega)⟩
  exact ⟨_, bind_eq_ok.mpr ⟨_, middle, bytes_keeps wide 4 _ _ _ read, rfl⟩⟩

/-- The machine may ask more of the selector than the text does. -/
theorem typed_tracks (wide : Code.Extends memory.load wider) (op : Opcode)
    {check : Selector → Except Fault α} (typeOf : α → DataType)
    {f : Selector → α → UInt16 × UInt16 → Fetch γ} {g : String → Fetch δ}
    (agrees : ∀ s t, check s = .ok t → op.dataType s = .ok (typeOf t))
    (inside : ∀ s t dest source pc c last, f s t (dest, source) pc = .ok c last →
      source.toNat + (typeOf t).bytes ≤ memory.capacity)
    (rest : ∀ s t dest source text, Tracks (f s t (dest, source)) (g text)) :
    Tracks
      (do let s ← selector memory.load
          let t ← lift (check s)
          let cells ← Machine.cells memory.load s (typeOf t).bytes
          f s t cells)
      (typedText wider op >>= g) := by
  simp only [typedText, bind_assoc, pure_bind]
  refine Tracks.bind_keeps (selector_keeps wide) fun s => ?_
  refine Tracks.lift_bind fun t checked => Tracks.bind_lift (agrees s t checked) ?_
  exact cells_tracks wide s _ (inside s t) fun dest source text => rest s t dest source _

theorem wordType_agrees {op : Opcode} {s : Selector} {width : Width}
    (checked : op.wordType s = .ok width) : op.dataType s = .ok (.word width) := by
  unfold Opcode.wordType at checked
  obtain ⟨type, found, same⟩ := except_bind_eq_ok.mp checked
  cases type with
  | word w =>
    cases same
    exact found
  | rational => cases same

/-- By induction on the elements: each operand is read from memory as changed so far, but how many
    bytes it takes is settled by the selector. -/
theorem operandTexts_of_elements (wide : Code.Extends memory.load wider) {type : DataType}
    {s : Selector} {count target : Nat} {current after : Memory} {pc last : UInt16}
    (same : current.capacity = memory.capacity)
    (stored : Machine.storeElements R type s count target current pc = .ok () (after, last)) :
    ∃ texts, operandTexts wider s type.bytes count pc = .ok texts last := by
  induction count generalizing target current pc with
  | zero =>
    cases stored
    exact ⟨[], rfl⟩
  | succ count ih =>
    obtain ⟨source, next, middle, skipped, -, moved, rest⟩ :=
      Machine.storeElements_succ_ok.mp stored
    obtain ⟨inside, patched⟩ := Memory.move_effect moved
    have width := Memory.overwritten_capacity patched
    obtain ⟨text, seen⟩ := operandText_of_operand wide same skipped inside
    obtain ⟨texts, more⟩ := ih (width.trans same) rest
    exact ⟨text :: texts, bind_eq_ok.mpr ⟨text, next, seen, bind_eq_ok.mpr ⟨texts, last, more, rfl⟩⟩⟩

end ControlMachine.Fetch

namespace ControlMachine
open Fetch Disassembly

def Opcode.goesOn : Opcode → Bool
  | .halt | .jump | .compare | .call | .ret | .compareTime => false
  | _ => true

namespace Machine
variable {R : Type} {m after : Machine R} {next : UInt16} {α : Type}

theorem changingMemory_extent {act : Fetch Memory} {shown : Fetch α} (tracked : Tracks act shown)
    (done : m.changingMemory act = .ok next after) : ∃ a, shown (m.pc + 1) = .ok a next := by
  obtain ⟨memory, run, -⟩ := changingMemory_ok done
  exact tracked _ _ _ run

theorem changingMappings_extent {act : Fetch MappingTable} {shown : Fetch α}
    (tracked : Tracks act shown) (done : m.changingMappings act = .ok next after) :
    ∃ a, shown (m.pc + 1) = .ok a next := by
  obtain ⟨mappings, run, -⟩ := changingMappings_ok done
  exact tracked _ _ _ run

theorem changingBank_extent {act : Fetch (Bank R)} {shown : Fetch α} (tracked : Tracks act shown)
    (done : m.changingBank act = .ok next after) : ∃ a, shown (m.pc + 1) = .ok a next := by
  obtain ⟨bank, run, -⟩ := changingBank_ok done
  exact tracked _ _ _ run

theorem branching_extent {act : Fetch (UInt16 × CallStack)} {shown : Fetch α}
    (tracked : Tracks act shown) (done : m.branching act = .ok next after) :
    ∃ a last, shown (m.pc + 1) = .ok a last := by
  obtain ⟨stack, last, run, -⟩ := branching_ok done
  obtain ⟨a, seen⟩ := tracked _ _ _ run
  exact ⟨a, last, seen⟩

variable [Rational R] {clock : Clock} {wider : Code}

theorem initHeader_tracks (wide : Code.Extends m.code wider) :
    Tracks m.initHeader (operands R wider .pidInit) := by
  refine Tracks.bind_keeps (selector_keeps wide) fun s => ?_
  refine Tracks.lift_bind fun c found => ?_
  simp only [pidSettings, bind_assoc, pure_bind]
  refine Tracks.bind_keeps (address_keeps wide) fun input => ?_
  refine Tracks.bind_keeps (address_keeps wide) fun output => ?_
  refine Tracks.bind_keeps (address_keeps wide) fun setpoint => ?_
  refine Tracks.bind (inlineNumber_tracks wide) fun kp kpText => ?_
  refine Tracks.bind (inlineNumber_tracks wide) fun ki kiText => ?_
  refine Tracks.bind (inlineNumber_tracks wide) fun kd kdText => ?_
  refine Tracks.bind_keeps (unsigned_keeps wide) fun sample => ?_
  refine Tracks.bind (inlineNumber_tracks wide) fun lower lowerText => ?_
  refine Tracks.bind (inlineNumber_tracks wide) fun upper upperText => ?_
  exact Tracks.bind_keeps (byte_keeps wide) fun direction => Tracks.pure_pure _ _

theorem execute_extent (wide : Code.Extends m.code wider) {op : Opcode}
    (goes : op.goesOn = true) (done : m.execute clock op = .ok next after) :
    ∃ text, operands R wider op (m.pc + 1) = .ok text next := by
  cases op with
  | halt | jump | compare | call | ret | compareTime => cases goes
  | push | pop | reset => cases done
  | arithmetic a =>
    refine changingMemory_extent ?_ done
    show Tracks _ (typedText wider (.arithmetic a))
    rw [← bind_pure (typedText wider _)]
    refine typed_tracks wide _ id (fun _ _ found => found) ?_
      fun _ _ _ _ _ => Tracks.lift_pure _ _
    intro s type dest source pc c last run
    exact Memory.arithmetic_source (lift_eq_ok.mp run).1
  | bitwise b =>
    refine changingMemory_extent ?_ done
    show Tracks _ (typedText wider (.bitwise b))
    rw [← bind_pure (typedText wider _)]
    refine typed_tracks wide _ .word (fun _ _ => wordType_agrees) ?_
      fun _ _ _ _ _ => Tracks.lift_pure _ _
    intro s width dest source pc c last run
    exact Memory.bitwise_source (lift_eq_ok.mp run).1
  | load =>
    refine changingMemory_extent ?_ done
    show Tracks _ (typedText wider .load)
    rw [← bind_pure (typedText wider _)]
    refine typed_tracks wide _ id (fun _ _ found => found) ?_
      fun _ _ _ _ _ => Tracks.lift_pure _ _
    intro s type dest source pc c last run
    exact (Memory.move_effect (lift_eq_ok.mp run).1).1
  | not =>
    refine changingMemory_extent ?_ done
    refine Tracks.bind_keeps (selector_keeps wide) fun s => ?_
    refine Tracks.lift_bind fun width checked => Tracks.bind_lift (wordType_agrees checked) ?_
    exact Tracks.bind_keeps (address_keeps wide) fun dest => Tracks.lift_pure _ _
  | multiload =>
    obtain ⟨s, type, dest, count, pc, memory, header, stored, -⟩ := multiload_ok done
    obtain ⟨texts, shown⟩ := operandTexts_of_elements wide rfl stored
    obtain ⟨_, p1, read, rest⟩ := bind_eq_ok.mp header
    obtain ⟨_, p2, typed, rest⟩ := bind_eq_ok.mp rest
    obtain ⟨_, p3, start, rest⟩ := bind_eq_ok.mp rest
    obtain ⟨_, p4, number, rest⟩ := bind_eq_ok.mp rest
    obtain ⟨⟨⟩, rfl⟩ := pure_eq_ok.mp rest
    exact ⟨_, bind_eq_ok.mpr ⟨s, p1, selector_keeps wide _ _ _ read,
      bind_eq_ok.mpr ⟨type, p2, typed,
      bind_eq_ok.mpr ⟨dest, p3, address_keeps wide _ _ _ start,
      bind_eq_ok.mpr ⟨count, p4, byte_keeps wide _ _ _ number,
      bind_eq_ok.mpr ⟨texts, next, shown, rfl⟩⟩⟩⟩⟩⟩
  | copy =>
    refine changingMemory_extent ?_ done
    refine Tracks.bind_keeps (address_keeps wide) fun source => ?_
    refine Tracks.bind_keeps (byte_keeps wide) fun length => ?_
    exact Tracks.bind_keeps (address_keeps wide) fun dest => Tracks.lift_pure _ _
  | time =>
    refine changingMemory_extent ?_ done
    exact Tracks.bind_keeps (address_keeps wide) fun dest => Tracks.lift_pure _ _
  | urlMap =>
    refine changingMappings_extent ?_ done
    refine Tracks.bind_keeps (selector_keeps wide) fun s => ?_
    refine Tracks.bind_keeps (byte_keeps wide) fun options => ?_
    refine Tracks.bind_keeps (address_keeps wide) fun value => ?_
    refine Tracks.bind_keeps (address_keeps wide) fun port => ?_
    refine Tracks.bind (string_tracks wide _) fun url urlText => ?_
    exact Tracks.bind (string_tracks wide _) fun resource text => Tracks.lift_pure _ _
  | urlMapCheck =>
    obtain ⟨id, dest, _, _, _, header, -⟩ := checkMapping_ok done
    have tracked : Tracks m.pollHeader (operands R wider .urlMapCheck) :=
      Tracks.bind_keeps (selector_keeps wide) fun s =>
        Tracks.bind_keeps (address_keeps wide) fun a => Tracks.pure_pure _ _
    exact tracked _ _ _ header
  | urlMapDelete =>
    refine changingMappings_extent ?_ done
    exact Tracks.bind_keeps (selector_keeps wide) fun s => Tracks.lift_pure _ _
  | pidInit =>
    obtain ⟨id, settings, _, header, -⟩ := initController_ok done
    exact initHeader_tracks wide _ _ _ header
  | pidClear =>
    refine changingBank_extent ?_ done
    exact Tracks.bind_keeps (selector_keeps wide) fun s => Tracks.lift_pure _ _
  | pidStop | pidRun =>
    obtain ⟨s, _, read, -⟩ := changeMode_ok done
    exact ⟨_, bind_eq_ok.mpr ⟨s, next, selector_keeps wide _ _ _ read, rfl⟩⟩

theorem jump_shown (wide : Code.Extends m.code wider)
    (done : m.execute clock .jump = .ok next after) :
    ∃ text last, operands R wider .jump (m.pc + 1) = .ok text last := by
  refine branching_extent ?_ done
  refine Tracks.bind_keeps (selector_keeps wide) fun s => ?_
  refine operand_tracks wide s 2 ?_ fun source text =>
    Tracks.lift_bind fun target _ => Tracks.pure_pure _ _
  intro source pc c last run
  obtain ⟨target, middle, loaded, -⟩ := bind_eq_ok.mp run
  exact (Memory.loadAddress_eq_ok.mp (lift_eq_ok.mp loaded).1).1

theorem compare_shown (wide : Code.Extends m.code wider)
    (done : m.execute clock .compare = .ok next after) :
    ∃ text last, operands R wider .compare (m.pc + 1) = .ok text last := by
  refine branching_extent ?_ done
  refine typed_tracks wide _ id (fun _ _ found => found) ?_ ?_
  · intro s type dest source pc c last run
    obtain ⟨order, middle, compared, -⟩ := bind_eq_ok.mp run
    exact Memory.compareCells_source (lift_eq_ok.mp compared).1
  · intro s type dest source text
    refine Tracks.lift_bind fun order _ => ?_
    refine Tracks.bind_keeps (address_keeps wide) fun less => ?_
    refine Tracks.bind_keeps (address_keeps wide) fun equal => ?_
    exact Tracks.bind_keeps (address_keeps wide) fun greater => Tracks.pure_pure _ _

theorem compareTime_shown (wide : Code.Extends m.code wider)
    (done : m.execute clock .compareTime = .ok next after) :
    ∃ text last, operands R wider .compareTime (m.pc + 1) = .ok text last := by
  refine branching_extent ?_ done
  refine Tracks.bind_keeps (address_keeps wide) fun stamp => ?_
  refine Tracks.bind_keeps (unsigned_keeps wide) fun timeout => ?_
  refine Tracks.bind_keeps (address_keeps wide) fun expired => ?_
  refine Tracks.bind_keeps (address_keeps wide) fun pending => ?_
  exact Tracks.lift_bind fun stored _ => Tracks.pure_pure _ _

/-- The address that a call pushes is the place where its text stops. -/
theorem call_shown (wide : Code.Extends m.code wider)
    (done : m.execute clock .call = .ok next after) :
    ∃ text last, operands R wider .call (m.pc + 1) = .ok text last ∧
      m.stack.push last = .ok after.stack := by
  obtain ⟨last, read, pushed⟩ := call_ok done
  have shown := address_keeps wide _ _ _ read
  exact ⟨_, last, bind_eq_ok.mpr ⟨next, last, shown, rfl⟩, pushed⟩

theorem execute_shown (wide : Code.Extends m.code wider) {op : Opcode}
    (done : m.execute clock op = .ok next after) :
    ∃ text last, operands R wider op (m.pc + 1) = .ok text last ∧
      (op.goesOn = true → next = last) ∧
      (op = .call → m.stack.push last = .ok after.stack) := by
  cases goes : op.goesOn with
  | true =>
    obtain ⟨text, shown⟩ := execute_extent wide goes done
    refine ⟨text, next, shown, fun _ => rfl, ?_⟩
    rintro rfl
    cases goes
  | false =>
    cases op with
    | halt | ret => exact ⟨"", m.pc + 1, rfl, nofun, nofun⟩
    | jump =>
      obtain ⟨text, last, shown⟩ := jump_shown wide done
      exact ⟨text, last, shown, nofun, nofun⟩
    | compare =>
      obtain ⟨text, last, shown⟩ := compare_shown wide done
      exact ⟨text, last, shown, nofun, nofun⟩
    | compareTime =>
      obtain ⟨text, last, shown⟩ := compareTime_shown wide done
      exact ⟨text, last, shown, nofun, nofun⟩
    | call =>
      obtain ⟨text, last, shown, pushed⟩ := call_shown wide done
      exact ⟨text, last, shown, nofun, fun _ => pushed⟩
    | _ => cases goes

theorem instruction_eq_ok {code : Code} {op : Opcode} {pc last : UInt16} {text : String}
    (fetched : byte code pc = .ok op.byte (pc + 1))
    (shown : operands R code op (pc + 1) = .ok text last) :
    instruction R code pc = .ok ⟨op, text⟩ last := by
  refine bind_eq_ok.mpr ⟨op.byte, pc + 1, fetched, ?_⟩
  rw [Opcode.ofByte_byte]
  exact bind_eq_ok.mpr ⟨text, last, shown, rfl⟩

/-- Wherever a running machine gets through an instruction, the instruction can be shown as text,
    from memory or from a copy of its bytes, and the text stops where the machine goes on. -/
theorem step_extent (m after : Machine R) (clock : Clock) (running : m.isHalted = false)
    (done : m.step clock = .ok () after) :
    ∀ code ∈ [m.code, Code.ofArray m.memory.bytes.data],
      ∃ line last, instruction R code m.pc = .ok line last ∧
        m.memory.load m.pc = .ok line.opcode.byte ∧
        (line.opcode.goesOn = true → after.pc = last) ∧
        (line.opcode = .call → m.stack.push last = .ok after.stack) := by
  intro code member
  have wide : m.code.Extends code := by
    simp only [List.mem_cons, List.not_mem_nil, or_false] at member
    rcases member with rfl | rfl
    · exact Code.extends_refl _
    · exact Code.load_extends_ofArray m.memory
  rcases step_ok done with ⟨halted, -⟩ | ⟨-, op, next, changed, here, run, rfl⟩
  · rw [running] at halted
    cases halted
  · have loaded := opcode_eq_some.mp here
    obtain ⟨text, last, shown, goes, pushed⟩ := execute_shown (m := m.started) wide run
    have room := (Memory.load_eq_ok.mp loaded).1
    have small := m.memory.addressable
    have fetched : byte code m.pc = .ok op.byte (m.pc + 1) :=
      byte_code_eq_ok.mpr ⟨wide _ _ loaded, toNat_next (Nat.le_trans room small)⟩
    exact ⟨⟨op, text⟩, last, instruction_eq_ok fetched shown, loaded, goes, pushed⟩

/-- Two bytes are to be stored from address 6 on, where the second of them still has to be read. -/
def overwriting : Machine Fixed := filled [0x21, 0x05, 0x06, 0x00, 0x02, 0x11, 0x22, 0x33]

theorem step_extent_overwriting :
    overwriting.isHalted = false ∧
      overwriting.step ⟨0⟩ = .ok () (overwriting.step ⟨0⟩).state ∧
      (overwriting.step ⟨0⟩).state.memory.byteAt 7 = 0x11 ∧
      ∃ line, instruction Fixed overwriting.code overwriting.pc = .ok line 7 ∧
        line.opcode = .multiload ∧ (overwriting.step ⟨0⟩).state.pc = 7 := by
  have done : overwriting.step ⟨0⟩ = .ok () (overwriting.step ⟨0⟩).state := by rfl
  obtain ⟨line, last, shown, loaded, goes, -⟩ :=
    step_extent overwriting _ ⟨0⟩ rfl done overwriting.code (by simp)
  have here : overwriting.opcode? = some .multiload := by rfl
  have opcode : line.opcode = .multiload :=
    Option.some.inj ((opcode_eq_some.mpr loaded).symm.trans here)
  have seven : (overwriting.step ⟨0⟩).state.pc = 7 := by rfl
  have ends : 7 = last := seven ▸ goes (by rw [opcode]; rfl)
  exact ⟨rfl, done, by rfl, line, ends ▸ shown, opcode, seven⟩

end Machine
end ControlMachine
