import ControlMachine.Proofs.ByteMoves
import ControlMachine.Proofs.InstructionExtent
import ControlMachine.Proofs.SlotChanges

/- Where a step that succeeds may write. The range is read off the bytes of the instruction as they
   were before the step, at fixed places after the opcode. All other bytes stay as they are, and so
   do all slots, controllers and stack entries that the instruction does not name. -/
namespace ControlMachine

theorem LittleEndian.value_lt (bs : List UInt8) : value bs < Nat.pow 256 bs.length := by
  have reduced := value_bytes bs.length (value bs)
  rw [bytes_value] at reduced
  have positive : 0 < Nat.pow 256 bs.length := Nat.pow_pos (by omega)
  have small := Nat.mod_lt (value bs) positive
  omega

def Selector.width (s : Selector) : Nat :=
  match s.dataType? with
  | some type => type.bytes
  | none => 0

theorem Opcode.dataType_width {op : Opcode} {s : Selector} {type : DataType}
    (named : op.dataType s = .ok type) : s.width = type.bytes := by
  unfold Opcode.dataType at named
  unfold Selector.width
  cases found : s.dataType? with
  | none =>
    rw [found] at named
    cases named
  | some other =>
    rw [found] at named
    cases named
    rfl

structure Extent where
  start : Nat
  length : Nat
  deriving DecidableEq, Repr

def Extent.Contains (e : Extent) (i : Nat) : Prop := e.start ≤ i ∧ i < e.start + e.length

def Extent.none : Extent := ⟨0, 0⟩

namespace Memory

def addressAt (m : Memory) (i : Nat) : Nat := LittleEndian.value (m.slice i 2)

/-- Memory kept its size, and nothing outside of the range was written. A range with any bytes at
    all lies in memory as a whole. -/
structure ChangedWithin (m after : Memory) (e : Extent) : Prop where
  size : after.capacity = m.capacity
  fits : 0 < e.length → e.start + e.length ≤ m.capacity
  outside : ∀ i, ¬ e.Contains i → after.byteAt i = m.byteAt i

theorem changedWithin_refl (m : Memory) (start : Nat) : ChangedWithin m m ⟨start, 0⟩ :=
  ⟨rfl, fun some => absurd some (Nat.lt_irrefl 0), fun _ _ => rfl⟩

theorem changedWithin_of_overwritten {m after : Memory} {start width : Nat}
    (patched : m.Overwritten after start width) : ChangedWithin m after ⟨start, width⟩ := by
  constructor
  · exact overwritten_capacity patched
  · intro _
    exact patched.fits
  · intro i outside
    apply overwritten_outside patched
    unfold Extent.Contains at outside
    dsimp only at outside
    omega

end Memory

namespace Fetch
variable {m : Memory} {pc last : UInt16}

theorem selector_eq_ok {s : Selector} :
    selector m.load pc = .ok s last ↔
      s = ⟨m.byteAt pc.toNat⟩ ∧ last.toNat = pc.toNat + 1 ∧ last.toNat ≤ m.capacity := by
  simp only [selector, map_eq_ok, byte_eq_ok]
  constructor
  · rintro ⟨b, ⟨rfl, moved, inside⟩, rfl⟩
    exact ⟨rfl, moved, inside⟩
  · rintro ⟨rfl, moved, inside⟩
    exact ⟨_, ⟨rfl, moved, inside⟩, rfl⟩

theorem address_place {a : UInt16} (read : address m.load pc = .ok a last) :
    a.toNat = m.addressAt pc.toNat ∧ last.toNat = pc.toNat + 2 := by
  obtain ⟨rfl, moved, -⟩ := address_eq_ok.mp read
  have small := LittleEndian.value_lt (m.slice pc.toNat 2)
  rw [Memory.length_slice] at small
  refine ⟨?_, moved⟩
  rw [UInt16.toNat_ofNat', Memory.addressAt]
  exact Nat.mod_eq_of_lt small

theorem selector_then_address {s : Selector} {a : UInt16} {middle : UInt16}
    (first : selector m.load pc = .ok s middle) (second : address m.load middle = .ok a last) :
    s = ⟨m.byteAt pc.toNat⟩ ∧ a.toNat = m.addressAt (pc.toNat + 1) ∧
      last.toNat = pc.toNat + 3 := by
  obtain ⟨rfl, moved, -⟩ := selector_eq_ok.mp first
  obtain ⟨place, ends⟩ := address_place second
  rw [moved] at place ends
  exact ⟨rfl, place, ends⟩

theorem typed_destination {α : Type} {op : Opcode} {check : Selector → Except Fault α}
    (typeOf : α → DataType) {act : α → UInt16 × UInt16 → Except Fault Memory} {after : Memory}
    (agrees : ∀ s t, check s = .ok t → op.dataType s = .ok (typeOf t))
    (writes : ∀ t dest source, act t (dest, source) = .ok after →
      m.Overwritten after dest.toNat (typeOf t).bytes)
    (done : (do
      let s ← selector m.load
      let t ← lift (check s)
      let cells ← Machine.cells m.load s (typeOf t).bytes
      lift (act t cells) : Fetch Memory) pc = .ok after last) :
    m.ChangedWithin after
      ⟨m.addressAt (pc.toNat + 1), Selector.width ⟨m.byteAt pc.toNat⟩⟩ := by
  obtain ⟨s, p1, read, rest⟩ := bind_eq_ok.mp done
  obtain ⟨t, p2, checked, rest⟩ := bind_eq_ok.mp rest
  obtain ⟨named, rfl⟩ := lift_eq_ok.mp checked
  obtain ⟨⟨dest, source⟩, p3, pair, rest⟩ := bind_eq_ok.mp rest
  obtain ⟨a, p4, start, rest'⟩ := bind_eq_ok.mp pair
  obtain ⟨b, p5, -, same⟩ := bind_eq_ok.mp rest'
  obtain ⟨⟨⟩, -⟩ := pure_eq_ok.mp same
  obtain ⟨written, -⟩ := lift_eq_ok.mp rest
  obtain ⟨rfl, place, -⟩ := selector_then_address read start
  rw [← place, Opcode.dataType_width (agrees _ t named)]
  exact Memory.changedWithin_of_overwritten (writes t _ _ written)

end Fetch

def Opcode.onMappings : Opcode → Bool
  | .urlMap | .urlMapCheck | .urlMapDelete => true
  | _ => false

def Opcode.onControllers : Opcode → Bool
  | .pidInit | .pidClear | .pidStop | .pidRun => true
  | _ => false

namespace Machine
open Fetch
variable {R : Type} {m after : Machine R} {op : Opcode} {next : UInt16}

def destination (m : Machine R) (op : Opcode) : Extent :=
  let place := m.pc.toNat
  let width := Selector.width ⟨m.memory.byteAt (place + 1)⟩
  match op with
  | .arithmetic _ | .bitwise _ | .not | .load => ⟨m.memory.addressAt (place + 2), width⟩
  | .multiload =>
    ⟨m.memory.addressAt (place + 2), (m.memory.byteAt (place + 4)).toNat * width⟩
  | .copy => ⟨m.memory.addressAt (place + 4), (m.memory.byteAt (place + 3)).toNat⟩
  | .time => ⟨m.memory.addressAt (place + 1), 4⟩
  | .urlMapCheck => ⟨m.memory.addressAt (place + 2), 1⟩
  | _ => .none

def namedId (m : Machine R) : UInt8 := Selector.id ⟨m.memory.byteAt (m.pc.toNat + 1)⟩

structure Confined (op : Opcode) (m after : Machine R) : Prop where
  memory : m.memory.ChangedWithin after.memory (m.destination op)
  slots : m.store.mappings.ChangedAt after.store.mappings m.namedId
  mappings : op.onMappings = false → after.store.mappings = m.store.mappings
  stack : op ≠ .call → op ≠ .ret → after.stack = m.stack
  controllers : m.bank.ChangedAt after.bank m.namedId
  bank : op.onControllers = false → after.bank = m.bank

theorem confined_memory {memory : Memory} (within : m.memory.ChangedWithin memory (m.destination op)) :
    Confined op m (m.withMemory memory) where
  memory := within
  slots := MappingTable.changedAt_refl _ _
  mappings := fun _ => rfl
  stack := fun _ _ => rfl
  controllers := Bank.changedAt_refl _ _
  bank := fun _ => rfl

theorem confined_mappings {mappings : MappingTable} (about : op.onMappings = true)
    (still : m.destination op = .none)
    (one : m.store.mappings.ChangedAt mappings m.namedId) :
    Confined op m (m.withMappings mappings) where
  memory := by
    rw [still]
    exact Memory.changedWithin_refl _ _
  slots := one
  mappings := fun other => absurd about (by simp [other])
  stack := fun _ _ => rfl
  controllers := Bank.changedAt_refl _ _
  bank := fun _ => rfl

theorem confined_bank {bank : Bank R} (about : op.onControllers = true)
    (still : m.destination op = .none) (one : m.bank.ChangedAt bank m.namedId) :
    Confined op m { m with bank := bank } where
  memory := by
    rw [still]
    exact Memory.changedWithin_refl _ _
  slots := MappingTable.changedAt_refl _ _
  mappings := fun _ => rfl
  stack := fun _ _ => rfl
  controllers := one
  bank := fun other => absurd about (by simp [other])

theorem confined_registers (store : after.store = m.store) (bank : after.bank = m.bank)
    (stack : op ≠ .call → op ≠ .ret → after.stack = m.stack) (still : m.destination op = .none) :
    Confined op m after where
  memory := by
    rw [still, Machine.memory, Machine.memory, store]
    exact Memory.changedWithin_refl _ _
  slots := by
    rw [store]
    exact MappingTable.changedAt_refl _ _
  mappings := fun _ => by rw [store]
  stack := stack
  controllers := by
    rw [bank]
    exact Bank.changedAt_refl _ _
  bank := fun _ => bank

theorem toNat_afterOpcode (inside : m.pc.toNat < m.memory.capacity) :
    (m.pc + 1).toNat = m.pc.toNat + 1 := by
  have small : m.memory.capacity ≤ 0xFFFF := m.memory.addressable
  exact toNat_next (by omega)

theorem checkMapping_confined (inside : m.pc.toNat < m.memory.capacity)
    (done : m.checkMapping = .ok next after) : Confined .urlMapCheck m after := by
  obtain ⟨id, dest, status, mappings, memory, header, polled, stored, rfl⟩ := checkMapping_ok done
  have place := toNat_afterOpcode inside
  obtain ⟨_, p1, read, rest⟩ := bind_eq_ok.mp header
  obtain ⟨_, p2, start, rest⟩ := bind_eq_ok.mp rest
  obtain ⟨⟨⟩, rfl⟩ := pure_eq_ok.mp rest
  obtain ⟨rfl, first, -⟩ := selector_then_address read start
  rw [place] at first polled
  constructor
  case memory =>
    rw [destination, ← first]
    exact Memory.changedWithin_of_overwritten (Memory.store_overwritten stored)
  case slots => exact MappingTable.check_changedAt polled
  case mappings =>
    intro other
    cases other
  case stack => exact fun _ _ => rfl
  case controllers => exact Bank.changedAt_refl _ _
  case bank => exact fun _ => rfl

variable [Rational R] {clock : Clock}

theorem multiload_confined (inside : m.pc.toNat < m.memory.capacity)
    (done : m.multiload = .ok next after) : Confined .multiload m after := by
  obtain ⟨s, type, dest, count, pc, memory, header, stored, rfl⟩ := multiload_ok done
  have place := toNat_afterOpcode inside
  obtain ⟨_, p1, read, rest⟩ := bind_eq_ok.mp header
  obtain ⟨_, p2, typed, rest⟩ := bind_eq_ok.mp rest
  obtain ⟨named, rfl⟩ := lift_eq_ok.mp typed
  obtain ⟨_, p3, start, rest⟩ := bind_eq_ok.mp rest
  obtain ⟨_, p4, number, rest⟩ := bind_eq_ok.mp rest
  obtain ⟨⟨⟩, rfl⟩ := pure_eq_ok.mp rest
  obtain ⟨rfl, first, ends⟩ := selector_then_address read start
  obtain ⟨rfl, -, -⟩ := byte_eq_ok.mp number
  rw [place] at first ends
  have width := Opcode.dataType_width named
  rw [place] at width
  apply confined_memory
  rw [destination, width, ← first, ← ends]
  constructor
  · exact storeElements_capacity stored
  · intro some
    exact storeElements_fits stored (Nat.pos_of_mul_pos_right some)
  · intro i outside
    apply storeElements_outside stored
    unfold Extent.Contains at outside
    dsimp only at outside
    omega

theorem changeMode_confined {mode : Mode} (inside : m.pc.toNat < m.memory.capacity)
    (about : op.onControllers = true) (still : m.destination op = .none)
    (done : m.changeMode mode = .ok next after) : Confined op m after := by
  obtain ⟨s, bank, read, set, rfl⟩ := changeMode_ok done
  obtain ⟨rfl, -, -⟩ := selector_eq_ok.mp read
  rw [toNat_afterOpcode inside] at set
  obtain ⟨c, turned, -, -, rfl⟩ := Bank.setMode_eq_ok.mp set
  exact confined_bank about still (Bank.changedAt_set m.bank m.namedId turned)

theorem execute_confined (inside : m.pc.toNat < m.memory.capacity)
    (done : m.execute clock op = .ok next after) : Confined op m after := by
  have place := toNat_afterOpcode inside
  cases op with
  | halt =>
    cases done
    exact confined_registers rfl rfl (fun _ _ => rfl) rfl
  | arithmetic a =>
    obtain ⟨memory, run, rfl⟩ := changingMemory_ok done
    have within := typed_destination id (fun _ _ named => named)
      (fun _ _ _ written => Memory.arithmetic_overwritten written) run
    rw [place] at within
    exact confined_memory within
  | bitwise b =>
    obtain ⟨memory, run, rfl⟩ := changingMemory_ok done
    have within := typed_destination DataType.word (fun _ _ => wordType_agrees)
      (fun _ _ _ written => Memory.bitwise_overwritten written) run
    rw [place] at within
    exact confined_memory within
  | load =>
    obtain ⟨memory, run, rfl⟩ := changingMemory_ok done
    have within := typed_destination id (fun _ _ named => named)
      (fun _ _ _ written => (Memory.move_effect written).2) run
    rw [place] at within
    exact confined_memory within
  | not =>
    obtain ⟨memory, run, rfl⟩ := changingMemory_ok done
    obtain ⟨s, p1, read, rest⟩ := bind_eq_ok.mp run
    obtain ⟨width, p2, typed, rest⟩ := bind_eq_ok.mp rest
    obtain ⟨named, rfl⟩ := lift_eq_ok.mp typed
    obtain ⟨dest, p3, start, rest⟩ := bind_eq_ok.mp rest
    obtain ⟨written, -⟩ := lift_eq_ok.mp rest
    obtain ⟨rfl, first, -⟩ := selector_then_address read start
    have selected := Opcode.dataType_width (wordType_agrees named)
    rw [place] at first selected
    apply confined_memory
    rw [destination, selected, ← first]
    exact Memory.changedWithin_of_overwritten (Memory.complement_overwritten written)
  | multiload => exact multiload_confined inside done
  | push | pop | reset => cases done
  | copy =>
    obtain ⟨memory, run, rfl⟩ := changingMemory_ok done
    obtain ⟨source, p1, from', rest⟩ := bind_eq_ok.mp run
    obtain ⟨length, p2, number, rest⟩ := bind_eq_ok.mp rest
    obtain ⟨dest, p3, start, rest⟩ := bind_eq_ok.mp rest
    obtain ⟨written, -⟩ := lift_eq_ok.mp rest
    have first := (address_place from').2
    obtain ⟨rfl, second, -⟩ := byte_eq_ok.mp number
    have third := (address_place start).1
    rw [place] at first
    rw [first] at second
    rw [second] at third
    rw [first] at written
    apply confined_memory
    rw [destination, ← third]
    exact Memory.changedWithin_of_overwritten (Memory.copy_overwritten written)
  | time =>
    obtain ⟨memory, run, rfl⟩ := changingMemory_ok done
    obtain ⟨dest, p1, start, rest⟩ := bind_eq_ok.mp run
    obtain ⟨written, -⟩ := lift_eq_ok.mp rest
    have first := (address_place start).1
    rw [place] at first
    apply confined_memory
    rw [destination, ← first]
    exact Memory.changedWithin_of_overwritten (Memory.storeUnsigned_overwritten written)
  | jump | compare | compareTime =>
    have same : after = m := execute_effect done
    subst same
    exact confined_registers rfl rfl (fun _ _ => rfl) rfl
  | call =>
    obtain ⟨stack, -, -, rfl⟩ := branching_ok done
    exact confined_registers rfl rfl (fun notCall _ => absurd rfl notCall) rfl
  | ret =>
    obtain ⟨stack, -, -, rfl⟩ := branching_ok done
    exact confined_registers rfl rfl (fun _ notReturn => absurd rfl notReturn) rfl
  | urlMap =>
    obtain ⟨mappings, run, rfl⟩ := changingMappings_ok done
    obtain ⟨s, p1, read, rest⟩ := bind_eq_ok.mp run
    obtain ⟨rfl, -, -⟩ := selector_eq_ok.mp read
    obtain ⟨options, p2, -, rest⟩ := bind_eq_ok.mp rest
    obtain ⟨value, p3, -, rest⟩ := bind_eq_ok.mp rest
    obtain ⟨port, p4, -, rest⟩ := bind_eq_ok.mp rest
    obtain ⟨url, p5, -, rest⟩ := bind_eq_ok.mp rest
    obtain ⟨resource, p6, -, rest⟩ := bind_eq_ok.mp rest
    have mapped := MappingTable.update_changedAt (lift_eq_ok.mp rest).1
    rw [place] at mapped
    exact confined_mappings rfl rfl mapped
  | urlMapCheck => exact checkMapping_confined inside done
  | urlMapDelete =>
    obtain ⟨mappings, run, rfl⟩ := changingMappings_ok done
    obtain ⟨s, p1, read, rest⟩ := bind_eq_ok.mp run
    obtain ⟨rfl, -, -⟩ := selector_eq_ok.mp read
    have unmapped := MappingTable.update_changedAt (lift_eq_ok.mp rest).1
    rw [place] at unmapped
    exact confined_mappings rfl rfl unmapped
  | pidInit =>
    -- memory is handed to the controller and comes back as it was
    obtain ⟨id, settings, c, header, -, -, rfl⟩ := initController_ok done
    obtain ⟨s, p1, read, rest⟩ := bind_eq_ok.mp header
    obtain ⟨rfl, -, -⟩ := selector_eq_ok.mp read
    obtain ⟨_, p2, -, rest⟩ := bind_eq_ok.mp rest
    obtain ⟨_, p3, -, rest⟩ := bind_eq_ok.mp rest
    obtain ⟨⟨⟩, -⟩ := pure_eq_ok.mp rest
    rw [place]
    exact confined_bank rfl rfl (Bank.changedAt_set m.bank m.namedId _)
  | pidClear =>
    obtain ⟨bank, run, rfl⟩ := changingBank_ok done
    obtain ⟨s, p1, read, rest⟩ := bind_eq_ok.mp run
    obtain ⟨rfl, -, -⟩ := selector_eq_ok.mp read
    obtain ⟨c, -, rfl⟩ := Bank.update_eq_ok.mp (lift_eq_ok.mp rest).1
    rw [place]
    exact confined_bank rfl rfl (Bank.changedAt_set m.bank m.namedId c.clear)
  | pidStop | pidRun => exact changeMode_confined inside rfl rfl done

/-- A step that succeeds was not taken, or it keeps to the destination and to the id that stood in
    the code before it. -/
theorem step_footprint (m after : Machine R) (clock : Clock) (done : m.step clock = .ok () after) :
    (m.isHalted = true ∧ after = m) ∨
      m.isHalted = false ∧ ∃ op, m.opcode? = some op ∧ Confined op m after := by
  rcases step_ok done with ⟨halted, same⟩ | ⟨running, op, next, changed, here, run, rfl⟩
  · exact Or.inl ⟨halted, same⟩
  · have inside := (Memory.load_eq_ok.mp (opcode_eq_some.mp here)).1
    have confined := execute_confined (m := m.started) inside run
    refine Or.inr ⟨running, op, here, ?_⟩
    exact ⟨confined.memory, confined.slots, confined.mappings, confined.stack,
      confined.controllers, confined.bank⟩

/-- Two elements go to the last two bytes of memory, where the second of them was read from. -/
theorem step_footprint_overwriting :
    overwriting.step ⟨0⟩ = .ok () (overwriting.step ⟨0⟩).state ∧
      overwriting.destination .multiload = ⟨6, 2⟩ ∧
      (overwriting.step ⟨0⟩).state.memory.byteAt 6 ≠ overwriting.memory.byteAt 6 ∧
      ∀ i, i < 6 → (overwriting.step ⟨0⟩).state.memory.byteAt i = overwriting.memory.byteAt i := by
  have done : overwriting.step ⟨0⟩ = .ok () (overwriting.step ⟨0⟩).state := by rfl
  have range : overwriting.destination .multiload = ⟨6, 2⟩ := by rfl
  refine ⟨done, range, by decide, ?_⟩
  intro i below
  rcases step_footprint overwriting _ ⟨0⟩ done with ⟨halted, -⟩ | ⟨-, op, here, confined⟩
  · cases halted
  · have multiload : op = .multiload := Option.some.inj (here.symm.trans (by rfl))
    subst multiload
    apply confined.memory.outside
    rw [range]
    intro within
    have above := within.1
    dsimp only at above
    omega

end Machine
end ControlMachine
