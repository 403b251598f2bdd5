import ControlMachine.Proofs.WordOperations

/- Steps that choose where to go on, and those that keep the time or stop. What they read is found
   at fixed places behind the opcode. -/
namespace ControlMachine

namespace Memory
variable {R : Type} [Rational R] {m : Memory} {width : Width} {dest source : UInt16}

theorem compare_words (x y : UInt32) : compare x y = compare x.toNat y.toNat := by
  have less : x < y ↔ x.toNat < y.toNat := UInt32.lt_iff_toNat_lt
  have same : x = y ↔ x.toNat = y.toNat := UInt32.toNat_inj.symm
  simp only [compare, compareOfLessAndEq, less, same]

theorem compareCells_words (destFits : dest.toNat + width.bytes ≤ m.capacity)
    (sourceFits : source.toNat + width.bytes ≤ m.capacity) :
    m.compareCells R (.word width) dest source =
      .ok (compare (m.wordAt width dest.toNat) (m.wordAt width source.toNat)) := by
  obtain ⟨x, loaded, here⟩ := exists_wordAt destFits
  obtain ⟨y, loadedToo, there⟩ := exists_wordAt sourceFits
  rw [compareCells, loaded, except_ok_bind, loadedToo, except_ok_bind, compare_words, here, there]
  rfl

theorem wordAt_withWord_apart {start other n : Nat} (fits : start + width.bytes ≤ m.capacity)
    (apart : start + width.bytes ≤ other ∨ other + width.bytes ≤ start) :
    (m.withWord width start n).wordAt width other = m.wordAt width other := by
  have long := LittleEndian.length_bytes width.bytes n
  rw [wordAt, withWord, slice_patch_outside (by rwa [long]) (by rwa [long]), wordAt]

end Memory

namespace Machine
open Fetch
variable {R : Type} {m : Machine R} {width : Width}

def branchPlace : Ordering → Nat
  | .lt => 0
  | .eq => 2
  | .gt => 4

def compared (m : Machine R) (width : Width) : Ordering :=
  compare (m.memory.wordAt width m.destCell) (m.memory.wordAt width m.sourceCell)

structure AtCompare (m : Machine R) (width : Width) : Prop where
  running : m.isHalted = false
  here : m.opcode? = some .compare
  typed : m.selector.dataType? = some (.word width)
  whole : m.cellsEnd width.bytes + 6 ≤ m.memory.capacity
  destFits : m.destCell + width.bytes ≤ m.memory.capacity
  sourceFits : m.sourceCell + width.bytes ≤ m.memory.capacity

theorem addresses_at {β : Type} (m : Machine R) (pc : UInt16)
    (inside : pc.toNat + 6 ≤ m.memory.capacity) :
    ∃ less equal greater last, less.toNat = m.memory.addressAt pc.toNat ∧
      equal.toNat = m.memory.addressAt (pc.toNat + 2) ∧
      greater.toNat = m.memory.addressAt (pc.toNat + 4) ∧
      ∀ act : UInt16 → UInt16 → UInt16 → Fetch β,
        (do let less ← address m.code
            let equal ← address m.code
            let greater ← address m.code
            act less equal greater) pc = act less equal greater last := by
  obtain ⟨less, p1, first, lessPlace, next1⟩ := address_at m.memory pc (by omega)
  obtain ⟨equal, p2, second, equalPlace, next2⟩ := address_at m.memory p1 (by omega)
  obtain ⟨greater, p3, third, greaterPlace, -⟩ := address_at m.memory p2 (by omega)
  rw [next1] at equalPlace next2
  rw [next2] at greaterPlace
  refine ⟨less, equal, greater, p3, lessPlace, equalPlace, greaterPlace, ?_⟩
  intro act
  exact (bind_of_ok first).trans ((bind_of_ok second).trans (bind_of_ok third))

theorem branching_of_ok {act : Fetch (UInt16 × CallStack)} {target : UInt16} (last : UInt16)
    (read : act (m.pc + 1) = .ok (target, m.stack) last) : m.branching act = .ok target m := by
  unfold branching
  rw [read]

variable [Rational R]

/-- The step succeeds, and nothing but the program counter and the status is changed. -/
def GoesTo (m : Machine R) (clock : Clock) (target : UInt16) : Prop :=
  m.step clock = .ok () { m.started with pc := target }

theorem execute_branch {type : DataType} {order : Ordering} (clock : Clock)
    (typed : m.selector.dataType? = some type)
    (whole : m.cellsEnd type.bytes + 6 ≤ m.memory.capacity)
    (ordered : ∀ dest source, dest.toNat = m.destCell → source.toNat = m.sourceCell →
      m.memory.compareCells R type dest source = .ok order) :
    ∃ target, target.toNat = m.memory.addressAt (m.cellsEnd type.bytes + branchPlace order) ∧
      m.execute clock .compare = .ok target m := by
  obtain ⟨dest, source, last, destPlace, sourcePlace, ends, read⟩ := typed_at DataType.bytes
    (Opcode.dataType_of_typed .compare typed) (Nat.le_of_add_right_le whole)
  have place : last.toNat = m.cellsEnd type.bytes := ends
  obtain ⟨less, equal, greater, stop, lessPlace, equalPlace, greaterPlace, chosen⟩ :=
    addresses_at m last (by rw [place]; exact whole)
  rw [place] at lessPlace equalPlace greaterPlace
  have lifted : lift (m.memory.compareCells R type dest source) last = .ok order last :=
    lift_eq_ok.mpr ⟨ordered dest source destPlace sourcePlace, rfl⟩
  cases order with
  | lt =>
    exact ⟨less, lessPlace, branching_of_ok stop
      ((read _).trans ((bind_of_ok lifted).trans (chosen _)))⟩
  | eq =>
    exact ⟨equal, equalPlace, branching_of_ok stop
      ((read _).trans ((bind_of_ok lifted).trans (chosen _)))⟩
  | gt =>
    exact ⟨greater, greaterPlace, branching_of_ok stop
      ((read _).trans ((bind_of_ok lifted).trans (chosen _)))⟩

theorem execute_compare (clock : Clock) (ready : m.AtCompare width) :
    ∃ target, target.toNat = m.memory.addressAt
        (m.cellsEnd width.bytes + branchPlace (m.compared width)) ∧
      m.execute clock .compare = .ok target m := by
  have destFits := ready.destFits
  have sourceFits := ready.sourceFits
  apply execute_branch clock ready.typed ready.whole
  intro dest source destPlace sourcePlace
  rw [← destPlace] at destFits
  rw [← sourcePlace] at sourceFits
  rw [Memory.compareCells_words destFits sourceFits, destPlace, sourcePlace, compared]

theorem step_compare (clock : Clock) (ready : m.AtCompare width) :
    ∃ target, target.toNat = m.memory.addressAt
        (m.cellsEnd width.bytes + branchPlace (m.compared width)) ∧
      m.step clock = .ok () { m.started with pc := target } := by
  have begun : m.started.AtCompare width := ⟨ready.running, ready.here, ready.typed, ready.whole,
    ready.destFits, ready.sourceFits⟩
  obtain ⟨target, place, run⟩ := execute_compare clock begun
  exact ⟨target, place, step_of_execute ready.running ready.here run⟩

def targetCell (m : Machine R) : Nat := m.memory.operandAt m.selector (m.pc.toNat + 2)

theorem step_jump (clock : Clock) (running : m.isHalted = false) (here : m.opcode? = some .jump)
    (whole : m.pc.toNat + 2 + m.selector.operandBytes 2 ≤ m.memory.capacity)
    (fits : m.targetCell + 2 ≤ m.memory.capacity) :
    ∃ target, target.toNat = m.memory.addressAt m.targetCell ∧
      m.step clock = .ok () { m.started with pc := target } := by
  have place := toNat_afterOpcode (m := m) (by omega)
  obtain ⟨p1, first, next1⟩ := selector_at m.memory (m.pc + 1) (by omega)
  rw [place] at first next1
  obtain ⟨cell, p2, second, cellPlace, -⟩ :=
    operand_at m.memory p1 m.selector 2 (by omega)
  rw [next1] at cellPlace
  have inside : cell.toNat + 2 ≤ m.memory.capacity := by
    rw [cellPlace]
    exact fits
  have small := LittleEndian.value_lt (m.memory.slice cell.toNat 2)
  rw [Memory.length_slice] at small
  obtain ⟨target, number⟩ : ∃ target : UInt16, target.toNat = m.memory.addressAt cell.toNat :=
    ⟨UInt16.ofNat (m.memory.addressAt cell.toNat), UInt16.toNat_ofNat_of_lt small⟩
  have loaded : m.memory.loadAddress cell = .ok target := by
    refine Memory.loadAddress_eq_ok.mpr ⟨inside, ?_⟩
    rw [← Memory.addressAt, ← number, UInt16.ofNat_toNat]
  have lifted : lift (m.memory.loadAddress cell) p2 = .ok target p2 :=
    lift_eq_ok.mpr ⟨loaded, rfl⟩
  rw [cellPlace] at number
  have run : m.started.execute clock .jump = .ok target m.started := by
    apply branching_of_ok p2
    exact (bind_of_ok first).trans ((bind_of_ok second).trans (bind_of_ok lifted))
  exact ⟨target, number, step_of_execute running here run⟩

theorem step_time (clock : Clock) (running : m.isHalted = false) (here : m.opcode? = some .time)
    (whole : m.pc.toNat + 3 ≤ m.memory.capacity)
    (fits : m.memory.addressAt (m.pc.toNat + 1) + 4 ≤ m.memory.capacity) :
    ∃ next, next.toNat = m.pc.toNat + 3 ∧
      m.step clock = .ok () { m.started.withMemory (m.memory.withWord .four
        (m.memory.addressAt (m.pc.toNat + 1)) clock.micros.toUInt32.toNat) with pc := next } := by
  have place := toNat_afterOpcode (m := m) (by omega)
  obtain ⟨cell, last, read, cellPlace, ends⟩ := address_at m.memory (m.pc + 1) (by omega)
  rw [place] at cellPlace ends
  have inside : cell.toNat + Width.four.bytes ≤ m.memory.capacity := by
    rw [cellPlace]
    exact fits
  have stored : m.memory.storeUnsigned cell clock.micros.toUInt32 =
      .ok (m.memory.withWord .four cell.toNat clock.micros.toUInt32.toNat) :=
    Memory.storeWord_eq_ok.mpr ⟨inside, rfl⟩
  rw [cellPlace] at stored
  have lifted : lift (m.memory.storeUnsigned cell clock.micros.toUInt32) last =
      lift (.ok (m.memory.withWord .four (m.memory.addressAt (m.pc.toNat + 1))
        clock.micros.toUInt32.toNat)) last := congrArg (lift · last) stored
  have run : (do lift (m.memory.storeUnsigned (← address m.code) clock.micros.toUInt32) :
      Fetch Memory) (m.pc + 1) = _ := (bind_of_ok read).trans lifted
  exact ⟨last, ends, step_of_execute running here (changingMemory_of_lift (m := m.started) run)⟩

theorem step_halt (clock : Clock) (running : m.isHalted = false) (here : m.opcode? = some .halt) :
    m.step clock = .ok () { m.started with flags := { m.flags with halted := true } } :=
  step_of_execute running here rfl

end Machine
end ControlMachine
