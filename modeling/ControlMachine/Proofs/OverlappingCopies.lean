import ControlMachine.Proofs.InstructionsInPlace
import ControlMachine.Proofs.WordOperations

/- Copies within memory, alone and as an instruction. The ranges may overlap in any way, and the
   instruction may copy over itself. -/
namespace ControlMachine

/-- What a copy does: it needs both ranges in memory, and then every byte arrives as it was. Done byte
    after byte on memory itself it comes to the same, also when it is refused. -/
structure Memory.MovesAsOne (m : Memory) (source : UInt16) (length : UInt8) (dest : UInt16) :
    Prop where
  accepted : (∃ after, m.copy source length dest = .ok after) ↔
    source.toNat + length.toNat ≤ m.capacity ∧ dest.toNat + length.toNat ≤ m.capacity
  arrived : ∀ after, m.copy source length dest = .ok after →
    ∀ i, i < length.toNat → after.byteAt (dest.toNat + i) = m.byteAt (source.toNat + i)
  elsewhere : ∀ after, m.copy source length dest = .ok after → after.capacity = m.capacity ∧
    ∀ k, k < dest.toNat ∨ dest.toNat + length.toNat ≤ k → after.byteAt k = m.byteAt k
  inPlace : copyInPlace source length dest m = InPlace.changed m (m.copy source length dest)
  refused : ∀ fault after, copyInPlace source length dest m = .error fault after → after = m

namespace Memory
variable {m after : Memory} {source dest : UInt16} {length : UInt8}

theorem byteAt_copied (done : m.copy source length dest = .ok after) {i : Nat}
    (small : i < length.toNat) :
    after.byteAt (dest.toNat + i) = m.byteAt (source.toNat + i) := by
  obtain ⟨-, room, same⟩ := copy_eq_ok.mp done
  rw [same, ← moveBytes_copyOrder room]
  apply byteAt_moveBytes (orderly_copyOrder _ _ _)
  · intro j member
    have below := mem_copyOrder.mp member
    omega
  · exact mem_copyOrder.mpr small

theorem movesAsOne (m : Memory) (source : UInt16) (length : UInt8) (dest : UInt16) :
    m.MovesAsOne source length dest := by
  constructor
  case accepted =>
    constructor
    · intro ⟨after, done⟩
      obtain ⟨inside, room, -⟩ := copy_eq_ok.mp done
      exact ⟨inside, room⟩
    · intro ⟨inside, room⟩
      exact ⟨_, copy_eq_ok.mpr ⟨inside, room, rfl⟩⟩
  case arrived =>
    intro after done i small
    exact byteAt_copied done small
  case elsewhere =>
    intro after done
    have patched := copy_overwritten done
    constructor
    · exact overwritten_capacity patched
    · intro k outside
      exact overwritten_outside patched outside
  case inPlace => exact copyInPlace_eq m source length dest
  case refused =>
    intro fault after failed
    rw [copyInPlace_eq] at failed
    exact (InPlace.changed_error failed).2

end Memory

namespace Machine
open Fetch
variable {R : Type} {m : Machine R} {source dest : UInt16} {length : UInt8}

structure AtCopy (m : Machine R) (source : UInt16) (length : UInt8) (dest : UInt16) : Prop where
  running : m.isHalted = false
  held : m.memory.Holds m.pc.toNat (Opcode.copy.byte ::
    (LittleEndian.bytes 2 source.toNat ++ length :: LittleEndian.bytes 2 dest.toNat))

variable [Rational R]

theorem execute_copy (clock : Clock) (ready : m.AtCopy source length dest) :
    ∃ next, next.toNat = m.pc.toNat + 6 ∧
      m.execute clock .copy = m.withResult next (m.memory.copy source length dest) := by
  obtain ⟨start, fields⟩ := held_afterOpcode ready.held
  obtain ⟨p1, first, place1, held1⟩ := address_of_held fields
  obtain ⟨p2, second, place2, held2⟩ := byte_of_held held1
  rw [← List.append_nil (LittleEndian.bytes 2 dest.toNat)] at held2
  obtain ⟨p3, third, place3, -⟩ := address_of_held held2
  refine ⟨p3, by omega, changingMemory_of_lift ?_⟩
  exact (bind_of_ok first).trans ((bind_of_ok second).trans (bind_of_ok third))

structure Copies (m : Machine R) (clock : Clock) (source : UInt16) (length : UInt8)
    (dest : UInt16) : Prop where
  inPlace : stepInPlace clock m = m.step clock
  done : ∀ memory, m.memory.copy source length dest = .ok memory →
    ∃ after, m.step clock = .ok () after ∧ after.memory = memory ∧
      after.pc.toNat = m.pc.toNat + 6
  refused : ∀ fault, m.memory.copy source length dest = .error fault →
    ∃ after, stepInPlace clock m = .error fault after ∧ after.memory = m.memory

theorem copies_of_ready (clock : Clock) (ready : m.AtCopy source length dest) :
    m.Copies clock source length dest := by
  have here : m.opcode? = some .copy := opcode_of_held ready.held
  have begun : m.started.AtCopy source length dest := ⟨ready.running, ready.held⟩
  obtain ⟨next, place, run⟩ := execute_copy clock begun
  constructor
  case inPlace => exact stepInPlace_eq clock m
  case done =>
    intro memory copied
    have result : m.started.memory.copy source length dest = .ok memory := copied
    rw [result] at run
    exact ⟨_, step_of_execute ready.running here run, rfl, place⟩
  case refused =>
    intro fault failed
    have result : m.started.memory.copy source length dest = .error fault := failed
    rw [result] at run
    rw [stepInPlace_eq]
    exact ⟨_, step_of_fault ready.running here run, rfl⟩

theorem copies_safe_for_overlap (memory : Memory) (source : UInt16) (length : UInt8)
    (dest : UInt16) :
    memory.MovesAsOne source length dest ∧
      ∀ (m : Machine R) (clock : Clock), m.AtCopy source length dest →
        m.Copies clock source length dest := by
  constructor
  · exact memory.movesAsOne source length dest
  · intro m clock ready
    exact copies_of_ready clock ready

/-- Moves three bytes up by one. The first of them is the last byte of the instruction. -/
def movingUp : Machine Fixed := filled [0x40, 0x05, 0x00, 0x03, 0x06, 0x00, 0x0A, 0x0B, 0x0C]

theorem copies_safe_for_overlap_upward :
    movingUp.AtCopy 5 3 6 ∧ ∃ after, movingUp.step ⟨0⟩ = .ok () after ∧
      after.memory.byteAt 6 = 0x00 ∧ after.memory.byteAt 7 = 0x0A ∧
      after.memory.byteAt 8 = 0x0B ∧ after.pc.toNat = 6 := by
  have ready : movingUp.AtCopy 5 3 6 := ⟨by rfl, by decide, by rfl⟩
  have safe := copies_safe_for_overlap (R := Fixed) movingUp.memory 5 3 6
  obtain ⟨memory, copied⟩ := safe.1.accepted.mpr ⟨by decide, by decide⟩
  obtain ⟨after, stepped, same, place⟩ := (safe.2 movingUp ⟨0⟩ ready).done memory copied
  have arrived := safe.1.arrived memory copied
  rw [← same] at arrived
  refine ⟨ready, after, stepped, ?_, ?_, ?_, place⟩
  · exact (arrived 0 (by decide)).trans (by decide)
  · exact (arrived 1 (by decide)).trans (by decide)
  · exact (arrived 2 (by decide)).trans (by decide)

end Machine
end ControlMachine
