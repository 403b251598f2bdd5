import ControlMachine.Proofs.Footprint
import ControlMachine.Proofs.MemoryContents
import ControlMachine.Proofs.Outline

/- Bytes that stand in memory one after another, and the readers of instruction fields on them. Each
   reader takes the bytes of its own field and leaves those of the fields after it. -/
namespace ControlMachine

namespace Memory
variable {m : Memory} {start i : Nat} {b : UInt8} {values others rest : List UInt8}

structure Holds (m : Memory) (start : Nat) (values : List UInt8) : Prop where
  fits : start + values.length ≤ m.capacity
  same : m.slice start values.length = values

theorem holds_nil : m.Holds start [] ↔ start ≤ m.capacity := by
  constructor
  · intro held
    exact held.fits
  · intro inside
    exact ⟨inside, rfl⟩

theorem holds_cons :
    m.Holds start (b :: rest) ↔ m.byteAt start = b ∧ m.Holds (start + 1) rest := by
  constructor
  · rintro ⟨fits, same⟩
    rw [List.length_cons] at fits same
    rw [slice_succ, List.cons.injEq] at same
    exact ⟨same.1, by omega, same.2⟩
  · rintro ⟨first, fits, same⟩
    refine ⟨?_, ?_⟩
    · rw [List.length_cons]
      omega
    · rw [List.length_cons, slice_succ, first, same]

theorem holds_append : m.Holds start (values ++ rest) ↔
    m.Holds start values ∧ m.Holds (start + values.length) rest := by
  induction values generalizing start with
  | nil =>
    rw [List.nil_append, List.length_nil, Nat.add_zero, holds_nil]
    constructor
    · intro held
      have fits := held.fits
      exact ⟨by omega, held⟩
    · exact fun held => held.2
  | cons b values ih =>
    rw [List.cons_append, holds_cons, ih, holds_cons, and_assoc, List.length_cons,
      Nat.add_right_comm, Nat.add_assoc]

theorem Holds.byteAt (held : m.Holds start values) (inside : i < values.length) :
    m.byteAt (start + i) = values[i] := by
  have place : (m.slice start values.length)[i]? = some values[i] := by
    rw [held.same]
    exact List.getElem?_eq_getElem inside
  rw [slice, List.getElem?_map, List.getElem?_range inside] at place
  exact Option.some.inj place

theorem Holds.part (held : m.Holds start values) (place width : Nat)
    (inside : place ≤ values.length) :
    m.Holds (start + place) ((values.drop place).take width) := by
  rw [← List.take_append_drop place values, holds_append, List.length_take,
    Nat.min_eq_left inside] at held
  have later := held.2
  rw [← List.take_append_drop width (values.drop place), holds_append] at later
  exact later.1

theorem holds_congr {n : Memory} (size : n.capacity = m.capacity)
    (same : ∀ i, start ≤ i → i < start + values.length → n.byteAt i = m.byteAt i)
    (held : m.Holds start values) : n.Holds start values := by
  refine ⟨by rw [size]; exact held.fits, ?_⟩
  rw [slice_congr same]
  exact held.same

theorem holds_patch_apart (held : m.Holds start values) {other : Nat}
    (fits : other + others.length ≤ m.capacity)
    (apart : other + others.length ≤ start ∨ start + values.length ≤ other) :
    (m.patch other others).Holds start values := by
  apply holds_congr (capacity_patch m other others) _ held
  intro i above below
  exact byteAt_patch_outside fits (by omega)

theorem holds_patch (fits : start + values.length ≤ m.capacity) :
    (m.patch start values).Holds start values :=
  ⟨by rwa [capacity_patch], slice_patch m start values fits⟩

theorem value_of_held {width n : Nat} (held : m.Holds start (LittleEndian.bytes width n)) :
    LittleEndian.value (m.slice start width) = n % Nat.pow 256 width := by
  have same := held.same
  rw [LittleEndian.length_bytes] at same
  rw [same, LittleEndian.value_bytes]

theorem addressAt_of_held {a : UInt16}
    (held : m.Holds start (LittleEndian.bytes 2 a.toNat)) : m.addressAt start = a.toNat := by
  rw [addressAt, value_of_held held]
  exact Nat.mod_eq_of_lt a.toNat_lt

end Memory

namespace Fetch
open Memory
variable {m : Memory} {pc : UInt16} {b : UInt8} {values rest : List UInt8}

theorem exists_place (m : Memory) (pc : UInt16) (width : Nat)
    (inside : pc.toNat + width ≤ m.capacity) :
    ∃ next : UInt16, next.toNat = pc.toNat + width := by
  have small : m.capacity ≤ 0xFFFF := m.addressable
  refine ⟨UInt16.ofNat (pc.toNat + width), ?_⟩
  rw [UInt16.toNat_ofNat']
  omega

theorem byte_of_held (held : m.Holds pc.toNat (b :: rest)) :
    ∃ next, byte m.load pc = .ok b next ∧ next.toNat = pc.toNat + 1 ∧ m.Holds next.toNat rest := by
  obtain ⟨here, later⟩ := holds_cons.mp held
  have room := later.fits
  obtain ⟨next, place⟩ := exists_place m pc 1 (by omega)
  rw [← place] at later
  exact ⟨next, byte_eq_ok.mpr ⟨here.symm, place, by omega⟩, place, later⟩

theorem selector_of_held (held : m.Holds pc.toNat (b :: rest)) :
    ∃ next, selector m.load pc = .ok ⟨b⟩ next ∧ next.toNat = pc.toNat + 1 ∧
      m.Holds next.toNat rest := by
  obtain ⟨next, read, place, later⟩ := byte_of_held held
  exact ⟨next, map_eq_ok.mpr ⟨b, read, rfl⟩, place, later⟩

theorem address_of_held {a : UInt16}
    (held : m.Holds pc.toNat (LittleEndian.bytes 2 a.toNat ++ rest)) :
    ∃ next, address m.load pc = .ok a next ∧ next.toNat = pc.toNat + 2 ∧
      m.Holds next.toNat rest := by
  obtain ⟨here, later⟩ := holds_append.mp held
  rw [LittleEndian.length_bytes] at later
  have room := later.fits
  obtain ⟨next, place⟩ := exists_place m pc 2 (by omega)
  have whole := addressAt_of_held here
  rw [addressAt] at whole
  rw [← place] at later
  refine ⟨next, address_eq_ok.mpr ⟨?_, place, by omega⟩, place, later⟩
  rw [whole, UInt16.ofNat_toNat]

theorem bytes_of_held (held : m.Holds pc.toNat (values ++ rest)) :
    ∃ next, bytes m.load values.length pc = .ok values next ∧
      next.toNat = pc.toNat + values.length ∧ m.Holds next.toNat rest := by
  obtain ⟨here, later⟩ := holds_append.mp held
  have inside := here.fits
  obtain ⟨next, place⟩ := exists_place m pc values.length inside
  rw [← place] at later
  have read : bytes m.load values.length pc = .ok values next :=
    bytes_eq_ok.mpr ⟨here.same.symm, place, Or.inr (by omega)⟩
  exact ⟨next, read, place, later⟩

theorem unsigned_of_held {n : UInt32}
    (held : m.Holds pc.toNat (LittleEndian.bytes 4 n.toNat ++ rest)) :
    ∃ next, unsigned m.load pc = .ok n next ∧ next.toNat = pc.toNat + 4 ∧
      m.Holds next.toNat rest := by
  obtain ⟨next, read, place, later⟩ := bytes_of_held held
  rw [LittleEndian.length_bytes] at read place
  have whole : LittleEndian.value (LittleEndian.bytes 4 n.toNat) = n.toNat := by
    rw [LittleEndian.value_bytes]
    exact Nat.mod_eq_of_lt n.toNat_lt
  refine ⟨next, ?_, place, later⟩
  simp only [unsigned, bind_eq_ok, pure_eq_ok]
  exact ⟨_, next, read, by rw [whole, UInt32.ofNat_toNat], rfl⟩

theorem literal_of_held (held : m.Holds pc.toNat (values ++ rest)) :
    ∃ next, literal values.length pc = .ok pc next ∧ next.toNat = pc.toNat + values.length ∧
      m.Holds next.toNat rest := by
  obtain ⟨here, later⟩ := holds_append.mp held
  obtain ⟨next, place⟩ := exists_place m pc values.length here.fits
  rw [← place] at later
  exact ⟨next, advance_eq_ok.mpr ⟨rfl, place⟩, place, later⟩

theorem text_of_held (held : m.Holds pc.toNat (values ++ 0 :: rest)) (whole : 0 ∉ values) :
    ∃ next, text m.load pc = .ok values next ∧ next.toNat = pc.toNat + values.length + 1 ∧
      m.Holds next.toNat rest := by
  induction values generalizing pc with
  | nil =>
    obtain ⟨next, read, place, later⟩ := byte_of_held held
    have step : next = pc + 1 := by
      rw [← UInt16.toNat_inj, toNat_next (by have := next.toNat_lt; omega), place]
    subst step
    exact ⟨pc + 1, text_eq_ok.mpr ⟨0, read, Or.inl ⟨rfl, rfl, rfl⟩⟩, place, later⟩
  | cons b values ih =>
    obtain ⟨next, read, place, later⟩ := byte_of_held held
    have step : next = pc + 1 := by
      rw [← UInt16.toNat_inj, toNat_next (by have := next.toNat_lt; omega), place]
    subst step
    obtain ⟨last, scanned, ends, after⟩ := ih later (fun among => whole (by simp [among]))
    have more : b ≠ 0 := fun zero => whole (by simp [zero])
    refine ⟨last, text_eq_ok.mpr ⟨b, read, Or.inr ⟨more, values, scanned, rfl⟩⟩, ?_, after⟩
    rw [ends, place, List.length_cons]
    omega

theorem string_of_held (held : m.Holds pc.toNat (values ++ 0 :: rest)) (whole : 0 ∉ values) :
    ∃ next, string m.load pc = .ok pc next ∧ next.toNat = pc.toNat + values.length + 1 ∧
      m.Holds next.toNat rest := by
  obtain ⟨next, scanned, place, later⟩ := text_of_held held whole
  refine ⟨next, ?_, place, later⟩
  exact bind_eq_ok.mpr ⟨pc, pc, get_eq_ok.mpr ⟨rfl, rfl⟩,
    bind_eq_ok.mpr ⟨values, next, scanned, pure_eq_ok.mpr ⟨rfl, rfl⟩⟩⟩

end Fetch

theorem Opcode.dataType_of_typed (op : Opcode) {s : Selector} {type : DataType}
    (typed : s.dataType? = some type) : op.dataType s = .ok type := by
  unfold Opcode.dataType
  rw [typed]

theorem Opcode.wordType_of_typed (op : Opcode) {s : Selector} {width : Width}
    (typed : s.dataType? = some (.word width)) : op.wordType s = .ok width := by
  unfold Opcode.wordType
  rw [dataType_of_typed op typed]
  rfl

namespace Machine
open Memory
variable {R : Type} {m : Machine R} {op : Opcode} {rest : List UInt8}

theorem opcode_of_held (held : m.memory.Holds m.pc.toNat (op.byte :: rest)) :
    m.opcode? = some op := by
  have room := held.fits
  rw [List.length_cons] at room
  exact opcode_eq_some.mpr (load_eq_ok.mpr ⟨by omega, (holds_cons.mp held).1.symm⟩)

theorem held_afterOpcode (held : m.memory.Holds m.pc.toNat (op.byte :: rest)) :
    (m.pc + 1).toNat = m.pc.toNat + 1 ∧ m.memory.Holds (m.pc + 1).toNat rest := by
  have room := held.fits
  rw [List.length_cons] at room
  have place := toNat_afterOpcode (m := m) (by omega)
  rw [place]
  exact ⟨rfl, (holds_cons.mp held).2⟩

variable [Rational R] {clock : Clock} {after : Machine R} {next : UInt16} {fault : Fault}

theorem step_of_execute (running : m.isHalted = false) (here : m.opcode? = some op)
    (run : m.started.execute clock op = .ok next after) :
    m.step clock = .ok () { after with pc := next } := by
  rw [step_eq_conclude running here, run]
  rfl

theorem step_of_fault (running : m.isHalted = false) (here : m.opcode? = some op)
    (run : m.started.execute clock op = .error fault after) :
    m.step clock = .error fault (after.haltedBy fault) := by
  rw [step_eq_conclude running here, run]
  rfl

end Machine
end ControlMachine
