import ControlMachine.Proofs.HeldBytes
import ControlMachine.Proofs.PayloadBytes
import ControlMachine.Proofs.WordCells

/- Tables of literals that are stored by one instruction. If the table does not fit behind the
   destination, the elements that do fit are stored before the fault. The fault is always that of an
   access to memory: no target ever passes the last address. -/
namespace ControlMachine

namespace Memory
variable {m memory after : Memory} {start : Nat} {values rest : List UInt8} {access : Access}
  {address dest source : UInt16}

theorem overwrite_append (bytes : ByteArray) (start : Nat) (values rest : List UInt8) :
    overwrite (overwrite bytes start values) (start + values.length) rest =
      overwrite bytes start (values ++ rest) := by
  induction values generalizing bytes start with
  | nil => rfl
  | cons b values ih =>
    rw [List.length_cons, Nat.add_comm values.length, ← Nat.add_assoc]
    exact ih (bytes.set! start b) (start + 1)

theorem patch_append (m : Memory) (start : Nat) (values rest : List UInt8) :
    (m.patch start values).patch (start + values.length) rest = m.patch start (values ++ rest) := by
  simp only [patch, overwrite_append]

theorem write_fitting (access : Access) (fits : address.toNat + values.length ≤ m.capacity) :
    m.write access address values = .ok (m.patch address.toNat values) :=
  write_eq_ok.mpr ⟨fits, rfl⟩

theorem write_beyond (access : Access) (beyond : m.capacity < address.toNat + values.length) :
    m.write access address values =
      .error (.accessViolation access address.toNat values.length) := by
  rw [write, check, if_neg (Nat.not_le.mpr beyond)]
  rfl

theorem wordBytes_eq (width : Width) (value : UInt32) :
    wordBytes width value = LittleEndian.bytes width.bytes value.toNat := by
  cases width with
  | one => rfl
  | two =>
    rw [wordBytes, UInt32.toNat_toUInt16]
    exact LittleEndian.bytes_mod 2 value.toNat
  | four => rfl

def elementAccess : DataType → Access
  | .word width => wordAccess width
  | .rational => .storeRational

theorem move_of_held {R : Type} [Rational R] {type : DataType} (held : m.Holds source.toNat values)
    (long : values.length = type.bytes) :
    m.move R type dest source = m.write (elementAccess type) dest values := by
  have fits := held.fits
  have same := held.same
  rw [long] at fits same
  have back := LittleEndian.bytes_value values
  rw [long] at back
  cases type with
  | word width =>
    obtain ⟨word, loaded⟩ := exists_loadWord fits
    have number := (loadWord_eq_ok.mp loaded).2
    have bytes : wordBytes width word = values := by
      rw [wordBytes_eq, number]
      exact (congrArg _ (congrArg _ same)).trans back
    rw [move, loaded, except_ok_bind, storeWord_eq_write, bytes]
    rfl
  | rational =>
    have small := LittleEndian.value_lt values
    rw [long] at small
    have loaded : m.loadRational (R := R) source =
        .ok (Rational.ofBits (UInt32.ofNat (LittleEndian.value values))) :=
      loadRational_eq_ok.mpr ⟨fits, by rw [← same]; rfl⟩
    have number : (UInt32.ofNat (LittleEndian.value values)).toNat = LittleEndian.value values := by
      rw [UInt32.toNat_ofNat']
      exact Nat.mod_eq_of_lt small
    rw [move, loaded, except_ok_bind, storeRational, Rational.toBits_ofBits, number]
    exact congrArg (m.write .storeRational dest) back

/-- These bytes came to stand from an address on, and all others stayed as they were. -/
structure Replaced (m after : Memory) (start : Nat) (values : List UInt8) : Prop where
  size : after.capacity = m.capacity
  inside : ∀ (i : Nat) (small : i < values.length), after.byteAt (start + i) = values[i]
  outside : ∀ i, i < start ∨ start + values.length ≤ i → after.byteAt i = m.byteAt i

theorem replaced_patch (fits : start + values.length ≤ m.capacity) :
    m.Replaced (m.patch start values) start values := by
  refine ⟨capacity_patch m start values, ?_, ?_⟩
  · intro i small
    exact (holds_patch fits).byteAt small
  · intro i outside
    exact byteAt_patch_outside fits outside

theorem replaced_none (m : Memory) (start : Nat) : m.Replaced m start [] :=
  ⟨rfl, fun _ small => absurd small (Nat.not_lt_zero _), fun _ _ => rfl⟩

/-- So many elements of a width fit between an address and the end of memory, and no more. -/
structure Room (m : Memory) (start width count : Nat) : Prop where
  fits : start + count * width ≤ m.capacity ∨ m.capacity < start ∧ count = 0
  most : ∀ other, start + other * width ≤ m.capacity → other ≤ count

theorem room_div (m : Memory) (start : Nat) {width : Nat} (some : 0 < width) :
    m.Room start width ((m.capacity - start) / width) := by
  constructor
  case fits =>
    have below := Nat.div_mul_le_self (m.capacity - start) width
    by_cases inside : start ≤ m.capacity
    · exact Or.inl (by omega)
    · refine Or.inr ⟨by omega, ?_⟩
      rw [Nat.sub_eq_zero_of_le (by omega), Nat.zero_div]
  case most =>
    intro other fits
    rw [Nat.le_div_iff_mul_le some]
    omega

theorem Room.next_beyond {width count : Nat} (room : m.Room start width count) :
    m.capacity < start + count * width + width := by
  apply Nat.lt_of_not_le
  intro fits
  have more := room.most (count + 1) (by rw [Nat.succ_mul]; omega)
  omega

end Memory

/-- The fault of a target that no address names. -/
def Fault.passesAddresses : Fault → Bool
  | .accessViolation .multiload _ _ => true
  | _ => false

def Spares {α : Type} (result : Except Fault α) : Prop :=
  ∀ fault, result = .error fault → fault.passesAddresses = false

theorem spares_ok {α : Type} (a : α) : Spares (.ok a : Except Fault α) := by
  intro fault failed
  cases failed

theorem spares_bind {α β : Type} {result : Except Fault α} {next : α → Except Fault β}
    (first : Spares result) (second : ∀ a, Spares (next a)) : Spares (result >>= next) := by
  intro fault failed
  cases result with
  | error =>
    cases failed
    exact first fault rfl
  | ok a => exact second a fault failed

theorem spares_map {α β : Type} {result : Except Fault α} (f : α → β) (first : Spares result) :
    Spares (f <$> result) := by
  intro fault failed
  cases result with
  | error =>
    cases failed
    exact first fault rfl
  | ok a => cases failed

namespace Memory
variable {m : Memory} {access : Access}

theorem check_spares (other : access ≠ .multiload) (address : UInt16) (width : Nat) :
    Spares (m.check access address width) := by
  intro fault failed
  unfold check at failed
  split at failed
  · cases failed
  · cases failed
    cases access <;> first | rfl | exact absurd rfl other

theorem read_spares {α : Type} (other : access ≠ .multiload) (address : UInt16) (width : Nat)
    (make : List UInt8 → α) :
    Spares (do return make (← m.read access address width) : Except Fault α) :=
  spares_bind (spares_bind (check_spares other address width) fun _ => spares_ok _)
    fun _ => spares_ok _

theorem write_spares (other : access ≠ .multiload) (address : UInt16) (values : List UInt8) :
    Spares (m.write access address values) :=
  spares_bind (check_spares other address values.length) fun _ => spares_ok _

theorem load_spares (address : UInt16) : Spares (m.load address) :=
  read_spares (by decide) address 1 _

theorem loadWord_spares (width : Width) (address : UInt16) : Spares (m.loadWord width address) := by
  cases width with
  | one => exact spares_map _ (load_spares address)
  | two => exact spares_map _ (read_spares (by decide) address 2 _)
  | four => exact read_spares (by decide) address 4 _

theorem move_spares {R : Type} [Rational R] (type : DataType) (dest source : UInt16) :
    Spares (m.move R type dest source) := by
  cases type with
  | word width =>
    refine spares_bind (loadWord_spares width source) fun word => ?_
    rw [storeWord_eq_write]
    exact write_spares (by cases width <;> decide) dest _
  | rational =>
    exact spares_bind (read_spares (by decide) source 4 _) fun _ => write_spares (by decide) dest _

end Memory

namespace Fetch
variable {α β : Type} {m : Memory}

def Spares (act : Fetch α) : Prop :=
  ∀ pc fault last, act pc = .error fault last → fault.passesAddresses = false

theorem spares_pure (a : α) : Spares (pure a) := by
  intro pc fault last failed
  cases failed

theorem Spares.bind {act : Fetch α} {next : α → Fetch β} (first : Spares act)
    (second : ∀ a, Spares (next a)) : Spares (act >>= next) := by
  intro pc fault last failed
  change EStateM.bind act next pc = _ at failed
  unfold EStateM.bind at failed
  split at failed
  · exact second _ _ fault last failed
  · rename_i read
    cases failed
    exact first pc _ _ read

theorem Spares.map {act : Fetch α} (f : α → β) (first : Spares act) : Spares (f <$> act) := by
  intro pc fault last failed
  change EStateM.map f act pc = _ at failed
  unfold EStateM.map at failed
  split at failed
  · cases failed
  · rename_i read
    cases failed
    exact first pc _ _ read

theorem spares_lift {result : Except Fault α} (spared : ControlMachine.Spares result) :
    Spares (lift result) := by
  intro pc fault last failed
  cases result with
  | error =>
    cases failed
    exact spared fault rfl
  | ok a => cases failed

theorem spares_advance (width : Nat) : Spares (advance width) := by
  intro pc fault last failed
  unfold advance at failed
  split at failed
  · cases failed
  · cases failed
    rfl

theorem spares_byte : Spares (byte m.load) := by
  intro pc fault last failed
  have read : Spares (do
      let b ← lift (m.load pc)
      let _ ← advance 1
      return b) :=
    (spares_lift (Memory.load_spares pc)).bind fun _ =>
      (spares_advance 1).bind fun _ => spares_pure _
  exact read pc fault last failed

theorem spares_bytes (width : Nat) : Spares (bytes m.load width) := by
  induction width with
  | zero => exact spares_pure []
  | succ width ih => exact spares_byte.bind fun b => ih.bind fun _ => spares_pure _

theorem spares_address : Spares (address m.load) :=
  (spares_bytes 2).bind fun _ => spares_pure _

theorem spares_operand (s : Selector) (width : Nat) : Spares (operand m.load s width) := by
  unfold operand
  split
  · exact spares_advance width
  · exact spares_address

end Fetch

namespace Machine
open Memory Fetch
variable {R : Type} {m after : Machine R} {type : DataType} {s : Selector} {dest pc middle : UInt16}
  {elements : UInt8} {memory left : Memory} {target count : Nat} {table values rest : List UInt8}
  {clock : Clock} {fault : Fault}

/-- A running machine is about to store a table of literals that stands behind the header. Its
    destination may meet the header, but not the table. -/
structure AtTable (m : Machine R) (s : Selector) (type : DataType) (dest : UInt16) (count : UInt8)
    (table : List UInt8) : Prop where
  running : m.isHalted = false
  literal : s.isLiteral = true
  typed : s.dataType? = some type
  some : 1 ≤ count.toNat
  long : table.length = count.toNat * type.bytes
  held : m.memory.Holds m.pc.toNat (Opcode.multiload.byte :: s.byte ::
    (LittleEndian.bytes 2 dest.toNat ++ count :: table))
  apart : dest.toNat + table.length ≤ m.pc.toNat + 5 ∨
    m.pc.toNat + 5 + table.length ≤ dest.toNat

theorem elementsHeader_of_table (ready : m.AtTable s type dest elements table) :
    ∃ first, m.elementsHeader (m.pc + 1) = .ok (s, type, dest, elements) first ∧
      first.toNat = m.pc.toNat + 5 ∧ m.memory.Holds first.toNat table := by
  obtain ⟨place, held⟩ := held_afterOpcode ready.held
  obtain ⟨p1, selected, next1, held1⟩ := selector_of_held held
  obtain ⟨p2, addressed, next2, held2⟩ := address_of_held held1
  obtain ⟨p3, counted, next3, held3⟩ := byte_of_held held2
  have typed : lift (Opcode.multiload.dataType s) p1 = .ok type p1 :=
    lift_eq_ok.mpr ⟨Opcode.dataType_of_typed .multiload ready.typed, rfl⟩
  refine ⟨p3, ?_, by omega, held3⟩
  exact bind_eq_ok.mpr ⟨s, p1, selected, bind_eq_ok.mpr ⟨type, p1, typed,
    bind_eq_ok.mpr ⟨dest, p2, addressed, bind_eq_ok.mpr ⟨elements, p3, counted, rfl⟩⟩⟩⟩

theorem elementsHeader_spares : (elementsHeader m).Spares := by
  have typed : ∀ s, ControlMachine.Spares (Opcode.multiload.dataType s) := by
    intro s fault failed
    unfold Opcode.dataType at failed
    split at failed
    · cases failed
    · cases failed
      rfl
  exact (spares_byte.map _).bind fun s => (spares_lift (typed s)).bind fun _ =>
    spares_address.bind fun _ => spares_byte.bind fun _ => spares_pure _

variable [Rational R]

theorem storeElements_add {first : Nat} (count : Nat)
    (done : storeElements R type s first target memory pc = .ok () (left, middle)) :
    storeElements R type s (first + count) target memory pc =
      storeElements R type s count (target + first * type.bytes) left middle := by
  induction first generalizing target memory pc with
  | zero =>
    cases done
    rw [Nat.zero_add, Nat.zero_mul, Nat.add_zero]
  | succ first ih =>
    obtain ⟨source, next, stored, read, reach, moved, later⟩ := storeElements_succ_ok.mp done
    rw [Nat.succ_add, storeElements, read]
    simp only [reach, moved, if_true]
    rw [ih later, Nat.succ_mul, Nat.add_comm (first * type.bytes), Nat.add_assoc]

theorem operand_of_held (literal : s.isLiteral = true)
    (held : memory.Holds pc.toNat (values ++ rest)) (long : values.length = type.bytes) :
    ∃ next, operand memory.load s type.bytes pc = .ok pc next ∧
      next.toNat = pc.toNat + values.length ∧ memory.Holds next.toNat rest := by
  obtain ⟨next, read, place, later⟩ := literal_of_held held
  refine ⟨next, ?_, place, later⟩
  rw [operand, if_pos literal, ← long]
  exact read

/-- The induction is on the table: each element is taken from a part of it that no element before
    it was written to. -/
theorem storeElements_table (literal : s.isLiteral = true)
    (long : table.length = count * type.bytes) (held : memory.Holds pc.toNat table)
    (apart : target + table.length ≤ pc.toNat ∨ pc.toNat + table.length ≤ target)
    (fits : target + table.length ≤ memory.capacity) :
    ∃ last, last.toNat = pc.toNat + table.length ∧
      storeElements R type s count target memory pc = .ok () (memory.patch target table, last) := by
  induction count generalizing target memory pc table with
  | zero =>
    rw [Nat.zero_mul] at long
    obtain rfl := List.eq_nil_of_length_eq_zero long
    exact ⟨pc, rfl, rfl⟩
  | succ count ih =>
    rw [Nat.succ_mul] at long
    obtain ⟨element, rest, rfl, size⟩ : ∃ element rest, table = element ++ rest ∧
        element.length = type.bytes := by
      refine ⟨table.take type.bytes, table.drop type.bytes, (List.take_append_drop _ _).symm, ?_⟩
      rw [List.length_take]
      omega
    rw [List.length_append] at long apart fits ⊢
    obtain ⟨next, read, place, later⟩ := operand_of_held literal held size
    have small := memory.addressable
    have reach : target ≤ 0xFFFF := by
      unfold capacity at fits
      omega
    have here := toNat_ofNat_target reach
    have moved : memory.move R type (UInt16.ofNat target) pc =
        .ok (memory.patch target element) := by
      rw [move_of_held (holds_append.mp held).1 size, write_fitting _ (by rw [here]; omega), here]
    have kept : (memory.patch target element).Holds next.toNat rest :=
      holds_patch_apart later (by omega) (by omega)
    have inside : target + element.length + rest.length ≤
        (memory.patch target element).capacity := by
      rw [capacity_patch]
      omega
    obtain ⟨last, ends, stored⟩ := ih (by omega) kept (by omega) inside
    rw [patch_append] at stored
    refine ⟨last, by omega, ?_⟩
    exact storeElements_succ_ok.mpr ⟨pc, next, _, read, reach, moved, size ▸ stored⟩

/-- An element that passes the end of memory is refused by the access that was to store it. -/
theorem storeElements_beyond (count : Nat) (literal : s.isLiteral = true)
    (held : memory.Holds pc.toNat (values ++ rest)) (long : values.length = type.bytes)
    (reach : target ≤ 0xFFFF) (beyond : memory.capacity < target + type.bytes) :
    ∃ last, storeElements R type s (count + 1) target memory pc =
      .error (.accessViolation (elementAccess type) target type.bytes) (memory, last) := by
  obtain ⟨next, read, -, -⟩ := operand_of_held literal held long
  have here := toNat_ofNat_target reach
  refine ⟨next, ?_⟩
  rw [storeElements, read]
  simp only [reach, if_true]
  rw [move_of_held (holds_append.mp held).1 long, write_beyond _ (by rw [here, long]; exact beyond),
    here, long]

theorem storeElements_room (literal : s.isLiteral = true)
    (long : table.length = count * type.bytes) (held : memory.Holds pc.toNat table)
    (apart : target + table.length ≤ pc.toNat ∨ pc.toNat + table.length ≤ target) {most : Nat}
    (few : most < count) (room : memory.Room target type.bytes most) :
    ∃ last, storeElements R type s most target memory pc =
        .ok () (memory.patch target (table.take (most * type.bytes)), last) ∧
      (memory.patch target (table.take (most * type.bytes))).Holds last.toNat
        (table.drop (most * type.bytes)) := by
  have less : most * type.bytes ≤ table.length := by
    rw [long]
    exact Nat.mul_le_mul_right _ (Nat.le_of_lt few)
  have size : (table.take (most * type.bytes)).length = most * type.bytes := by
    rw [List.length_take, Nat.min_eq_left less]
  rcases room.fits with fits | ⟨-, rfl⟩
  · have parts := held
    rw [← List.take_append_drop (most * type.bytes) table, holds_append, size] at parts
    have inside : target + (table.take (most * type.bytes)).length ≤ memory.capacity := by
      rwa [size]
    obtain ⟨last, ends, stored⟩ :=
      storeElements_table (R := R) literal size parts.1 (by omega) inside
    refine ⟨last, stored, ?_⟩
    rw [size] at ends
    rw [ends]
    apply holds_patch_apart parts.2 (by omega)
    rw [size, List.length_drop]
    omega
  · rw [Nat.zero_mul]
    exact ⟨pc, rfl, held⟩

theorem storeElements_cut (literal : s.isLiteral = true)
    (long : table.length = count * type.bytes) (held : memory.Holds pc.toNat table)
    (apart : target + table.length ≤ pc.toNat ∨ pc.toNat + table.length ≤ target) {most : Nat}
    (few : most < count) (room : memory.Room target type.bytes most) (reach : target ≤ 0xFFFF) :
    ∃ last, storeElements R type s count target memory pc =
      .error (.accessViolation (elementAccess type) (target + most * type.bytes) type.bytes)
        (memory.patch target (table.take (most * type.bytes)), last) := by
  obtain ⟨middle, stored, later⟩ := storeElements_room (R := R) literal long held apart few room
  -- the element after those that fit is the one refused, and none is tried after it
  obtain ⟨more, rfl⟩ := Nat.exists_eq_add_of_lt few
  have left : (table.drop (most * type.bytes)).length = more * type.bytes + type.bytes := by
    rw [List.length_drop, long, Nat.succ_mul, Nat.add_mul]
    omega
  have element : ((table.drop (most * type.bytes)).take type.bytes).length = type.bytes := by
    rw [List.length_take, left]
    omega
  have small := memory.addressable
  have inside : target + most * type.bytes ≤ 0xFFFF := by
    rcases room.fits with fits | ⟨-, rfl⟩
    · exact Nat.le_trans fits small
    · omega
  rw [← List.take_append_drop type.bytes (table.drop (most * type.bytes))] at later
  obtain ⟨last, refused⟩ := storeElements_beyond (R := R) more literal later element inside
    (by rw [capacity_patch]; exact room.next_beyond)
  exact ⟨last, (storeElements_add (more + 1) stored).trans refused⟩

theorem multiload_of_stored
    (read : m.elementsHeader (m.pc + 1) = .ok (s, type, dest, elements) pc)
    (stored : storeElements R type s elements.toNat dest.toNat m.memory pc =
      .ok () (memory, middle)) : m.multiload = .ok middle (m.withMemory memory) := by
  unfold elementsHeader at read
  unfold multiload
  simp only [read, stored]

theorem multiload_of_refused
    (read : m.elementsHeader (m.pc + 1) = .ok (s, type, dest, elements) pc)
    (refused : storeElements R type s elements.toNat dest.toNat m.memory pc =
      .error fault (memory, middle)) : m.multiload = .error fault (m.withMemory memory) := by
  unfold elementsHeader at read
  unfold multiload
  simp only [read, refused]

/-- Targets begin at an address, and each element that is stored leaves the next target one as well:
    the element fits into memory, and memory ends before the addresses do. -/
theorem storeElements_spares {last : UInt16} (reach : target ≤ 0xFFFF)
    (failed : storeElements R type s count target memory pc = .error fault (left, last)) :
    fault.passesAddresses = false := by
  obtain ⟨k, middle, few, stored, here⟩ := storeElements_error failed
  have inside : target + k * type.bytes ≤ 0xFFFF := by
    rcases Nat.eq_zero_or_pos k with rfl | some
    · omega
    · exact Nat.le_trans (storeElements_fits stored some) memory.addressable
  rw [storeElements] at here
  simp only [inside, if_true] at here
  split at here
  · rename_i refused
    cases here
    exact spares_operand s type.bytes middle _ _ refused
  · split at here
    · rename_i refused
      cases here
      exact move_spares type _ _ fault refused
    · cases here

theorem step_multiload_spares (here : m.opcode? = some .multiload)
    (failed : m.step clock = .error fault after) : fault.passesAddresses = false := by
  rcases step_error failed with ⟨-, ⟨nothing, -⟩ | ⟨op, before, found, run, -⟩⟩
  · rw [here] at nothing
    cases nothing
  · rw [here] at found
    cases found
    have run : m.started.multiload = .error fault before := run
    rcases multiload_error run with
      ⟨-, last, refused⟩ | ⟨s, type, dest, count, pc, left, last, -, stored, -⟩
    · exact elementsHeader_spares _ _ _ refused
    · have small := dest.toNat_lt
      exact storeElements_spares (by omega) stored

structure StoresTable (m : Machine R) (clock : Clock) (type : DataType) (dest : UInt16)
    (table : List UInt8) : Prop where
  whole : dest.toNat + table.length ≤ m.memory.capacity →
    ∃ after, m.step clock = .ok () after ∧ m.memory.Replaced after.memory dest.toNat table ∧
      after.pc.toNat = m.pc.toNat + 5 + table.length
  cut : m.memory.capacity < dest.toNat + table.length →
    ∃ most after, m.memory.Room dest.toNat type.bytes most ∧ most * type.bytes < table.length ∧
      m.step clock = .error (.accessViolation (elementAccess type)
        (dest.toNat + most * type.bytes) type.bytes) after ∧
      m.memory.Replaced after.memory dest.toNat (table.take (most * type.bytes))

theorem multiload_of_table (ready : m.AtTable s type dest elements table)
    (fits : dest.toNat + table.length ≤ m.memory.capacity) :
    ∃ next, next.toNat = m.pc.toNat + 5 + table.length ∧
      m.multiload = .ok next (m.withMemory (m.memory.patch dest.toNat table)) := by
  obtain ⟨first, read, place, held⟩ := elementsHeader_of_table ready
  have apart := ready.apart
  rw [← place] at apart
  obtain ⟨last, ends, stored⟩ :=
    storeElements_table (R := R) ready.literal ready.long held apart fits
  exact ⟨last, by omega, multiload_of_stored read stored⟩

theorem multiload_of_cut (ready : m.AtTable s type dest elements table)
    (beyond : m.memory.capacity < dest.toNat + table.length) :
    ∃ most, m.memory.Room dest.toNat type.bytes most ∧ most * type.bytes < table.length ∧
      m.multiload = .error (.accessViolation (elementAccess type)
        (dest.toNat + most * type.bytes) type.bytes)
        (m.withMemory (m.memory.patch dest.toNat (table.take (most * type.bytes)))) := by
  obtain ⟨first, read, place, held⟩ := elementsHeader_of_table ready
  have apart := ready.apart
  have long := ready.long
  have some := ready.some
  have reach := dest.toNat_lt
  rw [← place] at apart
  have wide : 0 < type.bytes := by cases type with
    | word width => cases width <;> decide
    | rational => decide
  have room := m.memory.room_div dest.toNat wide
  have few : (m.memory.capacity - dest.toNat) / type.bytes < elements.toNat := by
    rw [Nat.div_lt_iff_lt_mul wide, ← long]
    have positive := Nat.mul_le_mul some wide
    omega
  obtain ⟨last, refused⟩ :=
    storeElements_cut (R := R) ready.literal long held apart few room (by omega)
  refine ⟨_, room, ?_, multiload_of_refused read refused⟩
  rw [long]
  exact Nat.mul_lt_mul_of_pos_right few wide

theorem storesTable_of_ready (clock : Clock) (ready : m.AtTable s type dest elements table) :
    m.StoresTable clock type dest table := by
  have here := opcode_of_held ready.held
  have begun : m.started.AtTable s type dest elements table := ⟨ready.running, ready.literal,
    ready.typed, ready.some, ready.long, ready.held, ready.apart⟩
  constructor
  case whole =>
    intro fits
    obtain ⟨next, ends, run⟩ := multiload_of_table begun fits
    exact ⟨_, step_of_execute ready.running here run, replaced_patch fits, ends⟩
  case cut =>
    intro beyond
    obtain ⟨most, room, few, run⟩ := multiload_of_cut begun beyond
    refine ⟨most, _, room, few, step_of_fault ready.running here run, ?_⟩
    have size : (table.take (most * type.bytes)).length = most * type.bytes := by
      rw [List.length_take, Nat.min_eq_left (Nat.le_of_lt few)]
    rcases room.fits with fits | ⟨-, rfl⟩
    · exact replaced_patch (by rwa [size])
    · rw [Nat.zero_mul]
      exact replaced_none m.memory dest.toNat

theorem literal_tables_stored (R : Type) [Rational R] :
    (∀ (m : Machine R) (clock : Clock) (s : Selector) (type : DataType) (dest : UInt16)
      (count : UInt8) (table : List UInt8), m.AtTable s type dest count table →
        m.StoresTable clock type dest table) ∧
      ∀ (m after : Machine R) (clock : Clock) (fault : Fault), m.opcode? = some .multiload →
        m.step clock = .error fault after →
        ∀ address width, fault ≠ .accessViolation .multiload address width := by
  constructor
  · intro m clock s type dest count table ready
    exact storesTable_of_ready clock ready
  · intro m after clock fault here failed address width named
    have spared := step_multiload_spares here failed
    rw [named] at spared
    cases spared

def cutTable : Machine Fixed :=
  filled [0x21, 0x07, 0x09, 0x00, 0x02, 0x11, 0x22, 0x33, 0x44, 0x00, 0x00, 0x00]

def overHeader : Machine Fixed := filled [0x21, 0x05, 0x04, 0x00, 0x01, 0x99]

theorem literal_tables_stored_at_end :
    (∃ after, cutTable.step ⟨0⟩ = .error (.accessViolation .storeAddress 11 2) after ∧
      after.memory.slice 9 3 = [0x11, 0x22, 0x00]) ∧
      (∃ after, overHeader.step ⟨0⟩ = .ok () after ∧ after.memory.byteAt 4 = 0x99 ∧
        after.pc.toNat = 6) ∧
      ∀ after fault, cutTable.step ⟨0⟩ = .error fault after →
        fault ≠ .accessViolation .multiload 11 2 := by
  obtain ⟨stores, never⟩ := literal_tables_stored Fixed
  have cutReady : cutTable.AtTable ⟨0x07⟩ (.word .two) 9 2 [0x11, 0x22, 0x33, 0x44] :=
    ⟨rfl, rfl, rfl, by decide, rfl, ⟨by decide, by decide⟩, by decide⟩
  have ready : overHeader.AtTable ⟨0x05⟩ (.word .one) 4 1 [0x99] :=
    ⟨rfl, rfl, rfl, by decide, rfl, ⟨by decide, by decide⟩, by decide⟩
  have cut := stores cutTable ⟨0⟩ _ _ _ _ _ cutReady
  have whole := stores overHeader ⟨0⟩ _ _ _ _ _ ready
  obtain ⟨most, stopped, room, few, failed, cutAfter⟩ := cut.cut (by decide)
  obtain ⟨after, done, replaced, ends⟩ := whole.whole (by decide)
  have one : most = 1 := by
    have least := room.most 1 (by decide)
    change most * 2 < 4 at few
    omega
  subst one
  refine ⟨⟨stopped, failed, ?_⟩, ⟨after, done, replaced.inside 0 (by decide), ends⟩, ?_⟩
  · have first := cutAfter.inside 0 (by decide)
    have second := cutAfter.inside 1 (by decide)
    have third := cutAfter.outside 11 (Or.inr (by decide))
    exact List.cons_eq_cons.mpr ⟨first, List.cons_eq_cons.mpr ⟨second,
      List.cons_eq_cons.mpr ⟨third, rfl⟩⟩⟩
  · intro after fault failed
    exact never cutTable after ⟨0⟩ fault rfl failed 11 2

end Machine
end ControlMachine
