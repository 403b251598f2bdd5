import ControlMachine.Proofs.LiteralTables
import ControlMachine.Proofs.MemoryInPlace

/- Cells of every type at every address. They may overlap in any way, so what a store does is said of
   all of them: a cell is the number that its bytes spell, and a store puts its own bytes in place and
   touches no others. -/
namespace ControlMachine

namespace DataType
variable {R : Type}

def Value (R : Type) : DataType → Type
  | .word .one => UInt8
  | .word .two => UInt16
  | .word .four => UInt32
  | .rational => R

variable [Rational R]

/-- A value as a number without a sign. A rational number counts as its bits do. -/
def number : (type : DataType) → type.Value R → Nat
  | .word .one, value => UInt8.toNat value
  | .word .two, value => UInt16.toNat value
  | .word .four, value => UInt32.toNat value
  | .rational, value => (Rational.toBits (R := R) value).toNat

def encode (type : DataType) (value : type.Value R) : List UInt8 :=
  LittleEndian.bytes type.bytes (type.number value)

@[simp] theorem length_encode (type : DataType) (value : type.Value R) :
    (type.encode value).length = type.bytes :=
  LittleEndian.length_bytes type.bytes (type.number value)

theorem number_lt (type : DataType) (value : type.Value R) :
    type.number value < Nat.pow 256 type.bytes := by
  cases type with
  | word width =>
    cases width with
    | one => exact UInt8.toNat_lt value
    | two => exact UInt16.toNat_lt value
    | four => exact UInt32.toNat_lt value
  | rational => exact UInt32.toNat_lt _

theorem number_inj {type : DataType} {value other : type.Value R}
    (same : type.number value = type.number other) : value = other := by
  cases type with
  | word width =>
    cases width with
    | one => exact UInt8.toNat_inj.mp same
    | two => exact UInt16.toNat_inj.mp same
    | four => exact UInt32.toNat_inj.mp same
  | rational =>
    have bits := UInt32.toNat_inj.mp same
    rw [← Rational.ofBits_toBits (R := R) value, bits]
    exact Rational.ofBits_toBits (R := R) other

theorem value_encode (type : DataType) (value : type.Value R) :
    LittleEndian.value (type.encode value) = type.number value := by
  rw [encode, LittleEndian.value_bytes]
  exact Nat.mod_eq_of_lt (type.number_lt value)

end DataType

namespace Memory
variable {R : Type} [Rational R] {m after : Memory} {type : DataType} {address : UInt16}

def loadTyped (R : Type) [Rational R] (m : Memory) :
    (type : DataType) → UInt16 → Except Fault (type.Value R)
  | .word .one, address => m.load address
  | .word .two, address => m.loadAddress address
  | .word .four, address => m.loadUnsigned address
  | .rational, address => m.loadRational (R := R) address

def storeTyped (m : Memory) : (type : DataType) → UInt16 → type.Value R → Except Fault Memory
  | .word .one, address, value => m.store address value
  | .word .two, address, value => m.storeAddress address value
  | .word .four, address, value => m.storeUnsigned address value
  | .rational, address, value => m.storeRational (R := R) address value

def storeInPlace : (type : DataType) → UInt16 → type.Value R → InPlace Fault Memory Unit
  | .word .one, address, value => writeInPlace .store address [value]
  | .word .two, address, value =>
    writeInPlace .storeAddress address (LittleEndian.bytes 2 (UInt16.toNat value))
  | .word .four, address, value =>
    writeInPlace .storeUnsigned address (LittleEndian.bytes 4 (UInt32.toNat value))
  | .rational, address, value => storeRationalInPlace (R := R) address value

theorem storeInPlace_eq (m : Memory) (type : DataType) (address : UInt16) (value : type.Value R) :
    storeInPlace type address value m = InPlace.changed m (m.storeTyped type address value) := by
  cases type with
  | word width =>
    cases width with
    | one | two | four => exact writeInPlace_eq m _ address _
  | rational => exact storeRationalInPlace_eq m address _

theorem read_as_number {α : Type} {access : Access} {width : Nat} {make : List UInt8 → α}
    {number : α → Nat} {value : α} (injective : ∀ u, number value = number u → value = u)
    (whole : number (make (m.slice address.toNat width)) =
      LittleEndian.value (m.slice address.toNat width)) :
    (do return make (← m.read access address width) : Except Fault α) = .ok value ↔
      address.toNat + width ≤ m.capacity ∧
        number value = LittleEndian.value (m.slice address.toNat width) := by
  refine read_pure_eq_ok.trans (and_congr_right fun _ => ?_)
  constructor
  · rintro rfl
    exact whole
  · intro same
    exact injective _ (same.trans whole.symm)

theorem loadTyped_eq_ok {value : type.Value R} : m.loadTyped R type address = .ok value ↔
    address.toNat + type.bytes ≤ m.capacity ∧
      type.number value = LittleEndian.value (m.slice address.toNat type.bytes) := by
  have small := LittleEndian.value_lt (m.slice address.toNat type.bytes)
  rw [length_slice] at small
  have injective : ∀ u, type.number value = type.number u → value = u :=
    fun _ => DataType.number_inj
  cases type with
  | word width =>
    cases width with
    | one => exact read_as_number injective (UInt8.toNat_ofNat_of_lt small)
    | two => exact read_as_number injective (UInt16.toNat_ofNat_of_lt small)
    | four => exact read_as_number injective (UInt32.toNat_ofNat_of_lt small)
  | rational =>
    refine read_as_number injective ?_
    exact (congrArg UInt32.toNat (Rational.toBits_ofBits _)).trans (UInt32.toNat_ofNat_of_lt small)

theorem exists_loadTyped (fits : address.toNat + type.bytes ≤ m.capacity) :
    ∃ value, m.loadTyped R type address = .ok value := by
  cases type with
  | word width =>
    cases width with
    | one | two | four => exact ⟨_, read_pure_eq_ok.mpr ⟨fits, rfl⟩⟩
  | rational => exact ⟨_, read_pure_eq_ok.mpr ⟨fits, rfl⟩⟩

theorem loadTyped_congr (size : after.capacity = m.capacity)
    (same : after.slice address.toNat type.bytes = m.slice address.toNat type.bytes) :
    after.loadTyped R type address = m.loadTyped R type address := by
  have read : ∀ access, after.read access address type.bytes = m.read access address type.bytes := by
    intro access
    simp only [Memory.read, check, size, same]
  cases type with
  | word width =>
    cases width with
    | one => exact congrArg (· >>= _) (read .load)
    | two => exact congrArg (· >>= _) (read .loadAddress)
    | four => exact congrArg (· >>= _) (read .loadUnsigned)
  | rational => exact congrArg (· >>= _) (read .loadRational)

theorem storeTyped_eq_write (m : Memory) (type : DataType) (address : UInt16)
    (value : type.Value R) :
    m.storeTyped type address value = m.write (elementAccess type) address (type.encode value) := by
  cases type with
  | word width =>
    cases width with
    | one => exact congrArg (m.write .store address [·]) (UInt8.ofNat_toNat (x := value)).symm
    | two => rfl
    | four => rfl
  | rational => rfl

theorem storeInPlace_fitting (fits : address.toNat + type.bytes ≤ m.capacity) (value : type.Value R) :
    storeInPlace type address value m = .ok () (m.patch address.toNat (type.encode value)) := by
  rw [storeInPlace_eq, storeTyped_eq_write, write_fitting _ (by rwa [DataType.length_encode])]
  rfl

theorem storeInPlace_beyond (beyond : m.capacity < address.toNat + type.bytes) (value : type.Value R) :
    storeInPlace type address value m =
      .error (.accessViolation (elementAccess type) address.toNat type.bytes) m := by
  rw [storeInPlace_eq, storeTyped_eq_write, write_beyond _ (by rwa [DataType.length_encode]),
    DataType.length_encode]
  rfl

def sliceWith (m : Memory) (start : Nat) (values : List UInt8) (place width : Nat) : List UInt8 :=
  (List.range width).map fun i =>
    if start ≤ place + i then values.getD (place + i - start) (m.byteAt (place + i))
    else m.byteAt (place + i)

theorem slice_patch_eq {start : Nat} {values : List UInt8}
    (fits : start + values.length ≤ m.capacity) (place width : Nat) :
    (m.patch start values).slice place width = m.sliceWith start values place width :=
  List.map_congr_left fun i _ => byteAt_patch m start values fits (place + i)

/-- What a store leaves in memory. Each cell is said to be as before if it lies apart, and in any case
    to be the number of its bytes, some of which may be new. -/
structure Stored (m after : Memory) (type : DataType) (address : UInt16) (value : type.Value R) :
    Prop where
  bytes : m.Replaced after address.toNat (type.encode value)
  back : after.loadTyped R type address = .ok value
  apart : ∀ (other : DataType) (place : UInt16),
    place.toNat + other.bytes ≤ address.toNat ∨ address.toNat + type.bytes ≤ place.toNat →
      after.loadTyped R other place = m.loadTyped R other place
  cells : ∀ (other : DataType) (place : UInt16), place.toNat + other.bytes ≤ m.capacity →
    ∃ found, after.loadTyped R other place = .ok found ∧ other.number found =
      LittleEndian.value (m.sliceWith address.toNat (type.encode value) place.toNat other.bytes)

theorem stored_patch (fits : address.toNat + type.bytes ≤ m.capacity) (value : type.Value R) :
    m.Stored (m.patch address.toNat (type.encode value)) type address value := by
  have long := type.length_encode value
  have room : address.toNat + (type.encode value).length ≤ m.capacity := by rwa [long]
  have size := capacity_patch m address.toNat (type.encode value)
  constructor
  case bytes => exact replaced_patch room
  case back =>
    have back := slice_patch m address.toNat (type.encode value) room
    rw [long] at back
    refine loadTyped_eq_ok.mpr ⟨by rwa [size], ?_⟩
    rw [back, DataType.value_encode]
  case apart =>
    intro other place apart
    apply loadTyped_congr size
    exact slice_patch_outside room (by omega)
  case cells =>
    intro other place inside
    obtain ⟨found, loaded⟩ := exists_loadTyped (R := R) (m := m.patch _ _) (by rwa [size])
    refine ⟨found, loaded, ?_⟩
    rw [(loadTyped_eq_ok.mp loaded).2, slice_patch_eq room]

theorem storeInPlace_loaded {value : type.Value R} (loaded : m.loadTyped R type address = .ok value) :
    storeInPlace type address value m = .ok () m := by
  obtain ⟨fits, same⟩ := loadTyped_eq_ok.mp loaded
  have bytes := LittleEndian.bytes_value (m.slice address.toNat type.bytes)
  rw [length_slice, ← same] at bytes
  rw [storeInPlace_fitting fits, DataType.encode, bytes, patch_slice_self m fits]

/-- What loads and stores at one address come to. A store is done on memory itself, so that whatever it
    did before it was refused would be there. -/
structure ExactCell (R : Type) [Rational R] (m : Memory) (type : DataType) (address : UInt16) :
    Prop where
  loads : (∃ value, m.loadTyped R type address = .ok value) ↔
    address.toNat + type.bytes ≤ m.capacity
  inPlace : ∀ value : type.Value R,
    storeInPlace type address value m = InPlace.changed m (m.storeTyped type address value)
  stores : ∀ value : type.Value R, (∃ after, storeInPlace type address value m = .ok () after) ↔
    address.toNat + type.bytes ≤ m.capacity
  refused : ∀ (value : type.Value R) (fault : Fault) (after : Memory),
    storeInPlace type address value m = .error fault after →
      fault = .accessViolation (elementAccess type) address.toNat type.bytes ∧ after = m
  stored : ∀ (value : type.Value R) (after : Memory),
    storeInPlace type address value m = .ok () after → m.Stored after type address value
  restored : ∀ value : type.Value R, m.loadTyped R type address = .ok value →
    storeInPlace type address value m = .ok () m

theorem typed_access_exact (R : Type) [Rational R] (m : Memory) (type : DataType)
    (address : UInt16) : ExactCell R m type address := by
  constructor
  case loads =>
    constructor
    · rintro ⟨value, loaded⟩
      exact (loadTyped_eq_ok.mp loaded).1
    · exact exists_loadTyped
  case inPlace => exact storeInPlace_eq m type address
  case stores =>
    intro value
    constructor
    · rintro ⟨after, done⟩
      apply Nat.le_of_not_lt
      intro beyond
      rw [storeInPlace_beyond beyond] at done
      cases done
    · intro fits
      exact ⟨_, storeInPlace_fitting fits value⟩
  case refused =>
    intro value fault after failed
    by_cases fits : address.toNat + type.bytes ≤ m.capacity
    · rw [storeInPlace_fitting fits] at failed
      cases failed
    · rw [storeInPlace_beyond (Nat.lt_of_not_le fits)] at failed
      cases failed
      exact ⟨rfl, rfl⟩
  case stored =>
    intro value after done
    by_cases fits : address.toNat + type.bytes ≤ m.capacity
    · rw [storeInPlace_fitting fits] at done
      cases done
      exact stored_patch fits value
    · rw [storeInPlace_beyond (Nat.lt_of_not_le fits)] at done
      cases done
  case restored =>
    intro value loaded
    exact storeInPlace_loaded loaded

/-- A word of two bytes in the middle of one of four. -/
example : (InPlace.left (storeInPlace (R := Fixed) (.word .two) 1 (0xABCD : UInt16)
    (ofCapacity 4))).loadTyped Fixed (.word .four) 0 = .ok (0x00ABCD00 : UInt32) := by rfl

end Memory
end ControlMachine
