import ControlMachine.Fault
import ControlMachine.DataType
import ControlMachine.LittleEndian
import ControlMachine.Number.Rational
import ControlMachine.Text.Utf8

/- Byte-addressed memory. Values of any width may start at any address and overlap; an access that
   does not fit is a fault and changes nothing. -/
namespace ControlMachine

structure Memory where
  bytes : ByteArray
  nonempty : 0 < bytes.size
  addressable : bytes.size ≤ 0xFFFF

namespace Memory

def capacity (m : Memory) : Nat := m.bytes.size

def zeros (size : Nat) : ByteArray := ⟨Array.replicate size 0⟩

@[simp] theorem size_zeros (size : Nat) : (zeros size).size = size :=
  Array.size_replicate

/-- Zeroed memory. Sizes are brought into the range from 1 to 65535. -/
def ofCapacity (capacity : Nat) : Memory where
  bytes := zeros (max 1 (min capacity 0xFFFF))
  nonempty := by rw [size_zeros]; omega
  addressable := by rw [size_zeros]; omega

/-- The byte at an address; zero past the end. -/
def byteAt (m : Memory) (i : Nat) : UInt8 :=
  if h : i < m.bytes.size then m.bytes.get i h else 0

def slice (m : Memory) (start width : Nat) : List UInt8 :=
  (List.range width).map fun i => m.byteAt (start + i)

def overwrite (bytes : ByteArray) (start : Nat) : List UInt8 → ByteArray
  | [] => bytes
  | b :: values => overwrite (bytes.set! start b) (start + 1) values

@[simp] theorem size_overwrite (bytes : ByteArray) (start : Nat) (values : List UInt8) :
    (overwrite bytes start values).size = bytes.size := by
  induction values generalizing bytes start with
  | nil => rfl
  | cons b values ih => simp [overwrite, ih]

def patch (m : Memory) (start : Nat) (values : List UInt8) : Memory where
  bytes := overwrite m.bytes start values
  nonempty := by simpa using m.nonempty
  addressable := by simpa using m.addressable

@[simp] theorem capacity_patch (m : Memory) (start : Nat) (values : List UInt8) :
    (m.patch start values).capacity = m.capacity := by
  simp [patch, capacity]

theorem byteAt_eq_getD (m : Memory) (i : Nat) : m.byteAt i = m.bytes.data.getD i 0 := rfl

theorem data_overwrite (bytes : ByteArray) (start : Nat) (values : List UInt8)
    (fits : start + values.length ≤ bytes.size) (i : Nat) :
    (overwrite bytes start values).data.getD i 0 =
      if start ≤ i then values.getD (i - start) (bytes.data.getD i 0)
      else bytes.data.getD i 0 := by
  induction values generalizing bytes start with
  | nil => simp [overwrite]
  | cons b values ih =>
    rw [List.length_cons] at fits
    have inside : start < bytes.data.size := by rw [ByteArray.size_data]; omega
    have set : ∀ j, (bytes.set! start b).data.getD j 0 =
        if start = j then b else bytes.data.getD j 0 := by
      intro j
      rw [show (bytes.set! start b).data = bytes.data.setIfInBounds start b from rfl]
      simp only [Array.getD_eq_getD_getElem?, Array.getElem?_setIfInBounds, inside]
      split <;> rfl
    rw [overwrite, ih _ _ (by rw [ByteArray.size_set!]; omega), set]
    by_cases here : start = i
    · subst here
      rw [if_neg (by omega), if_pos rfl, if_pos (by omega), Nat.sub_self]
      rfl
    · rw [if_neg here]
      by_cases above : start ≤ i
      · rw [if_pos (by omega), if_pos above, show i - start = (i - (start + 1)) + 1 by omega]
        rfl
      · rw [if_neg (by omega), if_neg above]

theorem byteAt_patch (m : Memory) (start : Nat) (values : List UInt8)
    (fits : start + values.length ≤ m.capacity) (i : Nat) :
    (m.patch start values).byteAt i =
      if start ≤ i then values.getD (i - start) (m.byteAt i) else m.byteAt i :=
  data_overwrite m.bytes start values fits i

theorem slice_patch (m : Memory) (start : Nat) (values : List UInt8)
    (fits : start + values.length ≤ m.capacity) :
    (m.patch start values).slice start values.length = values := by
  refine List.ext_getElem (by rw [slice, List.length_map, List.length_range]) fun i _ small => ?_
  simp only [slice, List.getElem_map, List.getElem_range]
  rw [byteAt_patch m start values fits, if_pos (Nat.le_add_right start i),
    Nat.add_sub_cancel_left, List.getD_eq_getElem?_getD, List.getElem?_eq_getElem small]
  rfl

/-- The access fits if its last byte is inside. -/
def check (m : Memory) (access : Access) (address : UInt16) (width : Nat) : Except Fault Unit :=
  if address.toNat + width ≤ m.capacity then .ok ()
  else .error (.accessViolation access address.toNat width)

def read (m : Memory) (access : Access) (address : UInt16) (width : Nat) :
    Except Fault (List UInt8) := do
  m.check access address width
  return m.slice address.toNat width

def write (m : Memory) (access : Access) (address : UInt16) (values : List UInt8) :
    Except Fault Memory := do
  m.check access address values.length
  return m.patch address.toNat values

def load (m : Memory) (address : UInt16) : Except Fault UInt8 := do
  return UInt8.ofNat (LittleEndian.value (← m.read .load address 1))

def store (m : Memory) (address : UInt16) (value : UInt8) : Except Fault Memory :=
  m.write .store address [value]

def loadAddress (m : Memory) (address : UInt16) : Except Fault UInt16 := do
  return UInt16.ofNat (LittleEndian.value (← m.read .loadAddress address 2))

def storeAddress (m : Memory) (address value : UInt16) : Except Fault Memory :=
  m.write .storeAddress address (LittleEndian.bytes 2 value.toNat)

def loadUnsigned (m : Memory) (address : UInt16) : Except Fault UInt32 := do
  return UInt32.ofNat (LittleEndian.value (← m.read .loadUnsigned address 4))

def storeUnsigned (m : Memory) (address : UInt16) (value : UInt32) : Except Fault Memory :=
  m.write .storeUnsigned address (LittleEndian.bytes 4 value.toNat)

def loadRational {R : Type} [Rational R] (m : Memory) (address : UInt16) : Except Fault R := do
  return Rational.ofBits (UInt32.ofNat (LittleEndian.value (← m.read .loadRational address 4)))

def storeRational {R : Type} [Rational R] (m : Memory) (address : UInt16) (value : R) :
    Except Fault Memory :=
  m.write .storeRational address (LittleEndian.bytes 4 (Rational.toBits value).toNat)

def loadWord (m : Memory) (width : Width) (address : UInt16) : Except Fault UInt32 :=
  match width with
  | .one => UInt8.toUInt32 <$> m.load address
  | .two => UInt16.toUInt32 <$> m.loadAddress address
  | .four => m.loadUnsigned address

def storeWord (m : Memory) (width : Width) (address : UInt16) (value : UInt32) :
    Except Fault Memory :=
  match width with
  | .one => m.store address value.toUInt8
  | .two => m.storeAddress address value.toUInt16
  | .four => m.storeUnsigned address value

/-- Carries bytes over one after the other, in the order of their offsets. Each is read when its turn
    comes, and may have been written over by then. -/
def moveBytes (source dest : Nat) : List Nat → Memory → Memory
  | [], m => m
  | i :: offsets, m => moveBytes source dest offsets (m.patch (dest + i) [m.byteAt (source + i)])

/-- The last byte goes first if the bytes go up. -/
def copyOrder (source dest length : Nat) : List Nat :=
  if source < dest then (List.range length).reverse else List.range length

def copy (m : Memory) (source : UInt16) (length : UInt8) (dest : UInt16) :
    Except Fault Memory := do
  m.check .copy source length.toNat
  m.check .copy dest length.toNat
  return moveBytes source.toNat dest.toNat
    (copyOrder source.toNat dest.toNat length.toNat) m

def writeBytes (m : Memory) (address : UInt16) (values : List UInt8) : Except Fault Memory :=
  m.write .writeBytes address values

def readBytes (m : Memory) (address : UInt16) (length : Nat) : Except Fault (List UInt8) :=
  m.read .readBytes address length

/-- The bytes before the next zero. Without one, the fault counts the bytes to the end and one
    more. -/
def loadString (m : Memory) (address : UInt16) : Except Fault String := do
  m.check .loadString address 1
  let rest := m.slice address.toNat (m.capacity - address.toNat)
  let text := rest.takeWhile (· != 0)
  if text.length < rest.length then return Utf8.lossy text
  else throw (.accessViolation .loadString address.toNat (rest.length + 1))

def clear (m : Memory) : Memory where
  bytes := zeros m.bytes.size
  nonempty := by simpa using m.nonempty
  addressable := by simpa using m.addressable

end Memory
end ControlMachine
