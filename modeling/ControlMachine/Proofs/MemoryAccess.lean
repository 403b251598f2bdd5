import ControlMachine.Machine.Instruction

/- When accesses to memory succeed, what they give, and what they leave as it was. -/
namespace ControlMachine

theorem except_bind_eq_ok {ε α β : Type} {x : Except ε α} {f : α → Except ε β} {b : β} :
    (x >>= f) = .ok b ↔ ∃ a, x = .ok a ∧ f a = .ok b := by
  cases x <;> simp [bind, Except.bind]

theorem except_map_eq_ok {α β : Type} {x : Except Fault α} {f : α → β} {b : β} :
    f <$> x = .ok b ↔ ∃ a, x = .ok a ∧ f a = b := by
  cases x <;> simp [Functor.map, Except.map]

namespace Memory

theorem check_eq_ok {m : Memory} {access : Access} {address : UInt16} {width : Nat}
    {u : Unit} :
    m.check access address width = .ok u ↔ address.toNat + width ≤ m.capacity := by
  simp only [check]
  split <;> simp_all

theorem read_eq_ok {m : Memory} {access : Access} {address : UInt16} {width : Nat}
    {values : List UInt8} :
    m.read access address width = .ok values ↔
      address.toNat + width ≤ m.capacity ∧ values = m.slice address.toNat width := by
  simp only [read, except_bind_eq_ok, check_eq_ok, pure, Except.pure, Except.ok.injEq]
  constructor
  · rintro ⟨-, fits, same⟩
    exact ⟨fits, same.symm⟩
  · rintro ⟨fits, same⟩
    exact ⟨(), fits, same.symm⟩

theorem read_pure_eq_ok {α : Type} {m : Memory} {access : Access} {address : UInt16}
    {width : Nat} {f : List UInt8 → α} {value : α} :
    (do return f (← m.read access address width) : Except Fault α) = .ok value ↔
      address.toNat + width ≤ m.capacity ∧ value = f (m.slice address.toNat width) := by
  simp only [except_bind_eq_ok, read_eq_ok, pure, Except.pure, Except.ok.injEq]
  constructor
  · rintro ⟨-, ⟨fits, rfl⟩, same⟩
    exact ⟨fits, same.symm⟩
  · rintro ⟨fits, same⟩
    exact ⟨_, ⟨fits, rfl⟩, same.symm⟩

theorem write_eq_ok {m after : Memory} {access : Access} {address : UInt16}
    {values : List UInt8} :
    m.write access address values = .ok after ↔
      address.toNat + values.length ≤ m.capacity ∧ after = m.patch address.toNat values := by
  simp only [write, except_bind_eq_ok, check_eq_ok, pure, Except.pure, Except.ok.injEq]
  constructor
  · rintro ⟨-, fits, same⟩
    exact ⟨fits, same.symm⟩
  · rintro ⟨fits, same⟩
    exact ⟨(), fits, same.symm⟩

theorem slice_succ (m : Memory) (start width : Nat) :
    m.slice start (width + 1) = m.byteAt start :: m.slice (start + 1) width := by
  simp only [slice, List.range_succ_eq_map, List.map_cons, List.map_map, Nat.add_zero]
  congr 1
  refine List.map_congr_left fun i _ => ?_
  simp only [Function.comp, Nat.succ_eq_add_one]
  rw [Nat.add_assoc, Nat.add_comm 1 i]

theorem load_eq_ok {m : Memory} {address : UInt16} {value : UInt8} :
    m.load address = .ok value ↔
      address.toNat < m.capacity ∧ value = m.byteAt address.toNat := by
  have single : UInt8.ofNat (LittleEndian.value (m.slice address.toNat 1)) =
      m.byteAt address.toNat := by
    rw [slice_succ]
    simp [slice, LittleEndian.value]
  rw [← single]
  exact read_pure_eq_ok

theorem loadAddress_eq_ok {m : Memory} {address value : UInt16} :
    m.loadAddress address = .ok value ↔ address.toNat + 2 ≤ m.capacity ∧
      value = UInt16.ofNat (LittleEndian.value (m.slice address.toNat 2)) :=
  read_pure_eq_ok

theorem loadUnsigned_eq_ok {m : Memory} {address : UInt16} {value : UInt32} :
    m.loadUnsigned address = .ok value ↔ address.toNat + 4 ≤ m.capacity ∧
      value = UInt32.ofNat (LittleEndian.value (m.slice address.toNat 4)) :=
  read_pure_eq_ok

theorem loadRational_eq_ok {R : Type} [Rational R] {m : Memory} {address : UInt16} {value : R} :
    m.loadRational address = .ok value ↔ address.toNat + 4 ≤ m.capacity ∧
      value = Rational.ofBits (UInt32.ofNat (LittleEndian.value (m.slice address.toNat 4))) :=
  read_pure_eq_ok

theorem loadWord_fits {m : Memory} {width : Width} {address : UInt16} {value : UInt32}
    (loaded : m.loadWord width address = .ok value) :
    address.toNat + width.bytes ≤ m.capacity := by
  cases width with
  | one =>
    obtain ⟨_, byte, -⟩ := except_map_eq_ok.mp loaded
    exact (load_eq_ok.mp byte).1
  | two =>
    obtain ⟨_, pair, -⟩ := except_map_eq_ok.mp loaded
    exact (loadAddress_eq_ok.mp pair).1
  | four => exact (loadUnsigned_eq_ok.mp loaded).1

theorem loadRational_congr {R : Type} [Rational R] {m after : Memory} {address : UInt16}
    (size : after.capacity = m.capacity)
    (bytes : after.slice address.toNat 4 = m.slice address.toNat 4) :
    after.loadRational (R := R) address = m.loadRational address := by
  simp only [loadRational, read, check, size, bytes]

theorem loadRational_of_stored {R : Type} [Rational R] {m after : Memory} {address : UInt16}
    {value : R} (stored : m.storeRational address value = .ok after) :
    after.loadRational address = .ok value := by
  obtain ⟨fits, rfl⟩ := write_eq_ok.mp stored
  have back := slice_patch m address.toNat _ fits
  rw [LittleEndian.length_bytes] at fits back
  have small : (Rational.toBits value).toNat < Nat.pow 256 4 := (Rational.toBits value).toNat_lt
  refine loadRational_eq_ok.mpr ⟨by rwa [capacity_patch], ?_⟩
  rw [back, LittleEndian.value_bytes, Nat.mod_eq_of_lt small, UInt32.ofNat_toNat,
    Rational.ofBits_toBits]

def Overwritten (m after : Memory) (start width : Nat) : Prop :=
  ∃ values : List UInt8, values.length = width ∧ start + width ≤ m.capacity ∧
    after = m.patch start values

theorem Overwritten.fits {m after : Memory} {start width : Nat}
    (patched : m.Overwritten after start width) : start + width ≤ m.capacity := by
  obtain ⟨values, -, fits, -⟩ := patched
  exact fits

theorem write_overwritten {m after : Memory} {access : Access} {address : UInt16}
    {values : List UInt8} {width : Nat} (size : values.length = width)
    (written : m.write access address values = .ok after) :
    m.Overwritten after address.toNat width := by
  obtain ⟨fits, same⟩ := write_eq_ok.mp written
  exact ⟨values, size, size ▸ fits, same⟩

theorem overwritten_capacity {m after : Memory} {start width : Nat}
    (patched : m.Overwritten after start width) : after.capacity = m.capacity := by
  obtain ⟨values, -, -, rfl⟩ := patched
  exact capacity_patch m start values

theorem overwritten_outside {m after : Memory} {start width : Nat}
    (patched : m.Overwritten after start width) {i : Nat} (outside : i < start ∨ start + width ≤ i) :
    after.byteAt i = m.byteAt i := by
  obtain ⟨values, size, fits, rfl⟩ := patched
  rw [byteAt_patch m start values (by omega)]
  split
  · rw [List.getD_eq_getElem?_getD, List.getElem?_eq_none (by omega), Option.getD_none]
  · rfl

theorem storeWord_overwritten {m after : Memory} {width : Width} {address : UInt16}
    {value : UInt32} (stored : m.storeWord width address value = .ok after) :
    m.Overwritten after address.toNat width.bytes := by
  cases width with
  | one => exact write_overwritten rfl stored
  | two => exact write_overwritten (LittleEndian.length_bytes _ _) stored
  | four => exact write_overwritten (LittleEndian.length_bytes _ _) stored

theorem storeRational_overwritten {R : Type} [Rational R] {m after : Memory} {address : UInt16}
    {value : R} (stored : m.storeRational address value = .ok after) :
    m.Overwritten after address.toNat 4 :=
  write_overwritten (LittleEndian.length_bytes _ _) stored

theorem move_effect {R : Type} [Rational R] {m after : Memory} {type : DataType}
    {dest source : UInt16} (moved : m.move R type dest source = .ok after) :
    source.toNat + type.bytes ≤ m.capacity ∧
      m.Overwritten after dest.toNat type.bytes := by
  cases type with
  | word width =>
    obtain ⟨value, loaded, stored⟩ := except_bind_eq_ok.mp moved
    exact ⟨loadWord_fits loaded, storeWord_overwritten stored⟩
  | rational =>
    obtain ⟨value, loaded, stored⟩ := except_bind_eq_ok.mp moved
    exact ⟨(loadRational_eq_ok.mp loaded).1, storeRational_overwritten stored⟩

theorem arithmetic_source {R : Type} [Rational R] {m after : Memory} {op : Arithmetic}
    {type : DataType} {dest source : UInt16}
    (done : m.arithmetic R op type dest source = .ok after) :
    source.toNat + type.bytes ≤ m.capacity := by
  cases type with
  | word width =>
    obtain ⟨value, loaded, -⟩ := except_bind_eq_ok.mp done
    exact loadWord_fits loaded
  | rational =>
    obtain ⟨value, loaded, -⟩ := except_bind_eq_ok.mp done
    exact (loadRational_eq_ok.mp loaded).1

theorem bitwise_source {m after : Memory} {op : Bitwise} {width : Width} {dest source : UInt16}
    (done : m.bitwise op width dest source = .ok after) :
    source.toNat + width.bytes ≤ m.capacity := by
  obtain ⟨value, loaded, -⟩ := except_bind_eq_ok.mp done
  exact loadWord_fits loaded

theorem compareCells_source {R : Type} [Rational R] {m : Memory} {type : DataType}
    {dest source : UInt16} {order : Ordering}
    (done : m.compareCells R type dest source = .ok order) :
    source.toNat + type.bytes ≤ m.capacity := by
  cases type with
  | word width =>
    obtain ⟨a, -, rest⟩ := except_bind_eq_ok.mp done
    obtain ⟨b, loaded, -⟩ := except_bind_eq_ok.mp rest
    exact loadWord_fits loaded
  | rational =>
    obtain ⟨a, -, rest⟩ := except_bind_eq_ok.mp done
    obtain ⟨b, loaded, -⟩ := except_bind_eq_ok.mp rest
    exact (loadRational_eq_ok.mp loaded).1

theorem length_slice (m : Memory) (start width : Nat) : (m.slice start width).length = width := by
  simp [slice]

theorem arithmetic_overwritten {R : Type} [Rational R] {m after : Memory} {op : Arithmetic}
    {type : DataType} {dest source : UInt16}
    (done : m.arithmetic R op type dest source = .ok after) :
    m.Overwritten after dest.toNat type.bytes := by
  cases type with
  | word width =>
    obtain ⟨b, -, rest⟩ := except_bind_eq_ok.mp done
    obtain ⟨a, -, rest⟩ := except_bind_eq_ok.mp rest
    obtain ⟨result, -, stored⟩ := except_bind_eq_ok.mp rest
    exact storeWord_overwritten stored
  | rational =>
    obtain ⟨b, -, rest⟩ := except_bind_eq_ok.mp done
    obtain ⟨a, -, rest⟩ := except_bind_eq_ok.mp rest
    obtain ⟨result, -, stored⟩ := except_bind_eq_ok.mp rest
    exact storeRational_overwritten stored

theorem bitwise_overwritten {m after : Memory} {op : Bitwise} {width : Width}
    {dest source : UInt16} (done : m.bitwise op width dest source = .ok after) :
    m.Overwritten after dest.toNat width.bytes := by
  obtain ⟨b, -, rest⟩ := except_bind_eq_ok.mp done
  obtain ⟨a, -, stored⟩ := except_bind_eq_ok.mp rest
  exact storeWord_overwritten stored

theorem complement_overwritten {m after : Memory} {width : Width} {dest : UInt16}
    (done : m.complement width dest = .ok after) : m.Overwritten after dest.toNat width.bytes := by
  obtain ⟨a, -, stored⟩ := except_bind_eq_ok.mp done
  exact storeWord_overwritten stored

theorem storeUnsigned_overwritten {m after : Memory} {address : UInt16} {value : UInt32}
    (stored : m.storeUnsigned address value = .ok after) :
    m.Overwritten after address.toNat 4 :=
  write_overwritten (LittleEndian.length_bytes _ _) stored

theorem store_overwritten {m after : Memory} {address : UInt16} {value : UInt8}
    (stored : m.store address value = .ok after) : m.Overwritten after address.toNat 1 :=
  write_overwritten rfl stored

end Memory
end ControlMachine
