import ControlMachine.Proofs.Footprint
import ControlMachine.Proofs.MemoryContents

/- Words in memory as numbers. A cell keeps the low bits of the number stored in it, and to store
   the number that is there already changes nothing. -/
namespace ControlMachine

theorem LittleEndian.bytes_mod (width n : Nat) :
    bytes width (n % Nat.pow 256 width) = bytes width n := by
  have back := bytes_value (bytes width n)
  rwa [length_bytes, value_bytes] at back

namespace Memory
variable {m after : Memory} {width : Width} {address : UInt16} {value word : UInt32}

theorem storeWord_eq_ok : m.storeWord width address value = .ok after ↔
    address.toNat + width.bytes ≤ m.capacity ∧
      after = m.patch address.toNat (LittleEndian.bytes width.bytes value.toNat) := by
  -- narrow cells cut the word before they write it, and its bytes are the same either way
  cases width with
  | one =>
    have low : [value.toUInt8] = LittleEndian.bytes 1 value.toNat := by
      simp only [LittleEndian.bytes, List.cons.injEq, and_true, ← UInt8.toNat_inj,
        UInt32.toNat_toUInt8, UInt8.toNat_ofNat']
    refine write_eq_ok.trans ?_
    rw [low]
    rfl
  | two =>
    have low : LittleEndian.bytes 2 value.toUInt16.toNat = LittleEndian.bytes 2 value.toNat := by
      rw [UInt32.toNat_toUInt16]
      exact LittleEndian.bytes_mod 2 value.toNat
    refine write_eq_ok.trans ?_
    rw [low, LittleEndian.length_bytes]
    rfl
  | four =>
    refine write_eq_ok.trans ?_
    rw [LittleEndian.length_bytes]
    rfl

theorem read_widened {α : Type} {access : Access} {bytes : Nat} {make : List UInt8 → α}
    {widen : α → UInt32}
    (whole : (widen (make (m.slice address.toNat bytes))).toNat =
      LittleEndian.value (m.slice address.toNat bytes)) :
    widen <$> (do return make (← m.read access address bytes) : Except Fault α) = .ok word ↔
      address.toNat + bytes ≤ m.capacity ∧
        word.toNat = LittleEndian.value (m.slice address.toNat bytes) := by
  simp only [except_map_eq_ok, read_pure_eq_ok]
  constructor
  · rintro ⟨_, ⟨fits, rfl⟩, rfl⟩
    exact ⟨fits, whole⟩
  · rintro ⟨fits, same⟩
    exact ⟨_, ⟨fits, rfl⟩, UInt32.toNat_inj.mp (whole.trans same.symm)⟩

theorem loadWord_eq_ok : m.loadWord width address = .ok word ↔
    address.toNat + width.bytes ≤ m.capacity ∧
      word.toNat = LittleEndian.value (m.slice address.toNat width.bytes) := by
  have small := LittleEndian.value_lt (m.slice address.toNat width.bytes)
  rw [length_slice] at small
  cases width with
  | one =>
    apply read_widened
    rw [UInt8.toNat_toUInt32, UInt8.toNat_ofNat']
    exact Nat.mod_eq_of_lt small
  | two =>
    apply read_widened
    rw [UInt16.toNat_toUInt32, UInt16.toNat_ofNat']
    exact Nat.mod_eq_of_lt small
  | four =>
    have whole : (UInt32.ofNat (LittleEndian.value (m.slice address.toNat 4))).toNat =
        LittleEndian.value (m.slice address.toNat 4) := by
      rw [UInt32.toNat_ofNat']
      exact Nat.mod_eq_of_lt small
    refine loadUnsigned_eq_ok.trans (and_congr_right fun _ => ?_)
    rw [← UInt32.toNat_inj, whole]
    rfl

theorem exists_loadWord (fits : address.toNat + width.bytes ≤ m.capacity) :
    ∃ word, m.loadWord width address = .ok word := by
  have small := LittleEndian.value_lt (m.slice address.toNat width.bytes)
  rw [length_slice] at small
  have widest : Nat.pow 256 width.bytes ≤ 2 ^ 32 := by cases width <;> decide
  refine ⟨UInt32.ofNat (LittleEndian.value (m.slice address.toNat width.bytes)),
    loadWord_eq_ok.mpr ⟨fits, ?_⟩⟩
  rw [UInt32.toNat_ofNat']
  exact Nat.mod_eq_of_lt (Nat.lt_of_lt_of_le small widest)

theorem loadWord_of_stored (stored : m.storeWord width address value = .ok after) :
    ∃ word, after.loadWord width address = .ok word ∧
      word.toNat = value.toNat % Nat.pow 256 width.bytes := by
  obtain ⟨fits, rfl⟩ := storeWord_eq_ok.mp stored
  have long := LittleEndian.length_bytes width.bytes value.toNat
  have back := slice_patch m address.toNat (LittleEndian.bytes width.bytes value.toNat)
    (by rwa [long])
  rw [long] at back
  have room : address.toNat + width.bytes ≤
      (m.patch address.toNat (LittleEndian.bytes width.bytes value.toNat)).capacity := by
    rwa [capacity_patch]
  obtain ⟨word, loaded⟩ := exists_loadWord room
  refine ⟨word, loaded, ?_⟩
  rw [(loadWord_eq_ok.mp loaded).2, back, LittleEndian.value_bytes]

theorem storeWord_loaded (loaded : m.loadWord width address = .ok word) :
    m.storeWord width address word = .ok m := by
  obtain ⟨fits, same⟩ := loadWord_eq_ok.mp loaded
  refine storeWord_eq_ok.mpr ⟨fits, ?_⟩
  have bytes := LittleEndian.bytes_value (m.slice address.toNat width.bytes)
  rw [length_slice, ← same] at bytes
  rw [bytes, patch_slice_self m fits]

end Memory
end ControlMachine
