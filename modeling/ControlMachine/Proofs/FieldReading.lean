import ControlMachine.Proofs.MemoryAccess
import ControlMachine.Disassembly

/- Readers of instruction fields: when they get through, and where they stop. One reader tracks
   another if it stops at the same place wherever the other gets through. -/
namespace ControlMachine

def Selector.operandBytes (s : Selector) (width : Nat) : Nat := if s.isLiteral then width else 2

namespace Fetch
open Disassembly
variable {α β γ δ : Type} {pc last : UInt16}

theorem bind_eq_ok {act : Fetch α} {next : α → Fetch β} {b : β} :
    (act >>= next) pc = .ok b last ↔
      ∃ a middle, act pc = .ok a middle ∧ next a middle = .ok b last := by
  change EStateM.bind act next pc = _ ↔ _
  unfold EStateM.bind
  cases act pc with
  | error => simp
  | ok a middle =>
    constructor
    · intro done
      exact ⟨a, middle, rfl, done⟩
    · rintro ⟨_, _, ⟨⟩, done⟩
      exact done

theorem pure_eq_ok {a b : α} : (pure a : Fetch α) pc = .ok b last ↔ a = b ∧ pc = last := by
  change EStateM.Result.ok a pc = _ ↔ _
  simp

theorem map_eq_ok {act : Fetch α} {f : α → β} {b : β} :
    (f <$> act) pc = .ok b last ↔ ∃ a, act pc = .ok a last ∧ f a = b := by
  change EStateM.map f act pc = _ ↔ _
  unfold EStateM.map
  cases act pc with
  | error => simp
  | ok a middle =>
    simp only [EStateM.Result.ok.injEq]
    grind

theorem get_eq_ok {a : UInt16} : (get : Fetch UInt16) pc = .ok a last ↔ pc = a ∧ pc = last := by
  change EStateM.Result.ok pc pc = _ ↔ _
  simp

theorem lift_eq_ok {result : Except Fault α} {a : α} :
    lift result pc = .ok a last ↔ result = .ok a ∧ pc = last := by
  cases result <;> simp [lift]

/-- The only bar to moving on is the end of the address range. -/
theorem advance_eq_ok {width : Nat} {a : UInt16} :
    advance width pc = .ok a last ↔ a = pc ∧ last.toNat = pc.toNat + width := by
  have small := last.toNat_lt
  simp only [advance]
  split
  · rename_i fits
    have sum : (pc + UInt16.ofNat width).toNat = pc.toNat + width := by
      rw [UInt16.toNat_add, UInt16.toNat_ofNat']
      omega
    simp only [EStateM.Result.ok.injEq, ← UInt16.toNat_inj, sum]
    omega
  · simp only [reduceCtorEq, false_iff, not_and]
    omega

theorem byte_code_eq_ok {code : Code} {b : UInt8} :
    byte code pc = .ok b last ↔ code pc = .ok b ∧ last.toNat = pc.toNat + 1 := by
  simp only [byte, bind_eq_ok, get_eq_ok, lift_eq_ok, advance_eq_ok, pure_eq_ok]
  constructor
  · rintro ⟨_, _, ⟨rfl, rfl⟩, _, _, ⟨found, rfl⟩, _, _, ⟨rfl, moved⟩, rfl, rfl⟩
    exact ⟨found, moved⟩
  · rintro ⟨found, moved⟩
    exact ⟨pc, pc, ⟨rfl, rfl⟩, b, pc, ⟨found, rfl⟩, pc, last, ⟨rfl, moved⟩, rfl, rfl⟩

theorem toNat_next (room : pc.toNat + 1 ≤ 0xFFFF) : (pc + 1).toNat = pc.toNat + 1 := by
  rw [UInt16.toNat_add, UInt16.toNat_one]
  omega

theorem text_eq_ok {code : Code} {values : List UInt8} :
    text code pc = .ok values last ↔ ∃ b, byte code pc = .ok b (pc + 1) ∧
      ((b = 0 ∧ values = [] ∧ last = pc + 1) ∨
        (b ≠ 0 ∧ ∃ rest, text code (pc + 1) = .ok rest last ∧ values = b :: rest)) := by
  simp only [byte_code_eq_ok]
  rw [text]
  cases found : code pc with
  | error fault => simp
  | ok b =>
    by_cases room : pc.toNat + 1 ≤ 0xFFFF
    · simp only [room, if_true, toNat_next room, Except.ok.injEq, and_true, exists_eq_left']
      by_cases zero : b = 0
      · simp [zero, eq_comm]
      · cases text code (pc + 1) <;> simp [zero]
        grind
    · have stuck : (pc + 1).toNat ≠ pc.toNat + 1 := by
        have small := (pc + 1).toNat_lt
        omega
      simp only [room, if_false, stuck, and_false, false_and, exists_false, reduceCtorEq]

/-! Fields that are read from memory. -/

theorem byte_eq_ok {m : Memory} {b : UInt8} :
    byte m.load pc = .ok b last ↔
      b = m.byteAt pc.toNat ∧ last.toNat = pc.toNat + 1 ∧ last.toNat ≤ m.capacity := by
  rw [byte_code_eq_ok, Memory.load_eq_ok]
  grind

theorem bytes_eq_ok {m : Memory} {n : Nat} {values : List UInt8} :
    bytes m.load n pc = .ok values last ↔ values = m.slice pc.toNat n ∧
      last.toNat = pc.toNat + n ∧ (n = 0 ∨ last.toNat ≤ m.capacity) := by
  induction n generalizing pc last values with
  | zero =>
    simp only [bytes, pure_eq_ok, ← UInt16.toNat_inj, Memory.slice, List.range_zero, List.map_nil]
    grind
  | succ n ih =>
    simp only [bytes, bind_eq_ok, byte_eq_ok, ih, pure_eq_ok, Memory.slice_succ]
    constructor
    · rintro ⟨_, middle, ⟨rfl, moved, inside⟩, _, _, ⟨rfl, ends, rest⟩, rfl, rfl⟩
      refine ⟨by rw [moved], by omega, Or.inr ?_⟩
      rcases rest with none | rest
      · subst none
        omega
      · exact rest
    · rintro ⟨rfl, ends, inside⟩
      have bound : last.toNat ≤ m.capacity := by omega
      have small := last.toNat_lt
      have step : (pc + 1).toNat = pc.toNat + 1 := toNat_next (by omega)
      exact ⟨_, pc + 1, ⟨rfl, step, by omega⟩, _, last,
        ⟨rfl, by omega, Or.inr bound⟩, by rw [step], rfl⟩

theorem address_eq_ok {m : Memory} {a : UInt16} :
    address m.load pc = .ok a last ↔
      a = UInt16.ofNat (LittleEndian.value (m.slice pc.toNat 2)) ∧
        last.toNat = pc.toNat + 2 ∧ last.toNat ≤ m.capacity := by
  simp only [address, bind_eq_ok, bytes_eq_ok, pure_eq_ok]
  constructor
  · rintro ⟨_, _, ⟨rfl, ends, inside⟩, rfl, rfl⟩
    exact ⟨rfl, ends, by omega⟩
  · rintro ⟨rfl, ends, inside⟩
    exact ⟨_, last, ⟨rfl, ends, Or.inr inside⟩, rfl, rfl⟩

end Fetch
end ControlMachine
