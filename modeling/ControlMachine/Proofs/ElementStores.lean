import ControlMachine.Machine.Instruction
import ControlMachine.Proofs.MemoryAccess

/- Storing elements one after another: the elements before a fault, and the bytes they reach. -/
namespace ControlMachine.Machine
open Fetch
variable {R : Type} [Rational R] {type : DataType} {s : Selector} {count target : Nat}
  {memory after : Memory} {pc last : UInt16} {fault : Fault}

theorem storeElements_succ_ok :
    storeElements R type s (count + 1) target memory pc = .ok () (after, last) ↔
      ∃ source next middle, operand memory.load s type.bytes pc = .ok source next ∧
        target ≤ 0xFFFF ∧ memory.move R type (UInt16.ofNat target) source = .ok middle ∧
        storeElements R type s count (target + type.bytes) middle next = .ok () (after, last) := by
  rw [storeElements]
  cases operand memory.load s type.bytes pc with
  | error reason stop => simp
  | ok source next =>
    by_cases reach : target ≤ 0xFFFF
    · simp only [EStateM.Result.ok.injEq, and_assoc, exists_and_left, exists_eq_left', reach,
        if_true, true_and]
      cases memory.move R type (UInt16.ofNat target) source <;> simp
    · simp [reach]

/-- The first element faults and changes nothing, or it is stored and a later one faults. -/
theorem storeElements_succ_error
    (failed : storeElements R type s (count + 1) target memory pc = .error fault (after, last)) :
    (after = memory ∧
        storeElements R type s 1 target memory pc = .error fault (memory, last)) ∨
      ∃ source next middle, operand memory.load s type.bytes pc = .ok source next ∧
        target ≤ 0xFFFF ∧ memory.move R type (UInt16.ofNat target) source = .ok middle ∧
        storeElements R type s count (target + type.bytes) middle next =
          .error fault (after, last) := by
  rw [storeElements] at failed ⊢
  cases read : operand memory.load s type.bytes pc with
  | error reason stop =>
    simp only [read] at failed ⊢
    cases failed
    exact Or.inl ⟨rfl, rfl⟩
  | ok source next =>
    simp only [read] at failed ⊢
    by_cases reach : target ≤ 0xFFFF
    · cases moved : memory.move R type (UInt16.ofNat target) source with
      | error reason =>
        simp only [reach, moved, if_true] at failed ⊢
        cases failed
        exact Or.inl ⟨rfl, rfl⟩
      | ok middle =>
        simp only [reach, moved, if_true] at failed
        exact Or.inr ⟨source, next, middle, rfl, reach, moved, failed⟩
    · simp only [reach, if_false] at failed ⊢
      cases failed
      exact Or.inl ⟨rfl, rfl⟩

/-- A fault falls to one element: those before it are stored, and it leaves what they left. -/
theorem storeElements_error
    (failed : storeElements R type s count target memory pc = .error fault (after, last)) :
    ∃ k middle, k < count ∧
      storeElements R type s k target memory pc = .ok () (after, middle) ∧
      storeElements R type s 1 (target + k * type.bytes) after middle =
        .error fault (after, last) := by
  induction count generalizing target memory pc with
  | zero => cases failed
  | succ count ih =>
    rcases storeElements_succ_error failed with ⟨rfl, first⟩ | ⟨source, next, stored, read, reach, moved, later⟩
    · exact ⟨0, pc, Nat.succ_pos count, rfl, by simpa using first⟩
    · -- elements are counted from the one just stored, targets from the one after it
      obtain ⟨k, middle, few, before, here⟩ := ih later
      refine ⟨k + 1, middle, Nat.succ_lt_succ few, ?_, ?_⟩
      · exact storeElements_succ_ok.mpr ⟨source, next, stored, read, reach, moved, before⟩
      · rw [Nat.succ_mul, Nat.add_comm (k * type.bytes), ← Nat.add_assoc]
        exact here

theorem toNat_ofNat_target (reach : target ≤ 0xFFFF) : (UInt16.ofNat target).toNat = target := by
  rw [UInt16.toNat_ofNat']
  omega

theorem storeElements_capacity
    (done : storeElements R type s count target memory pc = .ok () (after, last)) :
    after.capacity = memory.capacity := by
  induction count generalizing target memory pc with
  | zero =>
    cases done
    rfl
  | succ count ih =>
    obtain ⟨source, next, middle, -, -, moved, rest⟩ := storeElements_succ_ok.mp done
    exact (ih rest).trans (Memory.overwritten_capacity (Memory.move_effect moved).2)

theorem storeElements_outside
    (done : storeElements R type s count target memory pc = .ok () (after, last)) {i : Nat}
    (outside : i < target ∨ target + count * type.bytes ≤ i) :
    after.byteAt i = memory.byteAt i := by
  induction count generalizing target memory pc with
  | zero =>
    cases done
    rfl
  | succ count ih =>
    obtain ⟨source, next, middle, -, reach, moved, rest⟩ := storeElements_succ_ok.mp done
    rw [Nat.succ_mul] at outside
    have first := Memory.overwritten_outside (Memory.move_effect moved).2 (i := i)
      (by rw [toNat_ofNat_target reach]; omega)
    rw [ih rest (by omega), first]

theorem storeElements_fits
    (done : storeElements R type s count target memory pc = .ok () (after, last))
    (some : 0 < count) : target + count * type.bytes ≤ memory.capacity := by
  induction count generalizing target memory pc with
  | zero => exact absurd some (Nat.lt_irrefl 0)
  | succ count ih =>
    obtain ⟨source, next, middle, -, reach, moved, rest⟩ := storeElements_succ_ok.mp done
    have patched := (Memory.move_effect moved).2
    have size := Memory.overwritten_capacity patched
    have first := patched.fits
    rw [toNat_ofNat_target reach] at first
    rw [Nat.succ_mul]
    rcases Nat.eq_zero_or_pos count with none | more
    · subst none
      omega
    · have later := ih rest more
      omega

end ControlMachine.Machine
