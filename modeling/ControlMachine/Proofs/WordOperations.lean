import Mathlib.Algebra.Group.Int.Defs
import Mathlib.Algebra.Group.Nat.Defs
import ControlMachine.Proofs.HeldBytes
import ControlMachine.Proofs.WordCells

/- Instructions on words of one, two or four bytes. All of them are worked out with four bytes and
   cut to the cell when they are stored. That comes to the same as working with the bits of the
   cell alone. -/
namespace ControlMachine

def Width.bits (width : Width) : Nat := 8 * width.bytes

theorem Width.pow_bytes (width : Width) : Nat.pow 256 width.bytes = 2 ^ width.bits := by
  cases width <;> rfl

theorem Width.bits_le (width : Width) : width.bits ≤ 32 := by
  cases width <;> decide

inductive WordOperation where
  | arithmetic (op : Arithmetic)
  | bitwise (op : Bitwise)
  | not
  | load
  deriving DecidableEq, Repr

namespace WordOperation

def opcode : WordOperation → Opcode
  | .arithmetic op => .arithmetic op
  | .bitwise op => .bitwise op
  | .not => .not
  | .load => .load

def divides : WordOperation → Bool
  | .arithmetic .div | .arithmetic .mod => true
  | _ => false

def result (bits a b : Nat) : WordOperation → Nat
  | .arithmetic .add => (a + b) % 2 ^ bits
  | .arithmetic .sub => (((a : Int) - b) % 2 ^ bits).toNat
  | .arithmetic .mul => a * b % 2 ^ bits
  | .arithmetic .div => a / b
  | .arithmetic .mod => a % b
  | .bitwise .and => a &&& b
  | .bitwise .or => a ||| b
  | .bitwise .xor => a ^^^ b
  | .bitwise .lshift => if b < bits then a * 2 ^ b % 2 ^ bits else 0
  | .bitwise .rshift => if b < bits then a / 2 ^ b else 0
  | .not => 2 ^ bits - 1 - a
  | .load => b

variable {width : Width} {x y word : UInt32}

theorem add_cut (width : Width) (x y : UInt32) : (x + y).toNat % 2 ^ width.bits =
    (x.toNat + y.toNat) % 2 ^ width.bits := by
  rw [UInt32.toNat_add]
  exact Nat.mod_mod_of_dvd _ (Nat.pow_dvd_pow 2 width.bits_le)

theorem mul_cut (width : Width) (x y : UInt32) : (x * y).toNat % 2 ^ width.bits =
    x.toNat * y.toNat % 2 ^ width.bits := by
  rw [UInt32.toNat_mul]
  exact Nat.mod_mod_of_dvd _ (Nat.pow_dvd_pow 2 width.bits_le)

theorem sub_cut (width : Width) (x y : UInt32) : (x - y).toNat % 2 ^ width.bits =
    (((x.toNat : Int) - y.toNat) % 2 ^ width.bits).toNat := by
  have small := x.toNat_lt
  have smallToo := y.toNat_lt
  rw [UInt32.toNat_sub]
  -- both sides are the difference less a multiple of the size of the cell
  cases width <;> simp only [Width.bits, Width.bytes] <;> omega

theorem complement_cut (fits : x.toNat < 2 ^ width.bits) :
    (~~~x).toNat % 2 ^ width.bits = 2 ^ width.bits - 1 - x.toNat := by
  have words : UInt32.size = 2 ^ 32 := rfl
  rw [UInt32.toNat_not, words]
  cases width <;> simp only [Width.bits, Width.bytes] at fits ⊢ <;> omega

theorem shiftLeft_cut (width : Width) (x y : UInt32) :
    (if y < 32 then x <<< y else 0).toNat % 2 ^ width.bits =
      if y.toNat < width.bits then x.toNat * 2 ^ y.toNat % 2 ^ width.bits else 0 := by
  have narrow := width.bits_le
  by_cases short : y.toNat < 32
  · have amount : y < 32 := UInt32.lt_iff_toNat_lt.mpr short
    have shifted : (x <<< y).toNat % 2 ^ width.bits = x.toNat * 2 ^ y.toNat % 2 ^ width.bits := by
      rw [UInt32.toNat_shiftLeft, Nat.mod_eq_of_lt short, Nat.shiftLeft_eq]
      exact Nat.mod_mod_of_dvd _ (Nat.pow_dvd_pow 2 narrow)
    rw [if_pos amount, shifted]
    split
    · rfl
    · -- the four bytes still hold the bits, but the cell is below all of them
      rename_i long
      exact Nat.mod_eq_zero_of_dvd
        (Nat.dvd_mul_left_of_dvd (Nat.pow_dvd_pow 2 (Nat.not_lt.mp long)) _)
  · have amount : ¬ y < 32 := fun less => short (UInt32.lt_iff_toNat_lt.mp less)
    rw [if_neg amount, if_neg (by omega)]
    rfl

theorem shiftRight_cut (fits : x.toNat < 2 ^ width.bits) :
    (if y < 32 then x >>> y else 0).toNat % 2 ^ width.bits =
      if y.toNat < width.bits then x.toNat / 2 ^ y.toNat else 0 := by
  have narrow := width.bits_le
  by_cases short : y.toNat < 32
  · have amount : y < 32 := UInt32.lt_iff_toNat_lt.mpr short
    have shifted : (x >>> y).toNat % 2 ^ width.bits = x.toNat / 2 ^ y.toNat := by
      rw [UInt32.toNat_shiftRight, Nat.mod_eq_of_lt short, Nat.shiftRight_eq_div_pow]
      exact Nat.mod_eq_of_lt (Nat.lt_of_le_of_lt (Nat.div_le_self _ _) fits)
    rw [if_pos amount, shifted]
    split
    · rfl
    · rename_i long
      have less : x.toNat < 2 ^ y.toNat :=
        Nat.lt_of_lt_of_le fits (Nat.pow_le_pow_right (by decide) (Nat.not_lt.mp long))
      exact Nat.div_eq_of_lt less
  · have amount : ¬ y < 32 := fun less => short (UInt32.lt_iff_toNat_lt.mp less)
    rw [if_neg amount, if_neg (by omega)]
    rfl

/-- What four bytes give, cut to the bits of the cell, is the result in those bits. -/
theorem arithmetic_cut {op : Arithmetic} (fits : x.toNat < 2 ^ width.bits)
    (done : op.onWords x y = .ok word) :
    word.toNat % 2 ^ width.bits = (arithmetic op).result width.bits x.toNat y.toNat := by
  cases op with
  | add =>
    cases done
    exact add_cut width x y
  | sub =>
    cases done
    exact sub_cut width x y
  | mul =>
    cases done
    exact mul_cut width x y
  | div =>
    simp only [Arithmetic.onWords] at done
    split at done
    · cases done
    · cases done
      rw [UInt32.toNat_div]
      exact Nat.mod_eq_of_lt (Nat.lt_of_le_of_lt (Nat.div_le_self _ _) fits)
  | mod =>
    simp only [Arithmetic.onWords] at done
    split at done
    · cases done
    · cases done
      rw [UInt32.toNat_mod]
      exact Nat.mod_eq_of_lt (Nat.lt_of_le_of_lt (Nat.mod_le _ _) fits)

theorem onWords_by_zero {op : Arithmetic} (x : UInt32)
    (zero : (arithmetic op).divides = true ∧ y.toNat = 0) :
    op.onWords x y = .error .divideByZero := by
  have none : y = 0 := UInt32.toNat_inj.mp zero.2
  cases op with
  | add | sub | mul => cases zero.1
  | div | mod => exact if_pos none

theorem exists_onWords {op : Arithmetic} (x : UInt32)
    (some : ¬ ((arithmetic op).divides = true ∧ y.toNat = 0)) :
    ∃ word, op.onWords x y = .ok word := by
  cases op with
  | add | sub | mul => exact ⟨_, rfl⟩
  | div | mod =>
    have nonzero : y ≠ 0 := by
      rintro rfl
      exact some ⟨rfl, rfl⟩
    exact ⟨_, if_neg nonzero⟩

theorem bitwise_cut {op : Bitwise} (fits : x.toNat < 2 ^ width.bits)
    (fitsToo : y.toNat < 2 ^ width.bits) : (op.onWords x y).toNat % 2 ^ width.bits =
      (bitwise op).result width.bits x.toNat y.toNat := by
  cases op with
  | and =>
    rw [Bitwise.onWords, UInt32.toNat_and]
    exact Nat.mod_eq_of_lt (Nat.and_lt_two_pow _ fitsToo)
  | or =>
    rw [Bitwise.onWords, UInt32.toNat_or]
    exact Nat.mod_eq_of_lt (Nat.or_lt_two_pow fits fitsToo)
  | xor =>
    rw [Bitwise.onWords, UInt32.toNat_xor]
    exact Nat.mod_eq_of_lt (Nat.xor_lt_two_pow fits fitsToo)
  | lshift => exact shiftLeft_cut width x y
  | rshift => exact shiftRight_cut fits

theorem result_lt {op : WordOperation} {bits a b : Nat} (fits : a < 2 ^ bits)
    (fitsToo : b < 2 ^ bits) : op.result bits a b < 2 ^ bits := by
  have some : 0 < 2 ^ bits := Nat.two_pow_pos bits
  cases op with
  | arithmetic op =>
    cases op with
    | add | mul => exact Nat.mod_lt _ some
    | sub =>
      have cast : ((2 ^ bits : Nat) : Int) = 2 ^ bits := Int.natCast_pow 2 bits
      have low := Int.emod_lt_of_pos ((a : Int) - b) (Int.natCast_pos.mpr some)
      simp only [result]
      omega
    | div => exact Nat.lt_of_le_of_lt (Nat.div_le_self _ _) fits
    | mod => exact Nat.lt_of_le_of_lt (Nat.mod_le _ _) fits
  | bitwise op =>
    cases op with
    | and => exact Nat.and_lt_two_pow _ fitsToo
    | or => exact Nat.or_lt_two_pow fits fitsToo
    | xor => exact Nat.xor_lt_two_pow fits fitsToo
    | lshift =>
      simp only [result]
      split
      · exact Nat.mod_lt _ some
      · exact some
    | rshift =>
      simp only [result]
      split
      · exact Nat.lt_of_le_of_lt (Nat.div_le_self _ _) fits
      · exact some
  | not =>
    simp only [result]
    omega
  | load => exact fitsToo

def length (s : Selector) (width : Width) : WordOperation → Nat
  | .not => 4
  | _ => 4 + s.operandBytes width.bytes

def onMemory (R : Type) [Rational R] (op : WordOperation) (m : Memory) (width : Width)
    (dest source : UInt16) : Except Fault Memory :=
  match op with
  | .arithmetic op => m.arithmetic R op (.word width) dest source
  | .bitwise op => m.bitwise op width dest source
  | .not => m.complement width dest
  | .load => m.move R (.word width) dest source

end WordOperation

namespace Memory
variable {m : Memory} {width : Width} {dest source address : UInt16} {word : UInt32}

def wordAt (m : Memory) (width : Width) (start : Nat) : Nat :=
  LittleEndian.value (m.slice start width.bytes)

def operandAt (m : Memory) (s : Selector) (place : Nat) : Nat :=
  if s.isLiteral then place else m.addressAt place

def withWord (m : Memory) (width : Width) (start n : Nat) : Memory :=
  m.patch start (LittleEndian.bytes width.bytes n)

theorem wordAt_lt (m : Memory) (width : Width) (start : Nat) :
    m.wordAt width start < 2 ^ width.bits := by
  have small := LittleEndian.value_lt (m.slice start width.bytes)
  rwa [length_slice, width.pow_bytes] at small

theorem exists_wordAt (fits : address.toNat + width.bytes ≤ m.capacity) :
    ∃ word, m.loadWord width address = .ok word ∧ word.toNat = m.wordAt width address.toNat := by
  obtain ⟨word, loaded⟩ := exists_loadWord fits
  exact ⟨word, loaded, (loadWord_eq_ok.mp loaded).2⟩

theorem withWord_mod (m : Memory) (width : Width) (start n : Nat) :
    m.withWord width start (n % 2 ^ width.bits) = m.withWord width start n := by
  rw [withWord, ← width.pow_bytes, LittleEndian.bytes_mod, withWord]

theorem storeWord_eq (fits : address.toNat + width.bytes ≤ m.capacity) (word : UInt32) :
    m.storeWord width address word =
      .ok (m.withWord width address.toNat (word.toNat % 2 ^ width.bits)) := by
  rw [withWord_mod]
  exact storeWord_eq_ok.mpr ⟨fits, rfl⟩

theorem wordAt_withWord {start n : Nat} (fits : start + width.bytes ≤ m.capacity)
    (small : n < 2 ^ width.bits) : (m.withWord width start n).wordAt width start = n := by
  have long := LittleEndian.length_bytes width.bytes n
  have held : (m.withWord width start n).Holds start (LittleEndian.bytes width.bytes n) :=
    holds_patch (by rwa [long])
  rw [wordAt, value_of_held held, width.pow_bytes]
  exact Nat.mod_eq_of_lt small

variable {R : Type} [Rational R]

/-- The operation leaves its result in the destination, unless it divides by zero. -/
theorem onMemory_eq (op : WordOperation) (destFits : dest.toNat + width.bytes ≤ m.capacity)
    (sourceFits : op = .not ∨ source.toNat + width.bytes ≤ m.capacity) :
    op.onMemory R m width dest source =
      if op.divides = true ∧ m.wordAt width source.toNat = 0 then .error .divideByZero
      else .ok (m.withWord width dest.toNat
        (op.result width.bits (m.wordAt width dest.toNat) (m.wordAt width source.toNat))) := by
  obtain ⟨x, loaded, here⟩ := exists_wordAt destFits
  have fits := m.wordAt_lt width dest.toNat
  have fitsToo := m.wordAt_lt width source.toNat
  rw [← here] at fits ⊢
  cases op with
  | not =>
    rw [if_neg (by simp [WordOperation.divides]), WordOperation.onMemory, complement, loaded,
      except_ok_bind, storeWord_eq destFits, WordOperation.complement_cut fits]
    rfl
  | arithmetic op =>
    obtain ⟨y, loadedToo, there⟩ := exists_wordAt (sourceFits.resolve_left (by simp))
    rw [← there]
    have worked : (WordOperation.arithmetic op).onMemory R m width dest source =
        (do m.storeWord width dest (← op.onWords x y)) := by
      simp only [WordOperation.onMemory, Memory.arithmetic, loaded, loadedToo, except_ok_bind]
    rw [worked]
    by_cases zero : (WordOperation.arithmetic op).divides = true ∧ y.toNat = 0
    · rw [if_pos zero, WordOperation.onWords_by_zero x zero, except_error_bind]
    · obtain ⟨word, done⟩ := WordOperation.exists_onWords x zero
      rw [if_neg zero, done, except_ok_bind, storeWord_eq destFits,
        WordOperation.arithmetic_cut fits done]
  | bitwise op =>
    obtain ⟨y, loadedToo, there⟩ := exists_wordAt (sourceFits.resolve_left (by simp))
    rw [← there] at fitsToo ⊢
    rw [if_neg (by simp [WordOperation.divides]), WordOperation.onMemory, bitwise, loadedToo,
      except_ok_bind, loaded, except_ok_bind, storeWord_eq destFits,
      WordOperation.bitwise_cut fits fitsToo]
  | load =>
    obtain ⟨y, loadedToo, there⟩ := exists_wordAt (sourceFits.resolve_left (by simp))
    rw [← there] at fitsToo ⊢
    rw [if_neg (by simp [WordOperation.divides]), WordOperation.onMemory, move, loadedToo,
      except_ok_bind, storeWord_eq destFits, Nat.mod_eq_of_lt fitsToo]
    rfl

end Memory

namespace Fetch
open Memory
variable {α β : Type} {m : Memory} {pc middle : UInt16}

theorem bind_of_ok {act : Fetch α} {next : α → Fetch β} {a : α} (read : act pc = .ok a middle) :
    (act >>= next) pc = next a middle := by
  change EStateM.bind act next pc = _
  unfold EStateM.bind
  rw [read]

theorem selector_at (m : Memory) (pc : UInt16) (inside : pc.toNat + 1 ≤ m.capacity) :
    ∃ next, selector m.load pc = .ok ⟨m.byteAt pc.toNat⟩ next ∧ next.toNat = pc.toNat + 1 := by
  obtain ⟨next, place⟩ := exists_place m pc _ inside
  exact ⟨next, selector_eq_ok.mpr ⟨rfl, place, by omega⟩, place⟩

theorem address_at (m : Memory) (pc : UInt16) (inside : pc.toNat + 2 ≤ m.capacity) :
    ∃ a next, address m.load pc = .ok a next ∧ a.toNat = m.addressAt pc.toNat ∧
      next.toNat = pc.toNat + 2 := by
  obtain ⟨next, place⟩ := exists_place m pc _ inside
  have read : address m.load pc =
      .ok (UInt16.ofNat (LittleEndian.value (m.slice pc.toNat 2))) next :=
    address_eq_ok.mpr ⟨rfl, place, by omega⟩
  exact ⟨_, next, read, (address_place read).1, place⟩

theorem operand_at (m : Memory) (pc : UInt16) (s : Selector) (width : Nat)
    (inside : pc.toNat + s.operandBytes width ≤ m.capacity) :
    ∃ a next, operand m.load s width pc = .ok a next ∧ a.toNat = m.operandAt s pc.toNat ∧
      next.toNat = pc.toNat + s.operandBytes width := by
  unfold operand operandAt
  unfold Selector.operandBytes at inside ⊢
  by_cases literal : s.isLiteral = true
  · simp only [literal, if_true] at inside ⊢
    obtain ⟨next, place⟩ := exists_place m pc _ inside
    exact ⟨pc, next, advance_eq_ok.mpr ⟨rfl, place⟩, rfl, place⟩
  · simp only [literal] at inside ⊢
    exact address_at m pc inside

end Fetch

namespace Machine
open Fetch
variable {R : Type} {m : Machine R} {width : Width} {op : WordOperation} {α β : Type}

def selector (m : Machine R) : Selector := ⟨m.memory.byteAt (m.pc.toNat + 1)⟩

def destCell (m : Machine R) : Nat := m.memory.addressAt (m.pc.toNat + 2)

def sourceCell (m : Machine R) : Nat := m.memory.operandAt m.selector (m.pc.toNat + 4)

def cellsEnd (m : Machine R) (bytes : Nat) : Nat :=
  m.pc.toNat + (4 + m.selector.operandBytes bytes)

theorem typed_at (bytesOf : α → Nat) {check : Selector → Except Fault α} {t : α}
    (checked : check m.selector = .ok t) (whole : m.cellsEnd (bytesOf t) ≤ m.memory.capacity) :
    ∃ dest source last, dest.toNat = m.destCell ∧ source.toNat = m.sourceCell ∧
      last.toNat = m.cellsEnd (bytesOf t) ∧
      ∀ act : Selector → α → UInt16 × UInt16 → Fetch β,
        (do let s ← Fetch.selector m.code
            let t ← lift (check s)
            let pair ← cells m.code s (bytesOf t)
            act s t pair) (m.pc + 1) = act m.selector t (dest, source) last := by
  unfold cellsEnd at whole
  have place := toNat_afterOpcode (m := m) (by omega)
  obtain ⟨p1, first, here⟩ := selector_at m.memory (m.pc + 1) (by omega)
  rw [place] at first here
  obtain ⟨dest, p2, second, destPlace, next⟩ := address_at m.memory p1 (by omega)
  obtain ⟨source, p3, third, sourcePlace, ends⟩ :=
    operand_at m.memory p2 m.selector (bytesOf t) (by omega)
  rw [here] at destPlace
  rw [next, here] at sourcePlace ends
  rw [Nat.add_assoc _ 1 1, Nat.add_assoc _ (1 + 1) 2, Nat.add_assoc _ (1 + 1 + 2)] at ends
  refine ⟨dest, source, p3, destPlace, sourcePlace, ends, ?_⟩
  intro act
  have typed : lift (check m.selector) p1 = .ok t p1 := lift_eq_ok.mpr ⟨checked, rfl⟩
  have pair : cells m.code m.selector (bytesOf t) p1 = .ok (dest, source) p3 :=
    bind_eq_ok.mpr ⟨dest, p2, second, bind_eq_ok.mpr ⟨source, p3, third, rfl⟩⟩
  exact (bind_of_ok first).trans ((bind_of_ok typed).trans (bind_of_ok pair))

def withResult (m : Machine R) (next : UInt16) : Except Fault Memory → Outcome (Machine R) UInt16
  | .ok memory => .ok next (m.withMemory memory)
  | .error fault => .error fault m

theorem changingMemory_of_lift {act : Fetch Memory} {result : Except Fault Memory} {last : UInt16}
    (same : act (m.pc + 1) = lift result last) :
    m.changingMemory act = m.withResult last result := by
  unfold changingMemory
  rw [same]
  cases result <;> rfl

theorem fields_of_held {op : Opcode} {s : Selector} {dest : UInt16} {operand : List UInt8}
    (held : m.memory.Holds m.pc.toNat
      (op.byte :: s.byte :: (LittleEndian.bytes 2 dest.toNat ++ operand))) :
    m.opcode? = some op ∧ m.selector = s ∧ m.destCell = dest.toNat ∧
      m.memory.Holds (m.pc.toNat + 4) operand := by
  obtain ⟨selected, later⟩ := Memory.holds_cons.mp (Memory.holds_cons.mp held).2
  obtain ⟨addressed, rest⟩ := Memory.holds_append.mp later
  rw [LittleEndian.length_bytes] at rest
  exact ⟨opcode_of_held held, congrArg Selector.mk selected,
    Memory.addressAt_of_held addressed, rest⟩

theorem sourceCell_of_literal (literal : m.selector.isLiteral = true) :
    m.sourceCell = m.pc.toNat + 4 := if_pos literal

theorem sourceCell_of_address (address : m.selector.isLiteral = false) {source : UInt16}
    (held : m.memory.Holds (m.pc.toNat + 4) (LittleEndian.bytes 2 source.toNat)) :
    m.sourceCell = source.toNat := by
  rw [sourceCell, Memory.operandAt, address, if_neg Bool.false_ne_true]
  exact Memory.addressAt_of_held held

/-- An instruction on words stands at the program counter, and it and its cells are in memory. -/
structure AtWords (m : Machine R) (op : WordOperation) (width : Width) : Prop where
  running : m.isHalted = false
  here : m.opcode? = some op.opcode
  typed : m.selector.dataType? = some (.word width)
  whole : m.pc.toNat + op.length m.selector width ≤ m.memory.capacity
  destFits : m.destCell + width.bytes ≤ m.memory.capacity
  sourceFits : op = .not ∨ m.sourceCell + width.bytes ≤ m.memory.capacity

theorem AtWords.started (ready : m.AtWords op width) : m.started.AtWords op width :=
  ⟨ready.running, ready.here, ready.typed, ready.whole, ready.destFits, ready.sourceFits⟩

def dividesByZero (m : Machine R) (op : WordOperation) (width : Width) : Prop :=
  op.divides = true ∧ m.memory.wordAt width m.sourceCell = 0

instance (m : Machine R) (op : WordOperation) (width : Width) :
    Decidable (m.dividesByZero op width) :=
  inferInstanceAs (Decidable (_ ∧ _))

def worked (m : Machine R) (op : WordOperation) (width : Width) : Nat :=
  op.result width.bits (m.memory.wordAt width m.destCell) (m.memory.wordAt width m.sourceCell)

theorem worked_lt (m : Machine R) (op : WordOperation) (width : Width) :
    m.worked op width < 2 ^ width.bits :=
  WordOperation.result_lt (m.memory.wordAt_lt width m.destCell)
    (m.memory.wordAt_lt width m.sourceCell)

variable [Rational R]

theorem execute_word (clock : Clock) (ready : m.AtWords op width) :
    ∃ dest source last, dest.toNat = m.destCell ∧ (op = .not ∨ source.toNat = m.sourceCell) ∧
      last.toNat = m.pc.toNat + op.length m.selector width ∧
      m.execute clock op.opcode = m.withResult last (op.onMemory R m.memory width dest source) := by
  have whole := ready.whole
  cases op with
  | not =>
    simp only [WordOperation.length] at whole
    have place := toNat_afterOpcode (m := m) (by omega)
    obtain ⟨p1, first, here⟩ := selector_at m.memory (m.pc + 1) (by omega)
    rw [place] at first here
    obtain ⟨dest, p2, second, destPlace, next⟩ := address_at m.memory p1 (by omega)
    rw [here] at destPlace next
    have typed : lift (Opcode.not.wordType m.selector) p1 = .ok width p1 :=
      lift_eq_ok.mpr ⟨Opcode.wordType_of_typed .not ready.typed, rfl⟩
    refine ⟨dest, 0, p2, destPlace, Or.inl rfl, next, changingMemory_of_lift ?_⟩
    exact (bind_of_ok first).trans ((bind_of_ok typed).trans (bind_of_ok second))
  | arithmetic a =>
    obtain ⟨dest, source, last, destPlace, sourcePlace, ends, read⟩ :=
      typed_at DataType.bytes (Opcode.dataType_of_typed (.arithmetic a) ready.typed) whole
    refine ⟨dest, source, last, destPlace, Or.inr sourcePlace, ends, changingMemory_of_lift ?_⟩
    exact read fun s type pair => lift (m.memory.arithmetic R a type pair.1 pair.2)
  | bitwise b =>
    obtain ⟨dest, source, last, destPlace, sourcePlace, ends, read⟩ :=
      typed_at Width.bytes (Opcode.wordType_of_typed (.bitwise b) ready.typed) whole
    refine ⟨dest, source, last, destPlace, Or.inr sourcePlace, ends, changingMemory_of_lift ?_⟩
    exact read fun s width pair => lift (m.memory.bitwise b width pair.1 pair.2)
  | load =>
    obtain ⟨dest, source, last, destPlace, sourcePlace, ends, read⟩ :=
      typed_at DataType.bytes (Opcode.dataType_of_typed .load ready.typed) whole
    refine ⟨dest, source, last, destPlace, Or.inr sourcePlace, ends, changingMemory_of_lift ?_⟩
    exact read fun s type pair => lift (m.memory.move R type pair.1 pair.2)

/-- The complement takes no operand, so any address will do for it. -/
theorem onMemory_of_cells (ready : m.AtWords op width) {dest source : UInt16}
    (destPlace : dest.toNat = m.destCell) (sourcePlace : op = .not ∨ source.toNat = m.sourceCell) :
    (m.dividesByZero op width → op.onMemory R m.memory width dest source = .error .divideByZero) ∧
      (¬ m.dividesByZero op width → op.onMemory R m.memory width dest source =
        .ok (m.memory.withWord width m.destCell (m.worked op width))) := by
  have destFits := ready.destFits
  rw [← destPlace] at destFits
  rcases sourcePlace with rfl | sourcePlace
  · have done : WordOperation.not.onMemory R m.memory width dest source = _ :=
      Memory.onMemory_eq .not destFits (Or.inl rfl)
    refine ⟨fun zero => absurd zero.1 Bool.false_ne_true, fun _ => ?_⟩
    rw [done, if_neg (fun zero => Bool.false_ne_true zero.1), destPlace]
    rfl
  · have sourceFits := ready.sourceFits
    rw [← sourcePlace] at sourceFits
    have done := Memory.onMemory_eq (R := R) op destFits sourceFits
    rw [destPlace, sourcePlace] at done
    constructor
    · intro zero
      rw [done]
      exact if_pos zero
    · intro some
      rw [done]
      exact if_neg some

theorem step_word (clock : Clock) (ready : m.AtWords op width)
    (some : ¬ m.dividesByZero op width) : ∃ next, next.toNat = m.pc.toNat +
        op.length m.selector width ∧
      m.step clock = .ok () { m.started.withMemory
        (m.memory.withWord width m.destCell (m.worked op width)) with pc := next } := by
  obtain ⟨dest, source, last, destPlace, sourcePlace, ends, run⟩ := execute_word clock ready.started
  have done := (onMemory_of_cells ready.started destPlace sourcePlace).2 some
  rw [done] at run
  exact ⟨last, ends, step_of_execute ready.running ready.here run⟩

theorem step_word_by_zero (clock : Clock) (ready : m.AtWords op width)
    (zero : m.dividesByZero op width) :
    m.step clock = .error .divideByZero (m.started.haltedBy .divideByZero) := by
  obtain ⟨dest, source, last, destPlace, sourcePlace, ends, run⟩ := execute_word clock ready.started
  have done := (onMemory_of_cells ready.started destPlace sourcePlace).1 zero
  rw [done] at run
  exact step_of_fault ready.running ready.here run

structure WorksOut (m : Machine R) (clock : Clock) (op : WordOperation) (width : Width) : Prop where
  faults : (∃ fault after, m.step clock = .error fault after) ↔ m.dividesByZero op width
  byZero : m.dividesByZero op width → ∃ after, m.step clock = .error .divideByZero after ∧
    after.flags.divideByZero = true ∧ after.memory = m.memory
  stored : ¬ m.dividesByZero op width → ∃ after, m.step clock = .ok () after ∧
    after.memory.wordAt width m.destCell = m.worked op width ∧
    after.memory = m.memory.withWord width m.destCell (m.worked op width) ∧
    after.pc.toNat = m.pc.toNat + op.length m.selector width

theorem word_operations (m : Machine R) (clock : Clock) (op : WordOperation) (width : Width)
    (ready : m.AtWords op width) : m.WorksOut clock op width := by
  constructor
  case faults =>
    constructor
    · rintro ⟨fault, after, failed⟩
      apply Classical.byContradiction
      intro some
      obtain ⟨next, -, done⟩ := step_word clock ready some
      rw [failed] at done
      cases done
    · intro zero
      exact ⟨_, _, step_word_by_zero clock ready zero⟩
  case byZero =>
    intro zero
    refine ⟨_, step_word_by_zero clock ready zero, ?_, rfl⟩
    simp [haltedBy]
  case stored =>
    intro some
    obtain ⟨next, ends, done⟩ := step_word clock ready some
    exact ⟨_, done, Memory.wordAt_withWord ready.destFits (m.worked_lt op width), rfl, ends⟩

/-- Shifts the word at 3 to the left by the word at 4, so that it writes over its own operand. -/
def shifting : Machine Fixed := filled [0x14, 0x07, 0x03, 0x00, 0x04, 0x00]

def dividingByZero : Machine Fixed := filled [0x04, 0x05, 0x06, 0x00, 0x00, 0x00, 0x07]

theorem word_operations_of_overlap :
    (∃ after, shifting.step ⟨0⟩ = .ok () after ∧ after.memory.slice 3 3 = [0x00, 0x40, 0x00]) ∧
      ∃ after, dividingByZero.step ⟨0⟩ = .error .divideByZero after ∧
        after.flags.divideByZero = true ∧ after.memory.byteAt 6 = 7 := by
  have shift : shifting.AtWords (.bitwise .lshift) .two :=
    ⟨rfl, rfl, rfl, by decide, by decide, Or.inr (by decide)⟩
  have divide : dividingByZero.AtWords (.arithmetic .div) .one :=
    ⟨rfl, rfl, rfl, by decide, by decide, Or.inr (by decide)⟩
  have shifted := word_operations shifting ⟨0⟩ (.bitwise .lshift) .two shift
  have divided := word_operations dividingByZero ⟨0⟩ (.arithmetic .div) .one divide
  obtain ⟨after, done, -, stored, -⟩ := shifted.stored (by decide)
  obtain ⟨stopped, failed, flagged, kept⟩ := divided.byZero (by decide)
  refine ⟨⟨after, done, ?_⟩, stopped, failed, flagged, ?_⟩
  · rw [stored]
    decide
  · rw [kept]
    decide

end Machine
end ControlMachine
