import ControlMachine.Proofs.ByteMoves
import ControlMachine.Proofs.Following

/- A memory next to a wider one that starts with the same bytes. Each operation on the first goes the
   same way on the wider one, and leaves the first a part of it, unless it reaches outside the first. -/
namespace ControlMachine

namespace Memory

structure PartOf (m wide : Memory) : Prop where
  capacity : m.capacity ≤ wide.capacity
  bytes : ∀ i < m.capacity, wide.byteAt i = m.byteAt i

section Access
variable {m wide : Memory}

theorem slice_of_partOf (part : m.PartOf wide) {start width : Nat}
    (fits : start + width ≤ m.capacity) : wide.slice start width = m.slice start width := by
  apply List.map_congr_left
  intro i inside
  have small := List.mem_range.mp inside
  exact part.bytes (start + i) (by omega)

theorem check_follows (part : m.PartOf wide) (access : Access) (address : UInt16) (width : Nat) :
    Follows (fun _ _ => address.toNat + width ≤ m.capacity) (m.check access address width)
      (wide.check access address width) := by
  have larger := part.capacity
  unfold check
  by_cases fits : address.toNat + width ≤ m.capacity
  · rw [if_pos fits, if_pos (by omega)]
    exact .ok fits
  · rw [if_neg fits]
    exact .outside rfl _

theorem read_follows (part : m.PartOf wide) (access : Access) (address : UInt16) (width : Nat) :
    Follows Eq (m.read access address width) (wide.read access address width) := by
  apply (check_follows part access address width).bind
  intro _ _ fits
  rw [slice_of_partOf part fits]
  exact .refl _

theorem patch_partOf (part : m.PartOf wide) {start : Nat} {values : List UInt8}
    (fits : start + values.length ≤ m.capacity) :
    (m.patch start values).PartOf (wide.patch start values) where
  capacity := by simpa using part.capacity
  bytes := by
    intro i inside
    rw [capacity_patch] at inside
    have larger := part.capacity
    rw [byteAt_patch m start values fits, byteAt_patch wide start values (by omega),
      part.bytes i inside]

theorem write_follows (part : m.PartOf wide) (access : Access) (address : UInt16)
    (values : List UInt8) :
    Follows PartOf (m.write access address values) (wide.write access address values) := by
  apply (check_follows part access address values.length).bind
  intro _ _ fits
  exact .ok (patch_partOf part fits)

theorem store_follows (part : m.PartOf wide) (address : UInt16) (value : UInt8) :
    Follows PartOf (m.store address value) (wide.store address value) :=
  write_follows part .store address [value]

theorem load_follows (part : m.PartOf wide) : Code.FollowedBy m.load wide.load := by
  intro address
  exact (read_follows part .load address 1).bind_same fun _ => .refl _

theorem loadAddress_follows (part : m.PartOf wide) (address : UInt16) :
    Follows Eq (m.loadAddress address) (wide.loadAddress address) :=
  (read_follows part .loadAddress address 2).bind_same fun _ => .refl _

theorem loadUnsigned_follows (part : m.PartOf wide) (address : UInt16) :
    Follows Eq (m.loadUnsigned address) (wide.loadUnsigned address) :=
  (read_follows part .loadUnsigned address 4).bind_same fun _ => .refl _

theorem loadWord_follows (part : m.PartOf wide) (width : Width) (address : UInt16) :
    Follows Eq (m.loadWord width address) (wide.loadWord width address) := by
  cases width with
  | one => exact (load_follows part address).map _
  | two => exact (loadAddress_follows part address).map _
  | four => exact loadUnsigned_follows part address

theorem storeWord_follows (part : m.PartOf wide) (width : Width) (address : UInt16)
    (value : UInt32) :
    Follows PartOf (m.storeWord width address value) (wide.storeWord width address value) := by
  cases width with
  | one | two | four => exact write_follows part _ address _

theorem bitwise_follows (part : m.PartOf wide) (op : Bitwise) (width : Width)
    (dest source : UInt16) :
    Follows PartOf (m.bitwise op width dest source) (wide.bitwise op width dest source) := by
  apply (loadWord_follows part width source).bind_same
  intro b
  apply (loadWord_follows part width dest).bind_same
  intro a
  exact storeWord_follows part width dest (op.onWords a b)

theorem complement_follows (part : m.PartOf wide) (width : Width) (dest : UInt16) :
    Follows PartOf (m.complement width dest) (wide.complement width dest) :=
  (loadWord_follows part width dest).bind_same fun a => storeWord_follows part width dest (~~~a)

theorem copy_follows (part : m.PartOf wide) (source : UInt16) (length : UInt8) (dest : UInt16) :
    Follows PartOf (m.copy source length dest) (wide.copy source length dest) := by
  rw [copy_eq, copy_eq]
  exact (read_follows part .copy source length.toNat).bind_same fun values =>
    write_follows part .copy dest values

variable (R : Type) [Rational R]

theorem loadRational_follows (part : m.PartOf wide) (address : UInt16) :
    Follows Eq (m.loadRational address : Except Fault R) (wide.loadRational address) :=
  (read_follows part .loadRational address 4).bind_same fun _ => .refl _

theorem arithmetic_follows (part : m.PartOf wide) (op : Arithmetic) (type : DataType)
    (dest source : UInt16) :
    Follows PartOf (m.arithmetic R op type dest source) (wide.arithmetic R op type dest source) := by
  cases type with
  | word width =>
    apply (loadWord_follows part width source).bind_same
    intro b
    apply (loadWord_follows part width dest).bind_same
    intro a
    apply (Follows.refl (op.onWords a b)).bind_same
    intro result
    exact storeWord_follows part width dest result
  | rational =>
    apply (loadRational_follows R part source).bind_same
    intro b
    apply (loadRational_follows R part dest).bind_same
    intro a
    apply (Follows.refl (op.onNumbers a b)).bind_same
    intro result
    exact write_follows part .storeRational dest _

theorem move_follows (part : m.PartOf wide) (type : DataType) (dest source : UInt16) :
    Follows PartOf (m.move R type dest source) (wide.move R type dest source) := by
  cases type with
  | word width =>
    exact (loadWord_follows part width source).bind_same fun value =>
      storeWord_follows part width dest value
  | rational =>
    exact (loadRational_follows R part source).bind_same fun value =>
      write_follows part .storeRational dest _

theorem compareCells_follows (part : m.PartOf wide) (type : DataType) (dest source : UInt16) :
    Follows Eq (m.compareCells R type dest source) (wide.compareCells R type dest source) := by
  cases type with
  | word width =>
    exact (loadWord_follows part width dest).bind_same fun a =>
      (loadWord_follows part width source).bind_same fun b => .refl _
  | rational =>
    exact (loadRational_follows R part dest).bind_same fun a =>
      (loadRational_follows R part source).bind_same fun b => .refl _

end Access

theorem byteAt_clear (m : Memory) (i : Nat) : m.clear.byteAt i = 0 := by
  simp only [byteAt_eq_getD, clear, zeros, Array.getD_eq_getD_getElem?, Array.getElem?_replicate]
  split <;> rfl

theorem clear_partOf {m wide : Memory} (part : m.PartOf wide) : m.clear.PartOf wide.clear where
  capacity := by simpa [capacity, clear] using part.capacity
  bytes := by
    intro i _
    rw [byteAt_clear, byteAt_clear]

end Memory

theorem Controller.setMode_follows {R : Type} [Rational R] (c : Controller R) {m wide : Memory}
    (part : m.PartOf wide) (mode : Mode) :
    Outcome.Follows Eq Eq (c.setMode m mode) (c.setMode wide mode) := by
  unfold setMode
  by_cases starting : mode = .automatic ∧ c.mode = .manual ∧ c.initialized
  · have output := Memory.loadRational_follows R part c.output
    have input := Memory.loadRational_follows R part c.input
    rw [if_pos starting, if_pos starting]
    generalize m.loadRational (R := R) c.output = x, wide.loadRational (R := R) c.output = y
      at output ⊢
    cases output with
    | ok same =>
      cases same
      dsimp only
      generalize m.loadRational (R := R) c.input = x, wide.loadRational (R := R) c.input = y
        at input ⊢
      cases input with
      | ok same =>
        cases same
        exact .ok rfl rfl
      | error fault => exact .error rfl fault
      | outside reached => exact .outside reached _ _
    | error fault => exact .error rfl fault
    | outside reached => exact .outside reached _ _
  · rw [if_neg starting, if_neg starting]
    exact .ok rfl rfl

theorem Bank.setMode_follows {R : Type} [Rational R] (b : Bank R) (id : UInt8) {m wide : Memory}
    (part : m.PartOf wide) (mode : Mode) :
    Outcome.Follows Eq Eq (b.setMode id m mode) (b.setMode id wide mode) := by
  unfold setMode
  cases b.controller id with
  | error fault => exact .error rfl fault
  | ok c =>
    apply (Controller.setMode_follows c part mode).mapState
    rintro _ _ rfl
    rfl

end ControlMachine
