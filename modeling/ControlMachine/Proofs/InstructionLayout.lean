import ControlMachine.Proofs.FieldReading

/- Where each instruction ends, by the layout of its opcode and the few bytes that the layout depends
   on. Whoever reads an instruction of a program to its end has come to that place, and has read
   nothing beyond the program. -/
namespace ControlMachine

namespace Disassembly

def textEnd (program : Array UInt8) (start : Nat) : Nat :=
  start + ((program.toList.drop start).takeWhile (· != 0)).length + 1

theorem lt_textEnd (program : Array UInt8) (start : Nat) : start < textEnd program start := by
  unfold textEnd
  omega

theorem drop_of_inside {program : Array UInt8} {start : Nat} (inside : start < program.size) :
    program.toList.drop start = program.getD start 0 :: program.toList.drop (start + 1) := by
  have long : start < program.toList.length := inside
  rw [List.drop_eq_getElem_cons long, Array.getD_eq_getD_getElem?,
    Array.getElem?_eq_getElem inside, Option.getD_some, Array.getElem_toList]

theorem textEnd_zero {program : Array UInt8} {start : Nat} (inside : start < program.size)
    (zero : program.getD start 0 = 0) : textEnd program start = start + 1 := by
  rw [textEnd, drop_of_inside inside, zero]
  rfl

theorem textEnd_next {program : Array UInt8} {start : Nat} (inside : start < program.size)
    (other : program.getD start 0 ≠ 0) : textEnd program start = textEnd program (start + 1) := by
  rw [textEnd, drop_of_inside inside, List.takeWhile_cons_of_pos (by simpa using other),
    List.length_cons, textEnd]
  omega

def stringEnd (program : Array UInt8) (literal : Bool) (start : Nat) : Nat :=
  if literal then textEnd program start else start + 2

/-- Where the operand of an instruction on cells ends. There is no such place unless the selector
    names a type. -/
def cellsEnd (program : Array UInt8) (start : Nat) : Option Nat :=
  let s : Selector := ⟨program.getD start 0⟩
  s.dataType?.map fun type => start + 3 + s.operandBytes type.bytes

def operandsEnd (program : Array UInt8) (op : Opcode) (start : Nat) : Option Nat :=
  let s : Selector := ⟨program.getD start 0⟩
  match op with
  | .halt | .reset | .ret | .push | .pop => some start
  | .arithmetic _ | .bitwise _ | .load => cellsEnd program start
  | .compare => (cellsEnd program start).map (· + 6)
  | .not => s.dataType?.map fun _ => start + 3
  | .multiload =>
    let count := program.getD (start + 3) 0
    s.dataType?.map fun type => start + 4 + count.toNat * s.operandBytes type.bytes
  | .copy => some (start + 5)
  | .jump => some (start + 1 + s.operandBytes 2)
  | .call | .time => some (start + 2)
  | .compareTime => some (start + 10)
  | .urlMap =>
    let options := program.getD (start + 1) 0
    let url := stringEnd program (Mapping.urlIsLiteral options) (start + 6)
    some (stringEnd program (Mapping.resourceIsLiteral options) url)
  | .urlMapCheck => some (start + 3)
  | .urlMapDelete | .pidClear | .pidStop | .pidRun => some (start + 1)
  | .pidInit => some (start + 32)

def instructionEnd (program : Array UInt8) (start : Nat) : Option Nat :=
  (Opcode.ofByte? (program.getD start 0)).bind fun op => operandsEnd program op (start + 1)

/-- There is an instruction that begins at one place and ends at the other. It is within the program,
    and there is an address behind it. -/
structure Decodes (program : Array UInt8) (start stop : Nat) : Prop where
  layout : stop ∈ instructionEnd program start
  within : stop ≤ program.size
  addressed : stop ≤ 0xFFFF

end Disassembly

namespace Fetch
open Disassembly
variable {α β : Type} {program : Array UInt8} {start middle : Nat} {stop between : Option Nat}

/-- A reader that begins at one place gets through if and only if there is a place where it has to
    end, and that is within the program and has an address. -/
structure Reads (program : Array UInt8) (act : Fetch α) (start : Nat) (stop : Option Nat) :
    Prop where
  forward : ∀ place ∈ stop, start ≤ place
  ends : ∀ pc a last, act pc = .ok a last → pc.toNat = start → start ≤ program.size →
    last.toNat ∈ stop ∧ last.toNat ≤ program.size
  succeeds : ∀ pc : UInt16, pc.toNat = start → ∀ place ∈ stop, place ≤ program.size →
    place ≤ 0xFFFF → ∃ a last, act pc = .ok a last

theorem Reads.bindOption [Nonempty α] {act : Fetch α} {f : α → Fetch β}
    (first : Reads program act start between) (nowhere : between = none → stop = none)
    (rest : ∀ place ∈ between, ∀ a, Reads program (f a) place stop) :
    Reads program (act >>= f) start stop := by
  have passes : ∀ place ∈ stop, ∃ before ∈ between, start ≤ before ∧ before ≤ place := by
    intro place known
    cases between with
    | none =>
      rw [nowhere rfl] at known
      cases known
    | some before =>
      obtain ⟨a⟩ := ‹Nonempty α›
      exact ⟨before, rfl, first.forward before rfl, (rest before rfl a).forward place known⟩
  constructor
  case forward =>
    intro place known
    obtain ⟨before, -, low, high⟩ := passes place known
    exact Nat.le_trans low high
  case ends =>
    intro pc b last done here inside
    obtain ⟨a, next, head, tail⟩ := bind_eq_ok.mp done
    obtain ⟨reached, within⟩ := first.ends pc a next head here inside
    exact (rest next.toNat reached a).ends next b last tail rfl within
  case succeeds =>
    intro pc here place known within small
    obtain ⟨before, reached, low, high⟩ := passes place known
    obtain ⟨a, next, head⟩ := first.succeeds pc here before reached (by omega) (by omega)
    obtain ⟨arrived, -⟩ := first.ends pc a next head here (by omega)
    have same : next.toNat = before := Option.mem_unique arrived reached
    obtain ⟨b, last, tail⟩ := (rest before reached a).succeeds next same place known within small
    exact ⟨b, last, bind_eq_ok.mpr ⟨a, next, head, tail⟩⟩

theorem Reads.bind [Nonempty α] {act : Fetch α} {f : α → Fetch β}
    (first : Reads program act start (some middle)) (rest : ∀ a, Reads program (f a) middle stop) :
    Reads program (act >>= f) start stop := by
  apply first.bindOption
  · intro nowhere
    cases nowhere
  · intro place known a
    cases known
    exact rest a

theorem reads_pure (a : α) : Reads program (pure a : Fetch α) start (some start) := by
  constructor
  case forward =>
    intro place known
    cases known
    exact Nat.le_refl _
  case ends =>
    intro pc b last done here inside
    obtain ⟨-, rfl⟩ := pure_eq_ok.mp done
    subst here
    exact ⟨rfl, inside⟩
  case succeeds =>
    intro pc here place known within small
    exact ⟨a, pc, rfl⟩

theorem reads_throw (fault : Fault) : Reads program (throw fault : Fetch α) start none := by
  constructor
  case forward =>
    intro place known
    cases known
  case ends =>
    intro pc a last done
    cases done
  case succeeds =>
    intro pc here place known
    cases known

theorem byte_ofArray_eq_ok {pc last : UInt16} {b : UInt8} :
    byte (Code.ofArray program) pc = .ok b last ↔
      pc.toNat < program.size ∧ b = program.getD pc.toNat 0 ∧ last.toNat = pc.toNat + 1 := by
  rw [byte_code_eq_ok, Code.ofArray, Array.getD_eq_getD_getElem?]
  by_cases inside : pc.toNat < program.size
  · rw [Array.getElem?_eq_getElem inside]
    simp [inside, eq_comm]
  · rw [Array.getElem?_eq_none (Nat.le_of_not_lt inside)]
    simp [inside]

theorem reads_byte {f : UInt8 → Fetch β}
    (rest : Reads program (f (program.getD start 0)) (start + 1) stop) :
    Reads program (byte (Code.ofArray program) >>= f) start stop := by
  constructor
  case forward =>
    intro place known
    exact Nat.le_of_succ_le (rest.forward place known)
  case ends =>
    intro pc b last done here inside
    obtain ⟨value, next, head, tail⟩ := bind_eq_ok.mp done
    obtain ⟨within, same, moved⟩ := byte_ofArray_eq_ok.mp head
    rw [here] at within same moved
    rw [same] at tail
    exact rest.ends next b last tail moved within
  case succeeds =>
    intro pc here place known within small
    have further := rest.forward place known
    have moved : (pc + 1).toNat = start + 1 := by
      rw [toNat_next (by omega), here]
    obtain ⟨b, last, tail⟩ := rest.succeeds (pc + 1) moved place known within small
    have head : byte (Code.ofArray program) pc = .ok (program.getD start 0) (pc + 1) :=
      byte_ofArray_eq_ok.mpr ⟨by omega, by rw [here], by rw [moved, here]⟩
    exact ⟨b, last, bind_eq_ok.mpr ⟨_, _, head, tail⟩⟩

theorem reads_selector {f : Selector → Fetch β}
    (rest : Reads program (f ⟨program.getD start 0⟩) (start + 1) stop) :
    Reads program (selector (Code.ofArray program) >>= f) start stop := by
  unfold selector
  rw [bind_map_left]
  exact reads_byte rest

/-- The rest is only read if there is a type, and that is the one that is selected. -/
theorem reads_dataType {op : Opcode} {s : Selector} {f : DataType → Fetch β}
    {place : DataType → Nat}
    (rest : ∀ type, s.dataType? = some type → Reads program (f type) start (some (place type))) :
    Reads program (lift (op.dataType s) >>= f) start (s.dataType?.map place) := by
  unfold Opcode.dataType
  cases known : s.dataType? with
  | none => exact reads_throw _
  | some type => exact rest type known

theorem reads_bytes (n : Nat) :
    Reads program (bytes (Code.ofArray program) n) start (some (start + n)) := by
  induction n generalizing start with
  | zero => exact reads_pure []
  | succ n ih =>
    apply reads_byte
    rw [Nat.add_comm n 1, ← Nat.add_assoc]
    exact ih.bind fun rest => reads_pure _

theorem reads_address :
    Reads program (address (Code.ofArray program)) start (some (start + 2)) :=
  (reads_bytes 2).bind fun _ => reads_pure _

theorem reads_unsigned :
    Reads program (unsigned (Code.ofArray program)) start (some (start + 4)) :=
  (reads_bytes 4).bind fun _ => reads_pure _

theorem text_ends {pc last : UInt16} {values : List UInt8}
    (done : text (Code.ofArray program) pc = .ok values last) :
    last.toNat = textEnd program pc.toNat ∧ last.toNat ≤ program.size := by
  induction values generalizing pc with
  | nil =>
    obtain ⟨b, head, ⟨rfl, -, rfl⟩ | ⟨-, rest, -, same⟩⟩ := text_eq_ok.mp done
    · obtain ⟨within, zero, moved⟩ := byte_ofArray_eq_ok.mp head
      rw [textEnd_zero within zero.symm]
      exact ⟨moved, by omega⟩
    · cases same
  | cons v values ih =>
    obtain ⟨b, head, ⟨-, same, -⟩ | ⟨other, rest, tail, same⟩⟩ := text_eq_ok.mp done
    · cases same
    · cases same
      obtain ⟨within, here, moved⟩ := byte_ofArray_eq_ok.mp head
      rw [here] at other
      rw [textEnd_next within other, ← moved]
      exact ih tail

/-- By induction on the bytes before the zero byte. -/
theorem text_succeeds {pc : UInt16} {n : Nat} (long : textEnd program pc.toNat = pc.toNat + n + 1)
    (within : pc.toNat + n + 1 ≤ program.size) (small : pc.toNat + n + 1 ≤ 0xFFFF) :
    ∃ values last, text (Code.ofArray program) pc = .ok values last := by
  have inside : pc.toNat < program.size := by omega
  have moved : (pc + 1).toNat = pc.toNat + 1 := toNat_next (by omega)
  have head : byte (Code.ofArray program) pc = .ok (program.getD pc.toNat 0) (pc + 1) :=
    byte_ofArray_eq_ok.mpr ⟨inside, rfl, moved⟩
  induction n generalizing pc with
  | zero =>
    have zero : program.getD pc.toNat 0 = 0 := by
      apply Decidable.byContradiction
      intro other
      have further := lt_textEnd program (pc.toNat + 1)
      rw [← textEnd_next inside other] at further
      omega
    exact ⟨[], pc + 1, text_eq_ok.mpr ⟨_, head, .inl ⟨zero, rfl, rfl⟩⟩⟩
  | succ n ih =>
    have other : program.getD pc.toNat 0 ≠ 0 := by
      intro zero
      rw [textEnd_zero inside zero] at long
      omega
    rw [textEnd_next inside other, ← moved] at long
    have again : (pc + 1 + 1).toNat = (pc + 1).toNat + 1 := toNat_next (by omega)
    obtain ⟨values, last, tail⟩ := ih (by omega) (by omega) (by omega) (by omega) again
      (byte_ofArray_eq_ok.mpr ⟨by omega, rfl, again⟩)
    exact ⟨_, last, text_eq_ok.mpr ⟨_, head, .inr ⟨other, values, tail, rfl⟩⟩⟩

theorem reads_text :
    Reads program (text (Code.ofArray program)) start (some (textEnd program start)) := by
  constructor
  case forward =>
    intro place known
    cases known
    exact Nat.le_of_lt (lt_textEnd program start)
  case ends =>
    intro pc values last done here inside
    subst here
    obtain ⟨reached, within⟩ := text_ends done
    exact ⟨congrArg some reached.symm, within⟩
  case succeeds =>
    intro pc here place known within small
    cases known
    subst here
    obtain ⟨n, long⟩ := Nat.exists_eq_add_of_lt (lt_textEnd program pc.toNat)
    rw [long] at within small
    exact text_succeeds long within small

theorem reads_pointer :
    Reads program (pointer (Code.ofArray program)) start (some (start + 2)) :=
  reads_address.bind fun _ => reads_pure _

theorem reads_operandText (s : Selector) (width : Nat) :
    Reads program (operandText (Code.ofArray program) s width) start
      (some (start + s.operandBytes width)) := by
  unfold operandText Selector.operandBytes
  split
  · exact (reads_bytes width).bind fun _ => reads_pure _
  · exact reads_pointer

theorem reads_stringText (literal : Bool) :
    Reads program (stringText (Code.ofArray program) literal) start
      (some (stringEnd program literal start)) := by
  cases literal with
  | true => exact reads_text.bind fun _ => reads_pure _
  | false => exact reads_pointer

theorem reads_operandTexts (s : Selector) (width n : Nat) :
    Reads program (operandTexts (Code.ofArray program) s width n) start
      (some (start + n * s.operandBytes width)) := by
  induction n generalizing start with
  | zero =>
    rw [Nat.zero_mul]
    exact reads_pure []
  | succ n ih =>
    rw [Nat.succ_mul, Nat.add_comm (n * _), ← Nat.add_assoc]
    exact (reads_operandText s width).bind fun first => ih.bind fun rest => reads_pure _

theorem reads_typedText (op : Opcode) :
    Reads program (typedText (Code.ofArray program) op) start (cellsEnd program start) := by
  apply reads_selector
  apply reads_dataType
  intro type known
  apply reads_address.bind
  intro dest
  exact (reads_operandText _ type.bytes).bind fun value => reads_pure _

variable {R : Type} [Rational R]

theorem reads_numberText :
    Reads program (numberText R (Code.ofArray program)) start (some (start + 4)) :=
  (reads_bytes 4).bind fun _ => reads_pure _

theorem reads_pidText :
    Reads program (pidText R (Code.ofArray program)) start (some (start + 32)) := by
  apply reads_selector
  refine reads_address.bind fun input => ?_
  refine reads_address.bind fun output => ?_
  refine reads_address.bind fun setpoint => ?_
  refine reads_numberText.bind fun kp => ?_
  refine reads_numberText.bind fun ki => ?_
  refine reads_numberText.bind fun kd => ?_
  refine reads_unsigned.bind fun sample => ?_
  refine reads_numberText.bind fun lower => ?_
  refine reads_numberText.bind fun upper => ?_
  exact reads_byte (reads_pure _)

theorem reads_operands (op : Opcode) :
    Reads program (operands R (Code.ofArray program) op) start (operandsEnd program op start) := by
  cases op with
  | halt | reset | ret | push | pop => exact reads_pure ""
  | arithmetic | bitwise | load => exact reads_typedText _
  | compare =>
    -- the targets are only read if the selector names a type, so their place depends on it
    apply (reads_typedText _).bindOption
    · intro nowhere
      rw [operandsEnd, nowhere, Option.map_none]
    · intro place known cells
      rw [operandsEnd, Option.mem_def.mp known, Option.map_some]
      refine reads_address.bind fun less => ?_
      refine reads_address.bind fun equal => ?_
      exact reads_address.bind fun greater => reads_pure _
  | not =>
    apply reads_selector
    apply reads_dataType
    intro type known
    exact reads_address.bind fun dest => reads_pure _
  | multiload =>
    apply reads_selector
    apply reads_dataType
    intro type known
    refine reads_address.bind fun dest => ?_
    apply reads_byte
    exact (reads_operandTexts _ type.bytes _).bind fun values => reads_pure _
  | copy =>
    refine reads_address.bind fun source => ?_
    apply reads_byte
    exact reads_address.bind fun dest => reads_pure _
  | jump =>
    apply reads_selector
    exact (reads_operandText _ 2).bind fun target => reads_pure _
  | call | time => exact reads_address.bind fun target => reads_pure _
  | compareTime =>
    refine reads_address.bind fun stamp => ?_
    refine reads_unsigned.bind fun timeout => ?_
    refine reads_address.bind fun expired => ?_
    exact reads_address.bind fun pending => reads_pure _
  | urlMap =>
    apply reads_selector
    apply reads_byte
    refine reads_address.bind fun value => ?_
    refine reads_address.bind fun port => ?_
    refine (reads_stringText _).bind fun url => ?_
    exact (reads_stringText _).bind fun resource => reads_pure _
  | urlMapCheck =>
    apply reads_selector
    exact reads_address.bind fun dest => reads_pure _
  | urlMapDelete | pidClear | pidStop | pidRun => exact reads_selector (reads_pure _)
  | pidInit => exact reads_pidText

theorem reads_instruction :
    Reads program (instruction R (Code.ofArray program)) start (instructionEnd program start) := by
  apply reads_byte
  unfold instructionEnd
  cases Opcode.ofByte? (program.getD start 0) with
  | none => exact reads_throw _
  | some op =>
    rw [Option.bind_some]
    apply (reads_operands op).bindOption
    · intro nowhere
      exact nowhere
    · intro place known text
      rw [Option.mem_def.mp known]
      exact reads_pure _

variable {pc last : UInt16} {line : Line}

theorem inside_of_instruction (done : instruction R (Code.ofArray program) pc = .ok line last) :
    pc.toNat < program.size := by
  obtain ⟨b, next, first, -⟩ := bind_eq_ok.mp done
  exact (byte_ofArray_eq_ok.mp first).1

theorem decodes_of_instruction (done : instruction R (Code.ofArray program) pc = .ok line last) :
    Decodes program pc.toNat last.toNat := by
  have inside := Nat.le_of_lt (inside_of_instruction done)
  obtain ⟨known, within⟩ := reads_instruction.ends pc line last done rfl inside
  exact ⟨known, within, Nat.le_of_lt_succ last.toNat_lt⟩

theorem instruction_of_decodes (decodes : Decodes program pc.toNat last.toNat) :
    ∃ line, instruction R (Code.ofArray program) pc = .ok line last := by
  obtain ⟨line, stop, done⟩ := (reads_instruction (R := R)).succeeds pc rfl last.toNat
    decodes.layout decodes.within decodes.addressed
  have known := (decodes_of_instruction done).layout
  have same : stop = last := UInt16.toNat_inj.mp (Option.mem_unique known decodes.layout)
  rw [same] at done
  exact ⟨line, done⟩

theorem undecoded_of_error {fault : Fault} {place : UInt16} {stop : Nat}
    (failed : instruction R (Code.ofArray program) pc = .error fault place) :
    ¬ Decodes program pc.toNat stop := by
  intro decodes
  have small : stop < UInt16.size := Nat.lt_succ_of_le decodes.addressed
  rw [← UInt16.toNat_ofNat_of_lt small] at decodes
  obtain ⟨line, done⟩ := instruction_of_decodes (R := R) decodes
  cases failed.symm.trans done

theorem lt_of_instruction (done : instruction R (Code.ofArray program) pc = .ok line last) :
    pc.toNat < last.toNat := by
  have known := (decodes_of_instruction done).layout
  obtain ⟨op, -, ends⟩ := Option.bind_eq_some_iff.mp known
  exact (reads_operands (R := R) op).forward last.toNat ends

end Fetch
end ControlMachine
