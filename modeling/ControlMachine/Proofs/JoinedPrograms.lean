import ControlMachine.Proofs.Tiling

/- Programs shown as text that stand one behind the other. An instruction is read from its own bytes
   alone, so it reads the same wherever they stand and whatever follows them, and the lines of both
   programs are the lines of the whole. -/
namespace ControlMachine

/-- Every byte of the code is in the other code as well, so much further on, and there is an address
    behind it. -/
def Code.MovedTo (code : Code) (offset : Nat) (other : Code) : Prop :=
  ∀ address b, code address = .ok b → address.toNat + offset + 1 ≤ 0xFFFF ∧
    ∀ place : UInt16, place.toNat = address.toNat + offset → other place = .ok b

theorem Code.ofArray_movedTo {program whole : Array UInt8} {offset : Nat}
    (small : program.size + offset ≤ 0xFFFF)
    (same : ∀ i < program.size, whole[i + offset]? = program[i]?) :
    (ofArray program).MovedTo offset (ofArray whole) := by
  intro address b found
  simp only [ofArray] at found
  split at found
  · rename_i value here
    cases found
    obtain ⟨inside, -⟩ := Array.getElem?_eq_some_iff.mp here
    refine ⟨by omega, ?_⟩
    intro place there
    rw [ofArray, there, same _ inside, here]
  · cases found

namespace Fetch
open Disassembly
variable {α β : Type} {code other : Code} {offset : Nat}

/-- What one reader gives, the other gives so much further on, and it stops as much further on. -/
def MovesBy (offset : Nat) (act moved : Fetch α) : Prop :=
  ∀ pc a last, act pc = .ok a last → ∀ place : UInt16, place.toNat = pc.toNat + offset →
    ∃ stop : UInt16, moved place = .ok a stop ∧ stop.toNat = last.toNat + offset

theorem MovesBy.bind {act moved : Fetch α} {f g : α → Fetch β} (first : MovesBy offset act moved)
    (rest : ∀ a, MovesBy offset (f a) (g a)) : MovesBy offset (act >>= f) (moved >>= g) := by
  intro pc b last done place there
  obtain ⟨a, middle, head, tail⟩ := bind_eq_ok.mp done
  obtain ⟨next, sameHead, reached⟩ := first pc a middle head place there
  obtain ⟨stop, sameTail, ends⟩ := rest a middle b last tail next reached
  exact ⟨stop, bind_eq_ok.mpr ⟨a, next, sameHead, sameTail⟩, ends⟩

theorem moves_pure (a : α) : MovesBy offset (pure a : Fetch α) (pure a) := by
  intro pc b last done place there
  obtain ⟨rfl, rfl⟩ := pure_eq_ok.mp done
  exact ⟨place, rfl, there⟩

theorem moves_lift (result : Except Fault α) : MovesBy offset (lift result) (lift result) := by
  intro pc a last done place there
  obtain ⟨good, rfl⟩ := lift_eq_ok.mp done
  exact ⟨place, lift_eq_ok.mpr ⟨good, rfl⟩, there⟩

theorem moves_throw (fault : Fault) :
    MovesBy offset (throw fault : Fetch α) (throw fault) := by
  intro pc a last done
  cases done

theorem byte_moved (moves : code.MovedTo offset other) {pc last place : UInt16} {b : UInt8}
    (read : byte code pc = .ok b last) (there : place.toNat = pc.toNat + offset) :
    byte other place = .ok b (place + 1) ∧ (place + 1).toNat = last.toNat + offset := by
  obtain ⟨found, next⟩ := byte_code_eq_ok.mp read
  obtain ⟨room, same⟩ := moves pc b found
  have further : (place + 1).toNat = place.toNat + 1 := toNat_next (by omega)
  exact ⟨byte_code_eq_ok.mpr ⟨same place there, further⟩, by omega⟩

theorem moves_byte (moves : code.MovedTo offset other) :
    MovesBy offset (byte code) (byte other) :=
  fun _ _ _ read place there => ⟨place + 1, byte_moved moves read there⟩

theorem moves_bytes (moves : code.MovedTo offset other) (n : Nat) :
    MovesBy offset (bytes code n) (bytes other n) := by
  induction n with
  | zero => exact moves_pure []
  | succ n ih => exact (moves_byte moves).bind fun b => ih.bind fun rest => moves_pure _

theorem moves_selector (moves : code.MovedTo offset other) :
    MovesBy offset (selector code) (selector other) := by
  intro pc s last done place there
  obtain ⟨b, read, rfl⟩ := map_eq_ok.mp done
  obtain ⟨stop, same, ends⟩ := moves_byte moves pc b last read place there
  exact ⟨stop, map_eq_ok.mpr ⟨b, same, rfl⟩, ends⟩

theorem moves_address (moves : code.MovedTo offset other) :
    MovesBy offset (address code) (address other) :=
  (moves_bytes moves 2).bind fun _ => moves_pure _

theorem moves_unsigned (moves : code.MovedTo offset other) :
    MovesBy offset (unsigned code) (unsigned other) :=
  (moves_bytes moves 4).bind fun _ => moves_pure _

/-- By induction on the text, whose bytes are found one after the other. -/
theorem moves_text (moves : code.MovedTo offset other) :
    MovesBy offset (text code) (text other) := by
  intro pc values last done place there
  induction values generalizing pc place with
  | nil =>
    obtain ⟨b, head, ⟨zero, -, rfl⟩ | ⟨-, rest, -, impossible⟩⟩ := text_eq_ok.mp done
    · obtain ⟨same, ends⟩ := byte_moved moves head there
      exact ⟨place + 1, text_eq_ok.mpr ⟨b, same, .inl ⟨zero, rfl, rfl⟩⟩, ends⟩
    · cases impossible
  | cons v values ih =>
    obtain ⟨b, head, ⟨-, impossible, -⟩ | ⟨more, rest, tail, same⟩⟩ := text_eq_ok.mp done
    · cases impossible
    · cases same
      obtain ⟨same, reached⟩ := byte_moved moves head there
      obtain ⟨stop, others, ends⟩ := ih (pc + 1) tail (place + 1) reached
      exact ⟨stop, text_eq_ok.mpr ⟨v, same, .inr ⟨more, values, others, rfl⟩⟩, ends⟩

theorem moves_pointer (moves : code.MovedTo offset other) :
    MovesBy offset (pointer code) (pointer other) :=
  (moves_address moves).bind fun _ => moves_pure _

theorem moves_operandText (moves : code.MovedTo offset other) (s : Selector) (width : Nat) :
    MovesBy offset (operandText code s width) (operandText other s width) := by
  unfold operandText
  split
  · exact (moves_bytes moves width).bind fun _ => moves_pure _
  · exact moves_pointer moves

theorem moves_stringText (moves : code.MovedTo offset other) (literal : Bool) :
    MovesBy offset (stringText code literal) (stringText other literal) := by
  cases literal with
  | true => exact (moves_text moves).bind fun _ => moves_pure _
  | false => exact moves_pointer moves

theorem moves_operandTexts (moves : code.MovedTo offset other) (s : Selector) (width n : Nat) :
    MovesBy offset (operandTexts code s width n) (operandTexts other s width n) := by
  induction n with
  | zero => exact moves_pure []
  | succ n ih =>
    exact (moves_operandText moves s width).bind fun first => ih.bind fun rest => moves_pure _

theorem moves_typedText (moves : code.MovedTo offset other) (op : Opcode) :
    MovesBy offset (typedText code op) (typedText other op) := by
  refine (moves_selector moves).bind fun s => ?_
  refine (moves_lift (op.dataType s)).bind fun type => ?_
  refine (moves_address moves).bind fun dest => ?_
  exact (moves_operandText moves s type.bytes).bind fun value => moves_pure _

variable {R : Type} [Rational R]

theorem moves_numberText (moves : code.MovedTo offset other) :
    MovesBy offset (numberText R code) (numberText R other) :=
  (moves_bytes moves 4).bind fun _ => moves_pure _

theorem moves_pidText (moves : code.MovedTo offset other) :
    MovesBy offset (pidText R code) (pidText R other) := by
  refine (moves_selector moves).bind fun s => ?_
  refine (moves_address moves).bind fun input => ?_
  refine (moves_address moves).bind fun output => ?_
  refine (moves_address moves).bind fun setpoint => ?_
  refine (moves_numberText moves).bind fun kp => ?_
  refine (moves_numberText moves).bind fun ki => ?_
  refine (moves_numberText moves).bind fun kd => ?_
  refine (moves_unsigned moves).bind fun sample => ?_
  refine (moves_numberText moves).bind fun lower => ?_
  refine (moves_numberText moves).bind fun upper => ?_
  exact (moves_byte moves).bind fun direction => moves_pure _

/-- No opcode is shown by where its bytes stand. -/
theorem moves_operands (moves : code.MovedTo offset other) (op : Opcode) :
    MovesBy offset (operands R code op) (operands R other op) := by
  cases op with
  | halt | reset | ret | push | pop => exact moves_pure ""
  | arithmetic | bitwise | load => exact moves_typedText moves _
  | compare =>
    refine (moves_typedText moves _).bind fun cells => ?_
    refine (moves_address moves).bind fun less => ?_
    refine (moves_address moves).bind fun equal => ?_
    exact (moves_address moves).bind fun greater => moves_pure _
  | not =>
    refine (moves_selector moves).bind fun s => ?_
    refine (moves_lift _).bind fun type => ?_
    exact (moves_address moves).bind fun dest => moves_pure _
  | multiload =>
    refine (moves_selector moves).bind fun s => ?_
    refine (moves_lift _).bind fun type => ?_
    refine (moves_address moves).bind fun dest => ?_
    refine (moves_byte moves).bind fun count => ?_
    exact (moves_operandTexts moves s type.bytes count.toNat).bind fun values => moves_pure _
  | copy =>
    refine (moves_address moves).bind fun source => ?_
    refine (moves_byte moves).bind fun length => ?_
    exact (moves_address moves).bind fun dest => moves_pure _
  | jump =>
    refine (moves_selector moves).bind fun s => ?_
    exact (moves_operandText moves s 2).bind fun target => moves_pure _
  | call | time => exact (moves_address moves).bind fun target => moves_pure _
  | compareTime =>
    refine (moves_address moves).bind fun stamp => ?_
    refine (moves_unsigned moves).bind fun timeout => ?_
    refine (moves_address moves).bind fun expired => ?_
    exact (moves_address moves).bind fun pending => moves_pure _
  | urlMap =>
    refine (moves_selector moves).bind fun s => ?_
    refine (moves_byte moves).bind fun options => ?_
    refine (moves_address moves).bind fun value => ?_
    refine (moves_address moves).bind fun port => ?_
    refine (moves_stringText moves _).bind fun url => ?_
    exact (moves_stringText moves _).bind fun resource => moves_pure _
  | urlMapCheck =>
    refine (moves_selector moves).bind fun s => ?_
    exact (moves_address moves).bind fun dest => moves_pure _
  | urlMapDelete | pidClear | pidStop | pidRun =>
    exact (moves_selector moves).bind fun s => moves_pure _
  | pidInit => exact moves_pidText moves

theorem moves_instruction (moves : code.MovedTo offset other) :
    MovesBy offset (instruction R code) (instruction R other) := by
  refine (moves_byte moves).bind fun b => ?_
  cases Opcode.ofByte? b with
  | none => exact moves_throw _
  | some op => exact (moves_operands moves op).bind fun shown => moves_pure _

end Fetch

namespace Disassembly
variable {R : Type} [Rational R] {program whole : Array UInt8} {pc place : UInt16} {offset : Nat}
  {lines rest : List (UInt16 × String)}

def moved (offset : Nat) (line : UInt16 × String) : UInt16 × String :=
  (line.1 + UInt16.ofNat offset, line.2)

theorem moved_eq {text : String} (there : place.toNat = pc.toNat + offset) :
    moved offset (pc, text) = (place, text) := by
  have small := place.toNat_lt
  have same : pc + UInt16.ofNat offset = place := by
    rw [← UInt16.toNat_inj, UInt16.toNat_add, UInt16.toNat_ofNat']
    omega
  rw [moved, same]

theorem tiles_disassemble (R : Type) [Rational R] (program : Array UInt8) :
    Tiles R program 0 (disassemble R program) :=
  tiles_linesFrom (Nat.zero_le _) (Nat.le_add_left _ _)

theorem Tiles.inside (tiled : Tiles R program pc lines) :
    ∀ line ∈ lines, line.1.toNat < program.size := by
  induction tiled with
  | finished => simp
  | shown decoded rest ih =>
    exact List.forall_mem_cons.mpr ⟨Fetch.inside_of_instruction decoded, ih⟩
  | refused inside => exact List.forall_mem_singleton.mpr inside

/-- Instead of the end of the program there may be more lines. -/
theorem Tiles.followed (moves : (Code.ofArray program).MovedTo offset (Code.ofArray whole))
    (tiled : Tiles R program pc lines) (plain : ∀ line ∈ lines, ¬ Marked line)
    (there : place.toNat = pc.toNat + offset)
    (more : ∀ stop : UInt16, stop.toNat = program.size + offset → Tiles R whole stop rest) :
    Tiles R whole place (lines.map (moved offset) ++ rest) := by
  induction tiled generalizing place with
  | finished ends => exact more place (by omega)
  | shown decoded later ih =>
    obtain ⟨-, others⟩ := List.forall_mem_cons.mp plain
    obtain ⟨stop, same, reached⟩ := Fetch.moves_instruction moves _ _ _ decoded place there
    rw [List.map_cons, moved_eq there]
    exact .shown same (ih others reached)
  | refused inside failed =>
    exact absurd (refuses_of_error inside failed).marked (plain _ (List.mem_singleton_self _))

/-- Two programs one behind the other have the lines of the first, and those of the second so much
    further on as the first is long. -/
theorem disassembly_of_joined (R : Type) [Rational R] (first second : Array UInt8)
    (small : first.size + second.size ≤ 0xFFFF)
    (plain : ∀ line ∈ disassemble R first, ¬ Marked line)
    (plainToo : ∀ line ∈ disassemble R second, ¬ Marked line) :
    disassemble R (first ++ second) =
        disassemble R first ++ (disassemble R second).map (moved first.size) ∧
      ∀ line ∈ disassemble R second,
        (moved first.size line).1.toNat = first.size + line.1.toNat := by
  have firstTiles := tiles_disassemble R first
  have secondTiles := tiles_disassemble R second
  have firstMoves : (Code.ofArray first).MovedTo 0 (Code.ofArray (first ++ second)) :=
    Code.ofArray_movedTo (by omega) fun i inside => Array.getElem?_append_left inside
  have secondMoves : (Code.ofArray second).MovedTo first.size (Code.ofArray (first ++ second)) := by
    refine Code.ofArray_movedTo (by omega) fun i inside => ?_
    rw [Array.getElem?_append_right (Nat.le_add_left _ _), Nat.add_sub_cancel]
  have size : (first ++ second).size = first.size + second.size := Array.size_append
  have unmoved : moved 0 = id := by
    funext line
    exact moved_eq rfl
  constructor
  · have joined : Tiles R (first ++ second) 0
        ((disassemble R first).map (moved 0) ++
          ((disassemble R second).map (moved first.size) ++ [])) := by
      refine firstTiles.followed firstMoves plain rfl fun between reached => ?_
      refine secondTiles.followed secondMoves plainToo ?_ fun stop ends => .finished ?_
      · rw [reached, UInt16.toNat_zero]
        omega
      · omega
    rw [unmoved, List.map_id, List.append_nil] at joined
    exact (tiles_disassemble R (first ++ second)).unique joined
  · intro line among
    have inside := secondTiles.inside line among
    rw [moved, UInt16.toNat_add, UInt16.toNat_ofNat']
    omega

instance (line : UInt16 × String) : Decidable (Marked line) :=
  inferInstanceAs (Decidable (line.2.startsWith "??" = true))

def mappingProgram : Array UInt8 :=
  #[0x70, 0x04, 0x1F, 0x02, 0x00, 0x33, 0x16, 0x68, 0x00, 0x2F, 0x74, 0xC3, 0xA9, 0x00]

def tableProgram : Array UInt8 :=
  #[0x21, 0x07, 0x09, 0x00, 0x02, 0x11, 0x22, 0x33, 0x44, 0x51, 0x00, 0x07, 0x00]

theorem disassembly_of_joined_texts :
    (mappingProgram.size + tableProgram.size ≤ 0xFFFF ∧
      (∀ line ∈ disassemble Fixed mappingProgram, ¬ Marked line) ∧
      ∀ line ∈ disassemble Fixed tableProgram, ¬ Marked line) ∧
    disassemble Fixed (mappingProgram ++ tableProgram) =
      [(0, "URLMAP id=0 opt=0x1F value=0x0002 port=5683 \"h\" \"/té\""),
        (14, "MULTILOAD.u16 0x0009, #1122, #3344"), (23, "JUMP [0x0007]")] := by
  have small : mappingProgram.size + tableProgram.size ≤ 0xFFFF := by decide
  have plain : ∀ line ∈ disassemble Fixed mappingProgram, ¬ Marked line := by decide +kernel
  have plainToo : ∀ line ∈ disassemble Fixed tableProgram, ¬ Marked line := by decide +kernel
  refine ⟨⟨small, plain, plainToo⟩, ?_⟩
  rw [(disassembly_of_joined Fixed mappingProgram tableProgram small plain plainToo).1]
  decide +kernel

end Disassembly
end ControlMachine
