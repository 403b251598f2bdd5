import Mathlib.Data.List.Chain
import ControlMachine.Number.Fixed
import ControlMachine.Proofs.InstructionLayout

/- The lines of a program shown as text. Each instruction takes at least a byte and none beyond the
   end, so its lines follow each other without gaps until they come to the end of the program or to
   bytes that are no instruction. -/
namespace ControlMachine.Disassembly
variable {R : Type} [Rational R] {program : Array UInt8} {pc : UInt16}
  {lines : List (UInt16 × String)}

/-- Lines that follow each other from an address on, until the program ends or an instruction cannot
    be read. -/
inductive Tiles (R : Type) [Rational R] (program : Array UInt8) :
    UInt16 → List (UInt16 × String) → Prop where
  | finished {pc : UInt16} (ends : pc.toNat = program.size) : Tiles R program pc []
  | shown {pc next : UInt16} {line : Line} {lines : List (UInt16 × String)}
      (decoded : instruction R (Code.ofArray program) pc = .ok line next)
      (rest : Tiles R program next lines) : Tiles R program pc ((pc, line.text) :: lines)
  | refused {pc stop : UInt16} {fault : Fault} (inside : pc.toNat < program.size)
      (failed : instruction R (Code.ofArray program) pc = .error fault stop) :
      Tiles R program pc [(pc, "?? " ++ fault.message)]

/-- By induction on the rounds that are left: each takes at least a byte of the program, so there
    are enough of them to come to its end. -/
theorem tiles_linesFrom {rounds : Nat} (inside : pc.toNat ≤ program.size)
    (enough : program.size ≤ pc.toNat + rounds) :
    Tiles R program pc (linesFrom R program rounds pc) := by
  induction rounds generalizing pc with
  | zero => exact .finished (by omega)
  | succ rounds ih =>
    rw [linesFrom]
    split
    · rename_i more
      split
      · rename_i line next decoded
        have moved := Fetch.lt_of_instruction decoded
        have within := (Fetch.decodes_of_instruction decoded).within
        exact .shown decoded (ih within (by omega))
      · rename_i fault stop failed
        exact .refused more failed
    · exact .finished (by omega)

/-- There is one such list of lines, whatever the number of rounds that found it. -/
theorem Tiles.unique {other : List (UInt16 × String)} (tiled : Tiles R program pc lines)
    (again : Tiles R program pc other) : lines = other := by
  induction tiled generalizing other with
  | finished ends =>
    cases again with
    | finished => rfl
    | shown decoded =>
      have inside := Fetch.inside_of_instruction decoded
      omega
    | refused inside => omega
  | shown decoded rest ih =>
    cases again with
    | finished ends =>
      have inside := Fetch.inside_of_instruction decoded
      omega
    | shown same further =>
      cases decoded.symm.trans same
      rw [ih further]
    | refused inside failed => cases decoded.symm.trans failed
  | refused inside failed =>
    cases again with
    | finished ends => omega
    | shown decoded => cases failed.symm.trans decoded
    | refused _ same =>
      cases failed.symm.trans same
      rfl

theorem Tiles.head (tiled : Tiles R program pc lines) :
    (lines.map Prod.fst).head? = if pc.toNat < program.size then some pc else none := by
  cases tiled with
  | finished ends => simp [ends]
  | shown decoded rest =>
    simp [Fetch.inside_of_instruction decoded]
  | refused inside failed => simp [inside]

theorem Tiles.from_start (tiled : Tiles R program pc lines) : ∀ line ∈ lines, pc ≤ line.1 := by
  induction tiled with
  | finished => simp
  | shown decoded rest ih =>
    have moved := Fetch.lt_of_instruction decoded
    intro line member
    obtain rfl | later := List.mem_cons.mp member
    · exact UInt16.le_refl _
    · exact UInt16.le_trans (Nat.le_of_lt moved) (ih line later)
  | refused => simp

theorem Tiles.increasing (tiled : Tiles R program pc lines) :
    (lines.map Prod.fst).Pairwise (· < ·) := by
  induction tiled with
  | finished => exact List.Pairwise.nil
  | shown decoded rest ih =>
    have moved := Fetch.lt_of_instruction decoded
    rw [List.map_cons, List.pairwise_cons]
    refine ⟨?_, ih⟩
    intro address member
    obtain ⟨line, later, rfl⟩ := List.mem_map.mp member
    exact Nat.lt_of_lt_of_le moved (rest.from_start line later)
  | refused => exact List.pairwise_singleton _ _

structure Shows (R : Type) [Rational R] (program : Array UInt8) (line : UInt16 × String)
    (stop : Nat) : Prop where
  decodes : Decodes program line.1.toNat stop
  text : ∃ read last, instruction R (Code.ofArray program) line.1 = .ok read last ∧
    last.toNat = stop ∧ line.2 = read.text

/-- There is a byte at the address of the line, but no instruction, and it says why. -/
structure Refuses (R : Type) [Rational R] (program : Array UInt8) (line : UInt16 × String) :
    Prop where
  inside : line.1.toNat < program.size
  undecoded : ∀ stop, ¬ Decodes program line.1.toNat stop
  text : ∃ fault place, instruction R (Code.ofArray program) line.1 = .error fault place ∧
    line.2 = "?? " ++ fault.message

theorem shows_of_instruction {next : UInt16} {read : Line}
    (decoded : instruction R (Code.ofArray program) pc = .ok read next) :
    Shows R program (pc, read.text) next.toNat :=
  ⟨Fetch.decodes_of_instruction decoded, read, next, decoded, rfl, rfl⟩

theorem refuses_of_error {fault : Fault} {place : UInt16} (inside : pc.toNat < program.size)
    (failed : instruction R (Code.ofArray program) pc = .error fault place) :
    Refuses R program (pc, "?? " ++ fault.message) :=
  ⟨inside, fun _ => Fetch.undecoded_of_error failed, fault, place, failed, rfl⟩

def Marked (line : UInt16 × String) : Prop := line.2.startsWith "??" = true

theorem Tiles.adjoining (tiled : Tiles R program pc lines) :
    lines.IsChain fun line next => Shows R program line next.1.toNat := by
  induction tiled with
  | finished => exact List.IsChain.nil
  | shown decoded rest ih =>
    rw [List.isChain_cons]
    refine ⟨?_, ih⟩
    intro later first
    have start := rest.head
    rw [List.head?_map, first] at start
    split at start
    · cases start
      exact shows_of_instruction decoded
    · cases start
  | refused => exact List.IsChain.singleton _

theorem mnemonic_unmarked (op : Opcode) (rest : String) :
    (op.mnemonic ++ rest).startsWith "??" = false := by
  rw [String.startsWith_string_eq_false_iff]
  rcases op with _ | (_ | _ | _ | _ | _) | (_ | _ | _ | _ | _) | _ <;> simp [Opcode.mnemonic]

theorem Shows.unmarked {line : UInt16 × String} {stop : Nat} (shown : Shows R program line stop) :
    ¬ Marked line := by
  obtain ⟨read, last, -, -, same⟩ := shown.text
  rw [Marked, same, Line.text, mnemonic_unmarked]
  exact Bool.false_ne_true

theorem Refuses.marked {line : UInt16 × String} (refused : Refuses R program line) :
    Marked line := by
  obtain ⟨fault, place, -, same⟩ := refused.text
  rw [Marked, same, String.startsWith_string_iff]
  simp

/-- How lines end: with an instruction that the program ends with and no mark at all, or with the
    only marked line, at the first place that has no instruction. -/
def Ends (R : Type) [Rational R] (program : Array UInt8) (lines : List (UInt16 × String))
    (line : UInt16 × String) : Prop :=
  (Shows R program line program.size ∧ ∀ other ∈ lines, ¬ Marked other) ∨
    (Refuses R program line ∧ Marked line ∧ ∀ other ∈ lines.dropLast, ¬ Marked other)

theorem Ends.after {lines : List (UInt16 × String)} {line first : UInt16 × String}
    (ends : Ends R program lines line) (some : lines ≠ []) (plain : ¬ Marked first) :
    Ends R program (first :: lines) line := by
  obtain ⟨shown, others⟩ | ⟨refused, marked, others⟩ := ends
  · exact .inl ⟨shown, List.forall_mem_cons.mpr ⟨plain, others⟩⟩
  · refine .inr ⟨refused, marked, ?_⟩
    rw [List.dropLast_cons_of_ne_nil some]
    exact List.forall_mem_cons.mpr ⟨plain, others⟩

theorem Tiles.ending (tiled : Tiles R program pc lines) :
    ∀ line ∈ lines.getLast?, Ends R program lines line := by
  induction tiled with
  | finished => simp
  | @shown pc next read lines decoded rest ih =>
    have first := shows_of_instruction decoded
    intro line last
    cases lines with
    | nil =>
      cases rest with
      | finished ends =>
        cases last
        rw [ends] at first
        exact .inl ⟨first, List.forall_mem_singleton.mpr first.unmarked⟩
    | cons second lines =>
      rw [List.getLast?_cons_cons] at last
      exact (ih line last).after (List.cons_ne_nil _ _) first.unmarked
  | refused inside failed =>
    have only := refuses_of_error inside failed
    intro line last
    cases last
    exact .inr ⟨only, only.marked, by simp⟩

/-- An address has 16 bits, so the last line of a longer program is never an instruction. -/
theorem Tiles.overlong (tiled : Tiles R program pc lines) (long : 0xFFFF < program.size) :
    ∀ line ∈ lines.getLast?, Refuses R program line := by
  intro line last
  obtain ⟨shown, -⟩ | ⟨refused, -⟩ := tiled.ending line last
  · have small := shown.decodes.addressed
    omega
  · exact refused

structure Tiling (R : Type) [Rational R] (program : Array UInt8)
    (lines : List (UInt16 × String)) : Prop where
  start : (lines.map Prod.fst).head? = if 0 < program.size then some 0 else none
  increasing : (lines.map Prod.fst).Pairwise (· < ·)
  adjoining : lines.IsChain fun line next => Shows R program line next.1.toNat
  ending : ∀ line ∈ lines.getLast?, Ends R program lines line
  overlong : 0xFFFF < program.size → ∀ line ∈ lines.getLast?, Refuses R program line

theorem Tiles.tiling (tiled : Tiles R program 0 lines) : Tiling R program lines where
  start := tiled.head
  increasing := tiled.increasing
  adjoining := tiled.adjoining
  ending := tiled.ending
  overlong := tiled.overlong

/-- Whatever the bytes are, and however many, the lines of a program tile it, and the loop that
    makes them stops by itself: more rounds add nothing to them. -/
theorem disassembly_tiles (R : Type) [Rational R] (program : Array UInt8) :
    Tiling R program (disassemble R program) ∧
      ∀ rounds, program.size ≤ rounds →
        linesFrom R program rounds 0 = disassemble R program := by
  have tiled : Tiles R program 0 (disassemble R program) :=
    tiles_linesFrom (Nat.zero_le _) (Nat.le_add_left _ _)
  refine ⟨tiled.tiling, ?_⟩
  intro rounds enough
  have again : Tiles R program 0 (linesFrom R program rounds 0) :=
    tiles_linesFrom (Nat.zero_le _) (Nat.le_trans enough (Nat.le_add_left _ _))
  exact again.unique tiled

/-- A jump that lacks its last byte. -/
example : disassemble Fixed #[0x00, 0x51, 0x00, 0x07] =
    [(0, "HALT"), (1, "?? " ++ (Fault.accessViolation .fetch 4 1).message)] := by
  decide +kernel

end ControlMachine.Disassembly
