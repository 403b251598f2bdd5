import ControlMachine.Proofs.Branches
import ControlMachine.Proofs.Scheduling

/- A program that finds the greatest common divisor of two words by subtraction. It is followed
   row by row: each row of the listing takes one step, and what it does to the two cells that count
   is a step between stages. The stages alone then tell where the program stops. -/
namespace ControlMachine

namespace CommonDivisor

inductive Row where
  | loadFirst | loadSecond | start
  | testFirst | copy | skip
  | testSecond | order
  | reduceFirst | fromFirst
  | reduceSecond | fromSecond
  | finish | elapsed | halt
  deriving DecidableEq, Repr

def rows : List Row :=
  [.loadFirst, .loadSecond, .start, .testFirst, .copy, .skip, .testSecond, .order, .reduceFirst,
    .fromFirst, .reduceSecond, .fromSecond, .finish, .elapsed, .halt]

def Row.code (a b : UInt32) : Row → List UInt8
  | .loadFirst => [0x20, 0x01, 0x70, 0x00] ++ LittleEndian.bytes 4 a.toNat
  | .loadSecond => [0x20, 0x01, 0x74, 0x00] ++ LittleEndian.bytes 4 b.toNat
  | .start => [0x60, 0x80, 0x00]
  | .testFirst =>
    [0x52, 0x01, 0x70, 0x00, 0x00, 0x00, 0x00, 0x00, 0x2B, 0x00, 0x21, 0x00, 0x2B, 0x00]
  | .copy => [0x20, 0x00, 0x70, 0x00, 0x74, 0x00]
  | .skip => [0x51, 0x01, 0x59, 0x00]
  | .testSecond =>
    [0x52, 0x01, 0x74, 0x00, 0x00, 0x00, 0x00, 0x00, 0x39, 0x00, 0x59, 0x00, 0x39, 0x00]
  | .order => [0x52, 0x00, 0x70, 0x00, 0x74, 0x00, 0x4F, 0x00, 0x4F, 0x00, 0x45, 0x00]
  | .reduceFirst => [0x02, 0x00, 0x70, 0x00, 0x74, 0x00]
  | .fromFirst => [0x51, 0x01, 0x2B, 0x00]
  | .reduceSecond => [0x02, 0x00, 0x74, 0x00, 0x70, 0x00]
  | .fromSecond => [0x51, 0x01, 0x2B, 0x00]
  | .finish => [0x60, 0x84, 0x00]
  | .elapsed => [0x02, 0x00, 0x84, 0x00, 0x80, 0x00]
  | .halt => [0x00]

def Row.address : Row → Nat
  | .loadFirst => 0
  | .loadSecond => 8
  | .start => 16
  | .testFirst => 19
  | .copy => 33
  | .skip => 39
  | .testSecond => 43
  | .order => 57
  | .reduceFirst => 69
  | .fromFirst => 75
  | .reduceSecond => 79
  | .fromSecond => 85
  | .finish => 89
  | .elapsed => 92
  | .halt => 98

theorem Row.address_le (row : Row) : row.address ≤ 98 := by cases row <;> decide

theorem Row.operand_inside (row : Row) : row.address + 4 + 4 ≤ 136 := by
  have low := row.address_le
  omega

def program (a b : UInt32) : List UInt8 := rows.flatMap (Row.code a b)

theorem length_program (a b : UInt32) : (program a b).length = 99 := rfl

example : program 1836311903 1134903170 =
    [0x20, 0x01, 0x70, 0x00, 0x5F, 0xE5, 0x73, 0x6D, 0x20, 0x01, 0x74, 0x00, 0x82, 0x3F, 0xA5, 0x43,
      0x60, 0x80, 0x00,
      0x52, 0x01, 0x70, 0x00, 0x00, 0x00, 0x00, 0x00, 0x2B, 0x00, 0x21, 0x00, 0x2B, 0x00,
      0x20, 0x00, 0x70, 0x00, 0x74, 0x00, 0x51, 0x01, 0x59, 0x00,
      0x52, 0x01, 0x74, 0x00, 0x00, 0x00, 0x00, 0x00, 0x39, 0x00, 0x59, 0x00, 0x39, 0x00,
      0x52, 0x00, 0x70, 0x00, 0x74, 0x00, 0x4F, 0x00, 0x4F, 0x00, 0x45, 0x00,
      0x02, 0x00, 0x70, 0x00, 0x74, 0x00, 0x51, 0x01, 0x2B, 0x00,
      0x02, 0x00, 0x74, 0x00, 0x70, 0x00, 0x51, 0x01, 0x2B, 0x00,
      0x60, 0x84, 0x00, 0x02, 0x00, 0x84, 0x00, 0x80, 0x00, 0x00] := by rfl

def Row.choose (less equal greater : Row) : Ordering → Row
  | .lt => less
  | .eq => equal
  | .gt => greater

structure Stage where
  row : Row
  first : Nat
  second : Nat

def difference (x y : Nat) : Nat := (WordOperation.arithmetic .sub).result 32 x y

theorem difference_of_le {x y : Nat} (small : x < 2 ^ 32) (below : y ≤ x) :
    difference x y = x - y := by
  simp only [difference, WordOperation.result]
  omega

def Stage.next (a b : UInt32) (g : Stage) : Stage :=
  match g.row with
  | .loadFirst => ⟨.loadSecond, a.toNat, g.second⟩
  | .loadSecond => ⟨.start, g.first, b.toNat⟩
  | .start => { g with row := .testFirst }
  | .testFirst => { g with row := .choose .testSecond .copy .testSecond (compare g.first 0) }
  | .copy => ⟨.skip, g.second, g.second⟩
  | .skip => { g with row := .finish }
  | .testSecond => { g with row := .choose .order .finish .order (compare g.second 0) }
  | .order => { g with
      row := .choose .reduceSecond .reduceSecond .reduceFirst (compare g.first g.second) }
  | .reduceFirst => ⟨.fromFirst, difference g.first g.second, g.second⟩
  | .reduceSecond => ⟨.fromSecond, g.first, difference g.second g.first⟩
  | .fromFirst | .fromSecond => { g with row := .testSecond }
  | .finish => { g with row := .elapsed }
  | .elapsed => { g with row := .halt }
  | .halt => g

variable {a b : UInt32} {g h middle : Stage} {n i x y : Nat}

/-- So many rows lead from one stage to the other. -/
inductive Leads (a b : UInt32) : Nat → Stage → Stage → Prop
  | here (g : Stage) : Leads a b 0 g g
  | onward {n : Nat} {g middle h : Stage} (going : g.row ≠ .halt) (moves : g.next a b = middle)
    (later : Leads a b n middle h) : Leads a b (n + 1) g h

theorem leads_trans (before : Leads a b i g middle) (after : Leads a b n middle h) :
    Leads a b (n + i) g h := by
  induction before with
  | here => exact after
  | onward going moves _ ih => exact .onward going moves (ih after)

theorem choose_of_pos (less equal greater : Row) (some : 0 < x) :
    Row.choose less equal greater (compare x 0) = greater := by
  rw [Nat.compare_eq_gt.mpr some, Row.choose]

theorem choose_of_le (less greater : Row) (above : x ≤ y) :
    Row.choose less less greater (compare x y) = less := by
  cases order : compare x y with
  | lt | eq => rfl
  | gt => exact absurd order (Nat.compare_ne_gt.mpr above)

theorem leads_of_finish (x y : Nat) : Leads a b 2 ⟨.finish, x, y⟩ ⟨.halt, x, y⟩ :=
  .onward nofun rfl (.onward nofun rfl (.here _))

theorem leads_of_less (some : y ≠ 0) (small : x < 2 ^ 32) (less : y < x) :
    Leads a b 4 ⟨.testSecond, x, y⟩ ⟨.testSecond, x - y, y⟩ := by
  have tested : (Stage.mk .testSecond x y).next a b = ⟨.order, x, y⟩ := by
    simp only [Stage.next, choose_of_pos _ _ _ (Nat.pos_of_ne_zero some)]
  have ordered : (Stage.mk .order x y).next a b = ⟨.reduceFirst, x, y⟩ := by
    simp only [Stage.next, Nat.compare_eq_gt.mpr less, Row.choose]
  have reduced : (Stage.mk .reduceFirst x y).next a b = ⟨.fromFirst, x - y, y⟩ := by
    simp only [Stage.next, difference_of_le small (Nat.le_of_lt less)]
  exact .onward nofun tested <| .onward nofun ordered <| .onward nofun reduced <|
    .onward nofun rfl <| .here _

theorem leads_of_le (some : y ≠ 0) (small : y < 2 ^ 32) (above : x ≤ y) :
    Leads a b 4 ⟨.testSecond, x, y⟩ ⟨.testSecond, x, y - x⟩ := by
  have tested : (Stage.mk .testSecond x y).next a b = ⟨.order, x, y⟩ := by
    simp only [Stage.next, choose_of_pos _ _ _ (Nat.pos_of_ne_zero some)]
  have ordered : (Stage.mk .order x y).next a b = ⟨.reduceSecond, x, y⟩ := by
    simp only [Stage.next, choose_of_le _ _ above]
  have reduced : (Stage.mk .reduceSecond x y).next a b = ⟨.fromSecond, x, y - x⟩ := by
    simp only [Stage.next, difference_of_le small above]
  exact .onward nofun tested <| .onward nofun ordered <| .onward nofun reduced <|
    .onward nofun rfl <| .here _

/-- One of the numbers shrinks in every round and the first stays positive, so the sum of the two
    bounds the rounds. No round changes their greatest common divisor. -/
theorem exists_leads_of_testSecond (a b : UInt32) (x y : Nat) (some : 0 < x) (small : x < 2 ^ 32)
    (smallToo : y < 2 ^ 32) :
    ∃ n last, Leads a b n ⟨.testSecond, x, y⟩ ⟨.halt, Nat.gcd x y, last⟩ := by
  by_cases none : y = 0
  · subst none
    rw [Nat.gcd_zero_right]
    exact ⟨3, 0, .onward nofun rfl (leads_of_finish x 0)⟩
  · by_cases less : y < x
    · obtain ⟨n, last, later⟩ :=
        exists_leads_of_testSecond a b (x - y) y (Nat.sub_pos_of_lt less) (by omega) smallToo
      rw [Nat.gcd_sub_self_left (Nat.le_of_lt less)] at later
      exact ⟨n + 4, last, leads_trans (leads_of_less none small less) later⟩
    · have above : x ≤ y := Nat.not_lt.mp less
      obtain ⟨n, last, later⟩ :=
        exists_leads_of_testSecond a b x (y - x) some small (by omega)
      rw [Nat.gcd_sub_self_right above] at later
      exact ⟨n + 4, last, leads_trans (leads_of_le none smallToo above) later⟩
termination_by x + y

/-- How many rows there are does not depend on what the cells held before the program. -/
theorem exists_leads (a b : UInt32) : ∃ n, ∀ x y, ∃ last,
    Leads a b n ⟨.loadFirst, x, y⟩ ⟨.halt, Nat.gcd a.toNat b.toNat, last⟩ := by
  have loaded : ∀ x y, Leads a b 3 ⟨.loadFirst, x, y⟩ ⟨.testFirst, a.toNat, b.toNat⟩ := fun x y =>
    .onward nofun rfl (.onward nofun rfl (.onward nofun rfl (.here _)))
  by_cases none : a.toNat = 0
  · have tested : (Stage.mk .testFirst a.toNat b.toNat).next a b = ⟨.copy, a.toNat, b.toNat⟩ := by
      rw [none]
      rfl
    have copied : Leads a b 5 ⟨.testFirst, a.toNat, b.toNat⟩ ⟨.halt, b.toNat, b.toNat⟩ :=
      .onward nofun tested <| .onward nofun rfl <| .onward nofun rfl <| leads_of_finish _ _
    rw [none, Nat.gcd_zero_left]
    exact ⟨8, fun x y => ⟨_, leads_trans (loaded x y) copied⟩⟩
  · have tested : (Stage.mk .testFirst a.toNat b.toNat).next a b =
        ⟨.testSecond, a.toNat, b.toNat⟩ := by
      simp only [Stage.next, choose_of_pos _ _ _ (Nat.pos_of_ne_zero none)]
    obtain ⟨n, last, found⟩ := exists_leads_of_testSecond a b a.toNat b.toNat
      (Nat.pos_of_ne_zero none) a.toNat_lt b.toNat_lt
    exact ⟨n + 1 + 3, fun x y => ⟨last, leads_trans (loaded x y) (.onward nofun tested found)⟩⟩

theorem held_row {m : Memory} (held : m.Holds 0 (program a b)) (row : Row) :
    m.Holds row.address (row.code a b) := by
  have inside : row.address ≤ (program a b).length := by
    rw [length_program]
    exact Nat.le_trans row.address_le (by decide)
  have part := held.part row.address (row.code a b).length inside
  rw [Nat.zero_add] at part
  cases row <;> exact part

open Memory Machine
variable {R : Type} {m : Machine R} {row : Row} {s : Selector} {clock : Clock}

/-- A machine stands at a row, with the two numbers in its cells and the listing in its code. -/
structure At (m : Machine R) (a b : UInt32) (g : Stage) : Prop where
  clean : m.flags = .clean
  place : m.pc.toNat = g.row.address
  room : 136 ≤ m.memory.capacity
  code : m.memory.Holds 0 (program a b)
  first : m.memory.wordAt .four 0x70 = g.first
  second : m.memory.wordAt .four 0x74 = g.second

theorem At.running (ready : At m a b g) : m.isHalted = false := congrArg Flags.halted ready.clean

theorem At.held (ready : At m a b g) : m.memory.Holds m.pc.toNat (g.row.code a b) := by
  rw [ready.place]
  exact held_row ready.code g.row

theorem At.addressAt (ready : At m a b g) (k n : Nat) (small : n < 0x10000)
    (inside : k ≤ (g.row.code a b).length)
    (same : ((g.row.code a b).drop k).take 2 = LittleEndian.bytes 2 n) :
    m.memory.addressAt (m.pc.toNat + k) = n := by
  have part := ready.held.part k 2 inside
  rw [same] at part
  rw [Memory.addressAt, value_of_held part]
  exact Nat.mod_eq_of_lt small

theorem At.moved (ready : At m a b g) {target : UInt16} (place : target.toNat = row.address) :
    At { m.started with pc := target } a b { g with row := row } :=
  ⟨ready.clean, place, ready.room, ready.code, ready.first, ready.second⟩

def Stored (cell : Nat) : Prop := cell = 0x70 ∨ cell = 0x74 ∨ 0x78 ≤ cell ∧ cell + 4 ≤ 136

theorem At.stored (ready : At m a b g) {cell n : Nat} (among : Stored cell) (small : n < 2 ^ 32)
    {next : UInt16} (place : next.toNat = row.address) :
    At { m.started.withMemory (m.memory.withWord .four cell n) with pc := next } a b
      ⟨row, if cell = 0x70 then n else g.first, if cell = 0x74 then n else g.second⟩ := by
  have room := ready.room
  unfold Stored at among
  have fits : cell + Width.four.bytes ≤ m.memory.capacity := by
    simp only [Width.bytes]
    omega
  -- the listing ends below the first cell
  have code : (m.memory.withWord .four cell n).Holds 0 (program a b) := by
    apply holds_patch_apart ready.code
    · rwa [LittleEndian.length_bytes]
    · rw [length_program]
      omega
  have read : ∀ other, cell = other ∨ cell + 4 ≤ other ∨ other + 4 ≤ cell →
      (m.memory.withWord .four cell n).wordAt .four other =
        if cell = other then n else m.memory.wordAt .four other := by
    intro other apart
    split
    · rename_i here
      rw [← here]
      exact wordAt_withWord fits small
    · exact wordAt_withWord_apart fits (by simp only [Width.bytes]; omega)
  have first := read 0x70 (by omega)
  have second := read 0x74 (by omega)
  rw [ready.first] at first
  rw [ready.second] at second
  exact ⟨ready.clean, place,
    Nat.le_trans room (Nat.le_of_eq (capacity_patch m.memory cell _).symm), code, first, second⟩

structure Fields (m : Machine R) (op : Opcode) (s : Selector) (dest source : Nat) : Prop where
  here : m.opcode? = some op
  selected : m.selector = s
  destCell : m.destCell = dest
  sourceCell : m.sourceCell = source

theorem At.fields (ready : At m a b g) (op : Opcode) (s : Selector) (dest source : UInt16)
    (rest : List UInt8) (direct : s.isLiteral = false)
    (bytes : g.row.code a b = op.byte :: s.byte ::
      (LittleEndian.bytes 2 dest.toNat ++ (LittleEndian.bytes 2 source.toNat ++ rest))) :
    Fields m op s dest.toNat source.toNat := by
  obtain ⟨here, selected, destCell, operand⟩ := fields_of_held (bytes ▸ ready.held)
  rw [← selected] at direct
  exact ⟨here, selected, destCell, sourceCell_of_address direct (holds_append.mp operand).1⟩

theorem At.literalFields (ready : At m a b g) (op : Opcode) (s : Selector) (dest : UInt16)
    (word : UInt32) (rest : List UInt8) (literal : s.isLiteral = true) (bytes : g.row.code a b =
      op.byte :: s.byte :: (LittleEndian.bytes 2 dest.toNat ++
        (LittleEndian.bytes 4 word.toNat ++ rest))) :
    Fields m op s dest.toNat (g.row.address + 4) ∧
      m.memory.wordAt .four (g.row.address + 4) = word.toNat := by
  obtain ⟨here, selected, destCell, operand⟩ := fields_of_held (bytes ▸ ready.held)
  rw [← selected] at literal
  have sourceCell := sourceCell_of_literal literal
  rw [ready.place] at sourceCell operand
  refine ⟨⟨here, selected, destCell, sourceCell⟩, ?_⟩
  rw [wordAt, Width.bytes, value_of_held (holds_append.mp operand).1]
  exact Nat.mod_eq_of_lt word.toNat_lt

theorem exists_loaded (m : Machine R) (a b : UInt32) (room : 136 ≤ m.memory.capacity) :
    ∃ loaded x y, m.loadProgram (program a b) = .ok loaded ∧
      At loaded a b ⟨.loadFirst, x, y⟩ := by
  have fits : 0 + (program a b).length ≤ m.memory.capacity := by
    rw [length_program]
    omega
  have written : m.memory.writeBytes 0 (program a b) = .ok (m.memory.patch 0 (program a b)) :=
    write_eq_ok.mpr ⟨fits, rfl⟩
  have size := capacity_patch m.memory 0 (program a b)
  have held := holds_patch fits
  generalize m.memory.patch 0 (program a b) = memory at written size held
  refine ⟨(m.withMemory memory).clear, memory.wordAt .four 0x70, memory.wordAt .four 0x74, ?_, ?_⟩
  · rw [loadProgram, written]
    rfl
  · exact ⟨rfl, rfl, size ▸ room, held, rfl, rfl⟩

variable [Rational R]

theorem At.stepWord (ready : At m a b g) (clock : Clock) (op : WordOperation) (row : Row)
    {dest source : Nat} (fields : Fields m op.opcode s dest source)
    (left : m.memory.wordAt .four dest = x) (right : m.memory.wordAt .four source = y)
    (typed : s.dataType? = some (.word .four)) (safe : op.divides = false) (among : Stored dest)
    (inside : source + 4 ≤ 136) (ends : row.address = g.row.address + op.length s .four) :
    ∃ after, m.step clock = .ok () after ∧ At after a b
      ⟨row, if dest = 0x70 then op.result 32 x y else g.first,
        if dest = 0x74 then op.result 32 x y else g.second⟩ := by
  have room := ready.room
  have last := row.address_le
  have atWords : m.AtWords op .four := by
    unfold Stored at among
    refine ⟨ready.running, fields.here, ?_, ?_, ?_, Or.inr ?_⟩
    · rw [fields.selected]
      exact typed
    · rw [fields.selected, ready.place, ← ends]
      omega
    · rw [fields.destCell]
      simp only [Width.bytes]
      omega
    · rw [fields.sourceCell]
      simp only [Width.bytes]
      omega
  have some : ¬ m.dividesByZero op .four := by
    rintro ⟨divides, -⟩
    rw [safe] at divides
    cases divides
  have small := m.worked_lt op .four
  obtain ⟨next, place, done⟩ := step_word clock atWords some
  rw [worked, fields.destCell, fields.sourceCell, left, right] at small done
  rw [fields.selected, ready.place, ← ends] at place
  exact ⟨_, done, ready.stored among small place⟩

theorem At.stepCompare (ready : At m a b g) (clock : Clock) (target : Ordering → Row)
    {dest source : Nat} (fields : Fields m .compare s dest source)
    (left : m.memory.wordAt .four dest = x) (right : m.memory.wordAt .four source = y)
    (typed : s.dataType? = some (.word .four)) (destInside : dest + 4 ≤ 136)
    (inside : source + 4 ≤ 136)
    (whole : (g.row.code a b).length = 4 + s.operandBytes 4 + 6)
    (targets : ∀ order, ((g.row.code a b).drop (4 + s.operandBytes 4 + branchPlace order)).take 2 =
      LittleEndian.bytes 2 (target order).address) :
    ∃ after, m.step clock = .ok () after ∧
      At after a b { g with row := target (compare x y) } := by
  have room := ready.room
  have fits := ready.held.fits
  have atCompare : m.AtCompare .four := by
    refine ⟨ready.running, fields.here, ?_, ?_, ?_, ?_⟩
    · rw [fields.selected]
      exact typed
    · rw [cellsEnd, fields.selected]
      simp only [Width.bytes]
      omega
    · rw [fields.destCell]
      simp only [Width.bytes]
      omega
    · rw [fields.sourceCell]
      simp only [Width.bytes]
      omega
  obtain ⟨next, place, done⟩ := step_compare clock atCompare
  rw [compared, fields.destCell, fields.sourceCell, left, right, cellsEnd, fields.selected,
    Nat.add_assoc] at place
  have few : branchPlace (compare x y) ≤ 6 := by cases compare x y <;> decide
  have low := (target (compare x y)).address_le
  have there := ready.addressAt (4 + s.operandBytes 4 + branchPlace (compare x y)) _ (by omega)
    (by omega) (targets (compare x y))
  exact ⟨_, done, ready.moved (place.trans there)⟩

theorem At.stepJump (ready : At m a b g) (clock : Clock) (row : Row)
    (bytes : g.row.code a b = Opcode.jump.byte :: 0x01 :: LittleEndian.bytes 2 row.address) :
    ∃ after, m.step clock = .ok () after ∧ At after a b { g with row := row } := by
  have held := ready.held
  have fits := held.fits
  rw [bytes] at held
  rw [bytes, List.length_cons, List.length_cons, LittleEndian.length_bytes] at fits
  have selected : m.selector = ⟨0x01⟩ :=
    congrArg Selector.mk (holds_cons.mp (holds_cons.mp held).2).1
  have cell : m.targetCell = m.pc.toNat + 2 := by
    rw [targetCell, selected]
    rfl
  have low := row.address_le
  have target := ready.addressAt 2 row.address (by omega) (by rw [bytes]; simp) (by rw [bytes]; rfl)
  obtain ⟨next, place, done⟩ := step_jump clock ready.running (opcode_of_held held)
    (by rw [selected]; exact fits) (by rw [cell]; exact fits)
  rw [cell, target] at place
  exact ⟨_, done, ready.moved place⟩

theorem At.stepTime (ready : At m a b g) (clock : Clock) (row : Row) (cell : Nat)
    (bytes : g.row.code a b = Opcode.time.byte :: LittleEndian.bytes 2 cell)
    (above : 0x78 ≤ cell) (inside : cell + 4 ≤ 136) (ends : row.address = g.row.address + 3) :
    ∃ after, m.step clock = .ok () after ∧ At after a b { g with row := row } := by
  have held := ready.held
  have fits := held.fits
  have room := ready.room
  rw [bytes] at held
  rw [bytes, List.length_cons, LittleEndian.length_bytes] at fits
  have target := ready.addressAt 1 cell (by omega) (by rw [bytes]; simp) (by rw [bytes]; rfl)
  obtain ⟨next, place, done⟩ := step_time clock ready.running (opcode_of_held held) fits
    (by rw [target]; omega)
  rw [target] at done
  rw [ready.place, ← ends] at place
  have there := ready.stored (Or.inr (Or.inr ⟨above, inside⟩)) clock.micros.toUInt32.toNat_lt place
  rw [if_neg (by omega), if_neg (by omega)] at there
  exact ⟨_, done, there⟩

theorem At.follows (ready : At m a b g) (going : g.row ≠ .halt) (clock : Clock) :
    ∃ after, m.step clock = .ok () after ∧ At after a b (g.next a b) := by
  obtain ⟨row, x, y⟩ := g
  have first := ready.first
  have second := ready.second
  cases row with
  | loadFirst =>
    obtain ⟨fields, value⟩ := ready.literalFields .load ⟨0x01⟩ 0x70 a [] rfl rfl
    exact ready.stepWord clock .load .loadSecond fields first value rfl rfl (Or.inl rfl)
      (Row.operand_inside _) rfl
  | loadSecond =>
    obtain ⟨fields, value⟩ := ready.literalFields .load ⟨0x01⟩ 0x74 b [] rfl rfl
    exact ready.stepWord clock .load .start fields second value rfl rfl (Or.inr (Or.inl rfl))
      (Row.operand_inside _) rfl
  | start => exact ready.stepTime clock .testFirst 0x80 rfl (by decide) (by decide) rfl
  | testFirst =>
    obtain ⟨fields, value⟩ := ready.literalFields .compare ⟨0x01⟩ 0x70 0
      [0x2B, 0x00, 0x21, 0x00, 0x2B, 0x00] rfl rfl
    exact ready.stepCompare clock (.choose .testSecond .copy .testSecond) fields first value rfl
      (by decide) (Row.operand_inside _) rfl (by intro order; cases order <;> rfl)
  | copy =>
    have fields := ready.fields .load ⟨0x00⟩ 0x70 0x74 [] rfl rfl
    exact ready.stepWord clock .load .skip fields first second rfl rfl (Or.inl rfl) (by decide) rfl
  | skip => exact ready.stepJump clock .finish rfl
  | testSecond =>
    obtain ⟨fields, value⟩ := ready.literalFields .compare ⟨0x01⟩ 0x74 0
      [0x39, 0x00, 0x59, 0x00, 0x39, 0x00] rfl rfl
    exact ready.stepCompare clock (.choose .order .finish .order) fields second value rfl
      (by decide) (Row.operand_inside _) rfl (by intro order; cases order <;> rfl)
  | order =>
    have fields := ready.fields .compare ⟨0x00⟩ 0x70 0x74
      [0x4F, 0x00, 0x4F, 0x00, 0x45, 0x00] rfl rfl
    exact ready.stepCompare clock (.choose .reduceSecond .reduceSecond .reduceFirst) fields first
      second rfl (by decide) (by decide) rfl (by intro order; cases order <;> rfl)
  | reduceFirst =>
    have fields := ready.fields (.arithmetic .sub) ⟨0x00⟩ 0x70 0x74 [] rfl rfl
    exact ready.stepWord clock (.arithmetic .sub) .fromFirst fields first second rfl rfl
      (Or.inl rfl) (by decide) rfl
  | reduceSecond =>
    have fields := ready.fields (.arithmetic .sub) ⟨0x00⟩ 0x74 0x70 [] rfl rfl
    exact ready.stepWord clock (.arithmetic .sub) .fromSecond fields second first rfl rfl
      (Or.inr (Or.inl rfl)) (by decide) rfl
  | fromFirst | fromSecond => exact ready.stepJump clock .testSecond rfl
  | finish => exact ready.stepTime clock .elapsed 0x84 rfl (by decide) (by decide) rfl
  | elapsed =>
    have fields := ready.fields (.arithmetic .sub) ⟨0x00⟩ 0x84 0x80 [] rfl rfl
    exact ready.stepWord clock (.arithmetic .sub) .halt fields rfl rfl rfl rfl
      (Or.inr (Or.inr (by decide))) (by decide) rfl
  | halt => exact absurd rfl going

/-- So many steps succeed, whatever the clock shows at each, and leave a machine like this. -/
def Ends (P : Machine R → Prop) : Nat → Machine R → Prop
  | 0, m => P m
  | n + 1, m => ∀ clock, ∃ after, m.step clock = .ok () after ∧ Ends P n after

theorem ends_run {P : Machine R → Prop} (ends : Ends P n m) (clock : Clock) :
    P (m.run clock n).2 := by
  rw [run_machine]
  induction n generalizing m with
  | zero => exact ends
  | succ n ih =>
    obtain ⟨after, done, later⟩ := ends clock
    rw [afterSteps, done]
    exact ih later

structure Found (number : Nat) (m : Machine R) : Prop where
  flags : m.flags = ⟨true, false, false⟩
  pc : m.pc = 98
  found : ∃ word, m.memory.loadUnsigned 0x70 = .ok word ∧ word.toNat = number

theorem At.halts (ready : At m a b ⟨.halt, x, y⟩) : Ends (Found x) 1 m := by
  intro clock
  have here : m.opcode? = some .halt := opcode_of_held ready.held
  refine ⟨_, step_halt clock ready.running here, ?_, UInt16.toNat_inj.mp ready.place, ?_⟩
  · rw [ready.clean]
    rfl
  · have fits : (0x70 : UInt16).toNat + Width.four.bytes ≤ m.memory.capacity :=
      Nat.le_trans (by decide) ready.room
    obtain ⟨word, loaded, number⟩ := exists_wordAt fits
    exact ⟨word, loaded, number.trans ready.first⟩

theorem ends_of_leads (leads : Leads a b n g ⟨.halt, x, y⟩) (ready : At m a b g) :
    Ends (Found x) (n + 1) m := by
  generalize last : Stage.mk .halt x y = h at leads
  induction leads generalizing m with
  | here =>
    subst last
    exact ready.halts
  | onward going moves _ ih =>
    intro clock
    obtain ⟨after, done, there⟩ := ready.follows going clock
    rw [moves] at there
    exact ⟨after, done, ih there last⟩

/-- The number of steps depends on the two numbers alone. -/
theorem common_divisor_found (R : Type) [Rational R] (a b : UInt32) :
    ∃ n, ∀ m : Machine R, 136 ≤ m.memory.capacity →
      ∃ loaded, m.loadProgram (program a b) = .ok loaded ∧
        (∀ clock, Found (Nat.gcd a.toNat b.toNat) (loaded.run clock n).2) ∧
        Ends (Found (Nat.gcd a.toNat b.toNat)) n loaded := by
  obtain ⟨n, leads⟩ := exists_leads a b
  refine ⟨n + 1, ?_⟩
  intro m room
  obtain ⟨loaded, x, y, done, ready⟩ := exists_loaded m a b room
  obtain ⟨last, found⟩ := leads x y
  have ends := ends_of_leads found ready
  exact ⟨loaded, done, ends_run ends, ends⟩

/-- Neighbours in the sequence of Fibonacci have no divisor in common. -/
theorem common_divisor_found_of_neighbours :
    136 ≤ (Machine.ofSizes 136 1 1 1 : Machine Fixed).memory.capacity ∧
      ∃ n loaded, (Machine.ofSizes 136 1 1 1 : Machine Fixed).loadProgram
          (program 1836311903 1134903170) = .ok loaded ∧
        ∀ clock, Found 1 (loaded.run clock n).2 := by
  have room : 136 ≤ (Machine.ofSizes 136 1 1 1 : Machine Fixed).memory.capacity :=
    Nat.le_of_eq (size_zeros 136).symm
  obtain ⟨n, found⟩ := common_divisor_found Fixed 1836311903 1134903170
  obtain ⟨loaded, done, ends, -⟩ := found _ room
  have neighbours : Nat.gcd (1836311903 : UInt32).toNat (1134903170 : UInt32).toNat = 1 := by decide
  rw [neighbours] at ends
  exact ⟨room, n, loaded, done, ends⟩

end CommonDivisor
end ControlMachine
