import ControlMachine.Proofs.Branches

/- Comparisons of words and of numbers with a fixed point. They branch by the true order of what the
   two cells hold, wherever the cells are, and so several of them agree with each other: the same
   cells the other way round give the opposite branch, and branches along a chain add up. -/
namespace ControlMachine

/-- Cells whose contents are numbers in every case: words in any machine, and the numbers of a
    machine with a fixed point. -/
inductive Exact : (R : Type) → [Rational R] → DataType → Prop where
  | word {R : Type} [Rational R] (width : Width) : Exact R (.word width)
  | fixed : Exact Fixed .rational

namespace Memory
variable {m : Memory} {dest source address : UInt16} {type : DataType}

def signed (n : Nat) : Int := Int.bmod n 0x100000000

/-- The number in a cell. A word has no sign; a number with a fixed point has one, and is counted in
    steps of 1/256. -/
def amountAt (m : Memory) (start : Nat) : DataType → Int
  | .word width => m.wordAt width start
  | .rational => signed (m.wordAt .four start)

theorem toInt_toInt32 (n : UInt32) : n.toInt32.toInt = signed n.toNat := by
  change n.toBitVec.toInt = _
  rw [BitVec.toInt_eq_toNat_bmod]
  rfl

theorem exists_fixedAt (fits : address.toNat + 4 ≤ m.capacity) :
    ∃ x : Fixed, m.loadRational address = .ok x ∧
      x.units = m.amountAt address.toNat .rational := by
  have room : address.toNat + Width.four.bytes ≤ m.capacity := fits
  obtain ⟨word, loaded, here⟩ := exists_wordAt room
  obtain ⟨-, bits⟩ := loadUnsigned_eq_ok.mp loaded
  refine ⟨_, loadRational_eq_ok.mpr ⟨fits, rfl⟩, ?_⟩
  rw [← bits, amountAt, ← here, ← toInt_toInt32]
  rfl

theorem compare_natCast (a b : Nat) : compare (a : Int) (b : Int) = compare a b := by
  simp only [compare, compareOfLessAndEq, Int.ofNat_lt, Int.ofNat_inj]

theorem compareCells_exact {R : Type} [Rational R] (kind : Exact R type)
    (destFits : dest.toNat + type.bytes ≤ m.capacity)
    (sourceFits : source.toNat + type.bytes ≤ m.capacity) :
    m.compareCells R type dest source =
      .ok (compare (m.amountAt dest.toNat type) (m.amountAt source.toNat type)) := by
  cases kind with
  | word width =>
    rw [compareCells_words destFits sourceFits, amountAt, amountAt, compare_natCast]
  | fixed =>
    obtain ⟨x, loaded, here⟩ := exists_fixedAt destFits
    obtain ⟨y, loadedToo, there⟩ := exists_fixedAt sourceFits
    rw [compareCells, loaded, except_ok_bind, loadedToo, except_ok_bind, ← here, ← there]
    rfl

end Memory

namespace Machine
variable {R : Type} {m n k : Machine R} {type : DataType} {order first second : Ordering}

structure AtComparison (m : Machine R) (type : DataType) : Prop where
  running : m.isHalted = false
  here : m.opcode? = some .compare
  typed : m.selector.dataType? = some type
  whole : m.cellsEnd type.bytes + 6 ≤ m.memory.capacity
  destFits : m.destCell + type.bytes ≤ m.memory.capacity
  sourceFits : m.sourceCell + type.bytes ≤ m.memory.capacity

def destAmount (m : Machine R) (type : DataType) : Int := m.memory.amountAt m.destCell type

def sourceAmount (m : Machine R) (type : DataType) : Int := m.memory.amountAt m.sourceCell type

def branchTarget (m : Machine R) (type : DataType) (order : Ordering) : UInt16 :=
  UInt16.ofNat (m.memory.addressAt (m.cellsEnd type.bytes + branchPlace order))

variable [Rational R] {clock : Clock}

theorem goesTo_branchTarget (clock : Clock) (kind : Exact R type) (ready : m.AtComparison type) :
    m.GoesTo clock (m.branchTarget type (compare (m.destAmount type) (m.sourceAmount type))) := by
  have destFits := ready.destFits
  have sourceFits := ready.sourceFits
  have ordered : ∀ dest source : UInt16, dest.toNat = m.started.destCell →
      source.toNat = m.started.sourceCell → m.started.memory.compareCells R type dest source =
        .ok (compare (m.destAmount type) (m.sourceAmount type)) := by
    intro dest source destPlace sourcePlace
    have destHere : dest.toNat = m.destCell := destPlace
    have sourceHere : source.toNat = m.sourceCell := sourcePlace
    rw [← destHere] at destFits
    rw [← sourceHere] at sourceFits
    rw [destAmount, sourceAmount, ← destHere, ← sourceHere]
    exact Memory.compareCells_exact kind destFits sourceFits
  obtain ⟨target, place, run⟩ :=
    execute_branch (m := m.started) clock ready.typed ready.whole ordered
  have same : m.branchTarget type (compare (m.destAmount type) (m.sourceAmount type)) = target := by
    rw [← UInt16.ofNat_toNat (x := target), place]
    rfl
  rw [same]
  exact step_of_execute ready.running ready.here run

/-- The step takes one of the three addresses and, as they differ, none of the others. -/
def Takes (m : Machine R) (clock : Clock) (type : DataType) (order : Ordering) : Prop :=
  m.GoesTo clock (m.branchTarget type order) ∧
    ∀ other, m.branchTarget type other = m.branchTarget type order → other = order

theorem GoesTo.unique {target other : UInt16} (goes : m.GoesTo clock target)
    (too : m.GoesTo clock other) : target = other := by
  unfold GoesTo at goes too
  rw [goes] at too
  injection too with _ same
  exact congrArg Machine.pc same

theorem order_of_takes (kind : Exact R type) (ready : m.AtComparison type)
    (taken : m.Takes clock type order) :
    compare (m.destAmount type) (m.sourceAmount type) = order := by
  apply taken.2
  exact (goesTo_branchTarget clock kind ready).unique taken.1

/-- The cells of one comparison are those of the other, the other way round. -/
structure Mirrors (n m : Machine R) (type : DataType) : Prop where
  dest : n.destAmount type = m.sourceAmount type
  source : n.sourceAmount type = m.destAmount type

/-- One comparison is of what the first and the last cell of two others hold, which have the cell
    between in common. -/
structure Spans (k m n : Machine R) (type : DataType) : Prop where
  first : k.destAmount type = m.destAmount type
  between : m.sourceAmount type = n.destAmount type
  last : k.sourceAmount type = n.sourceAmount type

/-- One of two branches is not the way back from the other. -/
def Aligned (first second : Ordering) : Prop := first = second ∨ first = .eq ∨ second = .eq

theorem compare_then {a b c : Int} (aligned : Aligned (compare a b) (compare b c)) :
    compare a c = (compare a b).then (compare b c) := by
  rcases Int.lt_trichotomy a b with less | same | greater
  · rw [Int.compare_eq_lt.mpr less] at aligned ⊢
    have notBack : ¬ c < b := by
      intro back
      rw [Int.compare_eq_gt.mpr back] at aligned
      simp [Aligned] at aligned
    exact Int.compare_eq_lt.mpr (by omega)
  · rw [same, Int.compare_eq_eq.mpr rfl]
    rfl
  · rw [Int.compare_eq_gt.mpr greater] at aligned ⊢
    have notBack : ¬ b < c := by
      intro back
      rw [Int.compare_eq_lt.mpr back] at aligned
      simp [Aligned] at aligned
    exact Int.compare_eq_gt.mpr (by omega)

structure BranchesTruly (m : Machine R) (clock : Clock) (type : DataType) : Prop where
  less : m.destAmount type < m.sourceAmount type → m.GoesTo clock (m.branchTarget type .lt)
  equal : m.destAmount type = m.sourceAmount type → m.GoesTo clock (m.branchTarget type .eq)
  greater : m.sourceAmount type < m.destAmount type → m.GoesTo clock (m.branchTarget type .gt)
  swapped : ∀ n : Machine R, n.AtComparison type → n.Mirrors m type →
    ∀ order, m.Takes clock type order → ∀ now, n.GoesTo now (n.branchTarget type order.swap)
  chained : ∀ n k : Machine R, n.AtComparison type → k.AtComparison type → k.Spans m n type →
    ∀ first second now, m.Takes clock type first → n.Takes now type second →
      Aligned first second → ∀ later, k.GoesTo later (k.branchTarget type (first.then second))

theorem compare_branches_truly (m : Machine R) (clock : Clock) (type : DataType)
    (kind : Exact R type) (ready : m.AtComparison type) : m.BranchesTruly clock type := by
  have goes := goesTo_branchTarget clock kind ready
  constructor
  case less =>
    intro less
    rwa [Int.compare_eq_lt.mpr less] at goes
  case equal =>
    intro same
    rwa [Int.compare_eq_eq.mpr same] at goes
  case greater =>
    intro greater
    rwa [Int.compare_eq_gt.mpr greater] at goes
  case swapped =>
    intro n readyToo mirrors order taken now
    have told := order_of_takes kind ready taken
    have goesToo := goesTo_branchTarget now kind readyToo
    rwa [mirrors.dest, mirrors.source, ← Int.compare_swap, told] at goesToo
  case chained =>
    intro n k readyN readyK spans first second now takenFirst takenSecond aligned later
    have one := order_of_takes kind ready takenFirst
    have two := order_of_takes kind readyN takenSecond
    have goesThird := goesTo_branchTarget later kind readyK
    rw [spans.between] at one
    rw [← one, ← two] at aligned
    rwa [spans.first, spans.last, compare_then aligned, one, two] at goesThird

/-- Compares a cell that begins in the operand and ends in the first address with the operand, which
    is the negative number -128. -/
def againstItself : Machine Fixed := filled
  [0x52, 0x03, 0x06, 0x00, 0x00, 0x80, 0xFF, 0xFF, 0x40, 0x00, 0x50, 0x00, 0x60, 0x00]

def againstOther : Machine Fixed := filled
  [0x52, 0x02, 0x0C, 0x00, 0x10, 0x00, 0x40, 0x00, 0x50, 0x00, 0x60, 0x00,
    0x00, 0x80, 0xFF, 0xFF, 0xFF, 0xFF, 0x40, 0x00]

theorem compare_branches_truly_mirrored :
    againstItself.AtComparison .rational ∧ againstOther.AtComparison .rational ∧
      againstItself.GoesTo ⟨0⟩ 0x60 ∧ againstOther.GoesTo ⟨0⟩ 0x40 := by
  have ready : againstItself.AtComparison .rational :=
    ⟨by rfl, by rfl, by rfl, by decide, by decide, by decide⟩
  have readyToo : againstOther.AtComparison .rational := by
    constructor <;> decide +kernel
  have truly := compare_branches_truly againstItself ⟨0⟩ .rational .fixed ready
  have third := truly.greater (by decide)
  have taken : againstItself.Takes ⟨0⟩ .rational .gt := by
    refine ⟨third, ?_⟩
    intro other
    cases other <;> decide
  have mirrors : againstOther.Mirrors againstItself .rational := by
    constructor <;> decide +kernel
  have first := truly.swapped againstOther readyToo mirrors .gt taken ⟨0⟩
  have place : againstOther.branchTarget .rational .lt = 0x40 := by decide +kernel
  rw [Ordering.swap_gt, place] at first
  exact ⟨ready, readyToo, third, first⟩

end Machine
end ControlMachine
