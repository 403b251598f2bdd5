import Mathlib.Data.List.Forall2
import ControlMachine.Proofs.MemoryPart
import ControlMachine.Proofs.Outline

/- A machine next to one with the same registers and more memory. As long as the first stays within its
   memory, both do the same. -/
namespace ControlMachine

namespace Machine
open Fetch

/-- The wider machine is the same but for its memory, which starts with the bytes of the other one. -/
structure PartOf {R : Type} (m wide : Machine R) : Prop where
  memory : m.memory.PartOf wide.memory
  mappings : wide.store.mappings = m.store.mappings
  bank : wide.bank = m.bank
  stack : wide.stack = m.stack
  pc : wide.pc = m.pc
  flags : wide.flags = m.flags
  status : wide.status = m.status

variable {R : Type} {m wide : Machine R}

/-- The same answer or fault, left by machines of which the second has the wider memory. -/
structure Alongside (size : Nat) (x y : Outcome (Machine R) Unit) : Prop where
  answer : y.answer = x.answer
  size : x.state.memory.capacity = size
  state : x.state.PartOf y.state

theorem withMemory_partOf (part : m.PartOf wide) {memory larger : Memory}
    (within : memory.PartOf larger) : (m.withMemory memory).PartOf (wide.withMemory larger) :=
  { part with memory := within }

theorem withMappings_partOf (part : m.PartOf wide) (mappings : MappingTable) :
    (m.withMappings mappings).PartOf (wide.withMappings mappings) :=
  { part with mappings := rfl }

theorem withBank_partOf (part : m.PartOf wide) (bank : Bank R) :
    ({ m with bank := bank } : Machine R).PartOf { wide with bank := bank } :=
  { part with bank := rfl }

theorem haltedBy_partOf (part : m.PartOf wide) (fault : Fault) :
    (m.haltedBy fault).PartOf (wide.haltedBy fault) :=
  { part with
    flags := by rw [haltedBy, haltedBy, part.flags]
    status := by rw [haltedBy, haltedBy, part.status] }

theorem read_follows {α : Type} {rel : α → α → Prop} {act shown : Fetch α} (part : m.PartOf wide)
    (reads : Fetch.Follows rel act shown) :
    Outcome.Follows Eq rel (act (m.pc + 1)) (shown (wide.pc + 1)) := by
  rw [part.pc]
  exact reads (m.pc + 1)

theorem changing_follows {α : Type} {rel : α → α → Prop} {put put' : α → Machine R}
    {act shown : Fetch α} (part : m.PartOf wide) (reads : Fetch.Follows rel act shown)
    (placed : ∀ a b, rel a b → (put a).PartOf (put' b)) :
    Outcome.Follows PartOf Eq (m.changing put act) (wide.changing put' shown) := by
  have read := read_follows part reads
  unfold changing
  generalize act (m.pc + 1) = x, shown (wide.pc + 1) = y at read ⊢
  cases read with
  | ok next related => exact .ok (placed _ _ related) next
  | error same fault => exact .error part fault
  | outside reached => exact .outside reached m _

theorem changingMemory_follows {act shown : Fetch Memory} (part : m.PartOf wide)
    (reads : Fetch.Follows Memory.PartOf act shown) :
    Outcome.Follows PartOf Eq (m.changingMemory act) (wide.changingMemory shown) := by
  rw [changingMemory_eq, changingMemory_eq]
  exact changing_follows part reads fun _ _ within => withMemory_partOf part within

theorem changingMappings_follows {act shown : Fetch MappingTable} (part : m.PartOf wide)
    (reads : Fetch.Follows Eq act shown) :
    Outcome.Follows PartOf Eq (m.changingMappings act) (wide.changingMappings shown) := by
  rw [changingMappings_eq, changingMappings_eq]
  apply changing_follows part reads
  rintro mappings _ rfl
  exact withMappings_partOf part mappings

theorem changingBank_follows {act shown : Fetch (Bank R)} (part : m.PartOf wide)
    (reads : Fetch.Follows Eq act shown) :
    Outcome.Follows PartOf Eq (m.changingBank act) (wide.changingBank shown) := by
  rw [changingBank_eq, changingBank_eq]
  apply changing_follows part reads
  rintro bank _ rfl
  exact withBank_partOf part bank

theorem branching_follows {act shown : Fetch (UInt16 × CallStack)} (part : m.PartOf wide)
    (reads : Fetch.Follows Eq act shown) :
    Outcome.Follows PartOf Eq (m.branching act) (wide.branching shown) := by
  have read := read_follows part reads
  unfold branching
  generalize act (m.pc + 1) = x, shown (wide.pc + 1) = y at read ⊢
  cases read with
  | ok next same =>
    cases same
    exact .ok { part with stack := rfl } rfl
  | error same fault => exact .error part fault
  | outside reached => exact .outside reached m _

theorem checkMapping_follows (part : m.PartOf wide) :
    Outcome.Follows PartOf Eq m.checkMapping wide.checkMapping := by
  have header : Fetch.Follows Eq m.pollHeader wide.pollHeader :=
    (selector_follows (Memory.load_follows part.memory)).bind_same fun s =>
      (address_follows (Memory.load_follows part.memory)).bind_same fun dest => .refl _
  have read := read_follows part header
  unfold checkMapping
  dsimp only
  rw [← pollHeader, ← pollHeader]
  generalize m.pollHeader (m.pc + 1) = x, wide.pollHeader (wide.pc + 1) = y at read ⊢
  cases read with
  | @ok pair _ next _ same related =>
    subst same
    subst related
    dsimp only
    -- the polls see the same table, and only the store of the status can tell the memories apart
    rw [part.mappings]
    cases m.store.mappings.check pair.1 true with
    | error fault => exact .error part fault
    | ok polled =>
      have kept := withMappings_partOf part polled.2
      have stored := Memory.store_follows part.memory pair.2 polled.1
      dsimp only
      generalize m.memory.store pair.2 polled.1 = x, wide.memory.store pair.2 polled.1 = y
        at stored ⊢
      cases stored with
      | ok within => exact .ok (withMemory_partOf kept within) rfl
      | error fault => exact .error kept fault
      | outside reached => exact .outside reached _ _
  | error same fault => exact .error part fault
  | outside reached => exact .outside reached m _

theorem conclude_follows {x y : Outcome (Machine R) UInt16}
    (alike : Outcome.Follows PartOf Eq x y) :
    Outcome.Follows PartOf Eq (conclude x) (conclude y) := by
  cases alike with
  | ok part same => exact .ok { part with pc := same.symm } rfl
  | error part fault => exact .error (haltedBy_partOf part fault) fault
  | outside reached left => exact .outside reached _ _

theorem alongside_of_follows {x y : Outcome (Machine R) Unit} {size : Nat}
    (alike : Outcome.Follows PartOf Eq x y) (kept : x.state.memory.capacity = size)
    (inside : x.isOutside = false) : Alongside size x y := by
  cases alike with
  | ok part same => exact ⟨rfl, kept, part⟩
  | error part fault => exact ⟨rfl, kept, part⟩
  | outside reached =>
    rw [Outcome.isOutside, reached] at inside
    cases inside

variable [Rational R]

theorem changeMode_follows (part : m.PartOf wide) (mode : Mode) :
    Outcome.Follows PartOf Eq (m.changeMode mode) (wide.changeMode mode) := by
  have read := read_follows part (selector_follows (Memory.load_follows part.memory))
  unfold changeMode
  rw [← code, ← code] at read
  generalize selector m.code (m.pc + 1) = x, selector wide.code (wide.pc + 1) = y at read ⊢
  cases read with
  | @ok s _ next _ same related =>
    subst same
    subst related
    have set := Bank.setMode_follows m.bank s.id part.memory mode
    dsimp only
    rw [part.bank]
    generalize m.bank.setMode s.id m.memory mode = x, m.bank.setMode s.id wide.memory mode = y
      at set ⊢
    cases set with
    | ok same =>
      subst same
      exact .ok (withBank_partOf part _) rfl
    | error same fault =>
      subst same
      exact .error (withBank_partOf part _) fault
    | outside reached => exact .outside reached _ _
  | error same fault => exact .error part fault
  | outside reached => exact .outside reached m _

theorem storeElements_follows {memory larger : Memory} (part : memory.PartOf larger)
    (type : DataType) (s : Selector) (count target : Nat) (pc : UInt16) :
    Outcome.Follows (fun x y => x.1.PartOf y.1 ∧ x.2 = y.2) Eq
      (storeElements R type s count target memory pc)
      (storeElements R type s count target larger pc) := by
  induction count generalizing target memory larger pc with
  | zero => exact .ok ⟨part, rfl⟩ rfl
  | succ count ih =>
    have read := operand_follows (Memory.load_follows part) s type.bytes pc
    rw [storeElements, storeElements]
    generalize operand memory.load s type.bytes pc = x, operand larger.load s type.bytes pc = y
      at read ⊢
    cases read with
    | @ok source _ next _ same related =>
      subst same
      subst related
      dsimp only
      by_cases reach : target ≤ 0xFFFF
      · have moved := Memory.move_follows R part type (UInt16.ofNat target) source
        rw [if_pos reach, if_pos reach]
        generalize memory.move R type (UInt16.ofNat target) source = x,
          larger.move R type (UInt16.ofNat target) source = y at moved ⊢
        cases moved with
        | ok within => exact ih within (target + type.bytes) next
        | error fault => exact .error ⟨part, rfl⟩ fault
        | outside reached => exact .outside reached _ _
      · rw [if_neg reach, if_neg reach]
        exact .outside rfl _ _
    | error same fault => exact .error ⟨part, same⟩ fault
    | outside reached => exact .outside reached _ _

theorem multiload_follows (part : m.PartOf wide) :
    Outcome.Follows PartOf Eq m.multiload wide.multiload := by
  have follows := Memory.load_follows part.memory
  have header : Fetch.Follows Eq m.elementsHeader wide.elementsHeader := by
    apply (selector_follows follows).bind_same
    intro s
    apply (Fetch.Follows.refl (lift (Opcode.multiload.dataType s))).bind_same
    intro type
    exact (address_follows follows).bind_same fun dest =>
      (byte_follows follows).bind_same fun count => .refl _
  have read := read_follows part header
  unfold multiload
  dsimp only
  rw [← elementsHeader, ← elementsHeader]
  generalize m.elementsHeader (m.pc + 1) = x, wide.elementsHeader (wide.pc + 1) = y at read ⊢
  cases read with
  | @ok fields _ next _ same related =>
    subst same
    subst related
    obtain ⟨s, type, dest, count⟩ := fields
    have stored := storeElements_follows (R := R) part.memory type s count.toNat dest.toNat next
    dsimp only
    generalize storeElements R type s count.toNat dest.toNat m.memory next = x,
      storeElements R type s count.toNat dest.toNat wide.memory next = y at stored ⊢
    cases stored with
    | ok kept => exact .ok (withMemory_partOf part kept.1) kept.2
    | error kept fault => exact .error (withMemory_partOf part kept.1) fault
    | outside reached => exact .outside reached _ _
  | error same fault => exact .error part fault
  | outside reached => exact .outside reached m _

theorem inlineNumber_follows {memory larger : Memory} (part : memory.PartOf larger) :
    Fetch.Follows Eq (inlineNumber memory : Fetch R) (inlineNumber larger) :=
  (Fetch.Follows.refl (literal 4)).bind_same fun place =>
    .lift (Memory.loadRational_follows R part place)

theorem pidSettings_follows {memory larger : Memory} (part : memory.PartOf larger) :
    Fetch.Follows Eq (pidSettings memory : Fetch (PidSettings R)) (pidSettings larger) := by
  have follows := Memory.load_follows part
  apply (address_follows follows).bind_same
  intro input
  apply (address_follows follows).bind_same
  intro output
  apply (address_follows follows).bind_same
  intro setpoint
  apply (inlineNumber_follows part).bind_same
  intro kp
  apply (inlineNumber_follows part).bind_same
  intro ki
  apply (inlineNumber_follows part).bind_same
  intro kd
  apply (unsigned_follows follows).bind_same
  intro sampleMs
  apply (inlineNumber_follows part).bind_same
  intro lower
  apply (inlineNumber_follows part).bind_same
  intro upper
  exact (byte_follows follows).bind_same fun direction => .refl _

theorem initController_follows (part : m.PartOf wide) (clock : Clock) :
    Outcome.Follows PartOf Eq (m.initController clock) (wide.initController clock) := by
  have header : Fetch.Follows Eq m.initHeader wide.initHeader := by
    apply (selector_follows (Memory.load_follows part.memory)).bind_same
    intro s
    rw [part.bank]
    apply (Fetch.Follows.refl _).bind_same
    intro c
    exact (pidSettings_follows part.memory).bind_same fun settings => .refl _
  have read := read_follows part header
  unfold initController
  generalize m.initHeader (m.pc + 1) = x, wide.initHeader (wide.pc + 1) = y at read ⊢
  cases read with
  | @ok pair _ next _ same related =>
    subst same
    subst related
    dsimp only
    -- each memory comes back as it was given
    rw [Bank.init_eq, Bank.init_eq, part.mappings, part.bank]
    cases m.bank.controller pair.1 with
    | error fault => exact .error (withBank_partOf part m.bank) fault
    | ok c =>
      dsimp only
      cases c.initialized with
      | true => exact .error (withBank_partOf part m.bank) _
      | false => exact .ok (withBank_partOf part _) rfl
  | error same fault => exact .error part fault
  | outside reached => exact .outside reached m _

theorem cells_follows {code wider : Code} (follows : code.FollowedBy wider) (s : Selector)
    (width : Nat) : Fetch.Follows Eq (cells code s width) (cells wider s width) :=
  (address_follows follows).bind_same fun _ =>
    (operand_follows follows s width).bind_same fun _ => .refl _

theorem typed_follows {code wider : Code} (follows : code.FollowedBy wider) {kind β γ : Type}
    {rel : β → γ → Prop} (check : Selector → Except Fault kind) (size : kind → Nat)
    {f : kind → UInt16 × UInt16 → Fetch β} {g : kind → UInt16 × UInt16 → Fetch γ}
    (rest : ∀ type both, Fetch.Follows rel (f type both) (g type both)) :
    Fetch.Follows rel
      (do
        let s ← selector code
        let type ← lift (check s)
        f type (← cells code s (size type)))
      (do
        let s ← selector wider
        let type ← lift (check s)
        g type (← cells wider s (size type))) := by
  apply (selector_follows follows).bind_same
  intro s
  apply (Fetch.Follows.refl (lift (check s))).bind_same
  intro type
  exact (cells_follows follows s (size type)).bind_same (rest type)

theorem textAddress_follows {code wider : Code} (follows : code.FollowedBy wider)
    (literal : Bool) : Fetch.Follows Eq (textAddress code literal) (textAddress wider literal) := by
  cases literal with
  | true => exact string_follows follows
  | false => exact address_follows follows

theorem execute_follows (part : m.PartOf wide) (clock : Clock) (op : Opcode) :
    Outcome.Follows PartOf Eq (m.execute clock op) (wide.execute clock op) := by
  have follows : Code.FollowedBy m.code wide.code := Memory.load_follows part.memory
  cases op with
  | halt => exact .ok { part with flags := by rw [part.flags] } part.pc.symm
  | arithmetic a =>
    apply changingMemory_follows part
    apply typed_follows follows _ DataType.bytes
    intro type both
    exact .lift (Memory.arithmetic_follows R part.memory a type both.1 both.2)
  | bitwise b =>
    apply changingMemory_follows part
    apply typed_follows follows _ Width.bytes
    intro width both
    exact .lift (Memory.bitwise_follows part.memory b width both.1 both.2)
  | not =>
    apply changingMemory_follows part
    apply (selector_follows follows).bind_same
    intro s
    apply (Fetch.Follows.refl _).bind_same
    intro width
    apply (address_follows follows).bind_same
    intro dest
    exact .lift (Memory.complement_follows part.memory width dest)
  | load =>
    apply changingMemory_follows part
    apply typed_follows follows _ DataType.bytes
    intro type both
    exact .lift (Memory.move_follows R part.memory type both.1 both.2)
  | multiload => exact multiload_follows part
  | push | pop => exact .error part _
  | copy =>
    apply changingMemory_follows part
    apply (address_follows follows).bind_same
    intro source
    apply (byte_follows follows).bind_same
    intro length
    apply (address_follows follows).bind_same
    intro dest
    exact .lift (Memory.copy_follows part.memory source length dest)
  | jump =>
    apply branching_follows part
    rw [part.stack]
    apply (selector_follows follows).bind_same
    intro s
    apply (operand_follows follows s 2).bind_same
    intro place
    exact (Fetch.Follows.lift (Memory.loadAddress_follows part.memory place)).bind_same
      fun target => .refl _
  | compare =>
    apply branching_follows part
    rw [part.stack]
    apply typed_follows follows _ DataType.bytes
    intro type both
    apply (Fetch.Follows.lift
      (Memory.compareCells_follows R part.memory type both.1 both.2)).bind_same
    intro order
    apply (address_follows follows).bind_same
    intro less
    apply (address_follows follows).bind_same
    intro equal
    exact (address_follows follows).bind_same fun greater => .refl _
  | call =>
    apply branching_follows part
    rw [part.stack]
    exact (address_follows follows).bind_same fun target => .refl _
  | ret =>
    apply branching_follows part
    rw [part.stack]
    exact .refl _
  | time =>
    apply changingMemory_follows part
    apply (address_follows follows).bind_same
    intro dest
    exact .lift (Memory.write_follows part.memory .storeUnsigned dest _)
  | compareTime =>
    apply branching_follows part
    rw [part.stack]
    apply (address_follows follows).bind_same
    intro stamp
    apply (unsigned_follows follows).bind_same
    intro timeoutMs
    apply (address_follows follows).bind_same
    intro expired
    apply (address_follows follows).bind_same
    intro pending
    exact (Fetch.Follows.lift (Memory.loadUnsigned_follows part.memory stamp)).bind_same
      fun since => .refl _
  | urlMap =>
    apply changingMappings_follows part
    rw [part.mappings]
    apply (selector_follows follows).bind_same
    intro s
    apply (byte_follows follows).bind_same
    intro options
    apply (address_follows follows).bind_same
    intro value
    apply (address_follows follows).bind_same
    intro port
    apply (textAddress_follows follows _).bind_same
    intro url
    exact (textAddress_follows follows _).bind_same fun resource => .refl _
  | urlMapCheck => exact checkMapping_follows part
  | urlMapDelete =>
    apply changingMappings_follows part
    rw [part.mappings]
    exact (selector_follows follows).bind_same fun s => .refl _
  | pidInit => exact initController_follows part clock
  | pidClear =>
    apply changingBank_follows part
    rw [part.bank]
    exact (selector_follows follows).bind_same fun s => .refl _
  | pidStop | pidRun => exact changeMode_follows part _
  | reset =>
    refine .error ?_ .resetRequested
    exact {
      memory := Memory.clear_partOf part.memory
      mappings := congrArg MappingTable.clear part.mappings
      bank := by rw [part.bank]
      stack := by rw [part.stack]
      pc := part.pc
      flags := part.flags
      status := part.status }

theorem step_follows (part : m.PartOf wide) (clock : Clock) :
    Outcome.Follows PartOf Eq (m.step clock) (wide.step clock) := by
  have fetched : Follows Eq (m.memory.load m.pc) (wide.memory.load wide.pc) := by
    rw [part.pc]
    exact Memory.load_follows part.memory m.pc
  have halted : wide.isHalted = m.isHalted := by rw [isHalted, isHalted, part.flags]
  have begun : ∀ b, ({ m with status := ⟨m.pc, b, 0⟩ } : Machine R).PartOf
      { wide with status := ⟨wide.pc, b, 0⟩ } :=
    fun b => { part with status := by rw [part.pc] }
  unfold step
  rw [halted]
  cases m.isHalted with
  | true => exact .ok part rfl
  | false =>
    simp only [Bool.false_eq_true, if_false]
    generalize m.memory.load m.pc = x, wide.memory.load wide.pc = y at fetched ⊢
    cases fetched with
    | @ok b _ same =>
      subst same
      dsimp only
      cases Opcode.ofByte? b with
      | none => exact .error (haltedBy_partOf (begun b) _) _
      | some op => exact conclude_follows (execute_follows (begun b) clock op)
    | error fault => exact .error (haltedBy_partOf (begun 0) fault) fault
    | outside reached => exact .outside reached _ _

def outcomes (m : Machine R) : List Clock → List (Outcome (Machine R) Unit)
  | [] => []
  | clock :: clocks => m.step clock :: outcomes (m.step clock).state clocks

/-- However many steps are taken, they turn out the same in a larger memory, if none of them reaches
    outside the smaller one. -/
theorem same_in_larger_memory (m wide : Machine R) (clocks : List Clock) (part : m.PartOf wide)
    (inside : ∀ outcome ∈ m.outcomes clocks, outcome.isOutside = false) :
    List.Forall₂ (Alongside m.memory.capacity) (m.outcomes clocks) (wide.outcomes clocks) := by
  -- the size is that of the first machine, which the induction leaves behind
  generalize kept : m.memory.capacity = size
  induction clocks generalizing m wide with
  | nil => exact .nil
  | cons clock clocks ih =>
    rw [outcomes] at inside
    obtain ⟨now, later⟩ := List.forall_mem_cons.mp inside
    have still : (m.step clock).state.memory.capacity = size :=
      (congrArg Sizes.memory (step_sizes m clock)).trans kept
    have first := alongside_of_follows (step_follows part clock) still now
    exact .cons first (ih _ _ first.state later still)

def dividing : List UInt8 :=
  [0x01, 0x05, 0x0C, 0x00, 0x05, 0x04, 0x05, 0x0C, 0x00, 0x00, 0x00, 0x00, 0x07]

theorem same_in_larger_memory_dividing :
    (filled dividing).PartOf (filled (dividing ++ [0xFF, 0x01])) ∧
      ((filled dividing).outcomes [⟨0⟩, ⟨1⟩, ⟨2⟩]).map Outcome.answer =
        [.ok (), .error .divideByZero, .ok ()] ∧
      List.Forall₂ (Alongside 13) ((filled dividing).outcomes [⟨0⟩, ⟨1⟩, ⟨2⟩])
        ((filled (dividing ++ [0xFF, 0x01])).outcomes [⟨0⟩, ⟨1⟩, ⟨2⟩]) := by
  have part : (filled dividing).PartOf (filled (dividing ++ [0xFF, 0x01])) := by
    refine ⟨⟨by decide, by decide +kernel⟩, rfl, rfl, rfl, rfl, rfl, rfl⟩
  refine ⟨part, by decide +kernel, ?_⟩
  apply same_in_larger_memory _ _ _ part
  decide +kernel

end Machine
end ControlMachine
