import ControlMachine.Proofs.Effects
import ControlMachine.Proofs.MemoryInPlace
import ControlMachine.Proofs.SlotStatus

/- Instructions worked out on the machine itself, field after field and change after change, and the
   same as those that give back a new machine. What an instruction leaves behind when it faults is
   then what it had done by that time. -/
namespace ControlMachine
open InPlace

namespace MappingTable

def updateInPlace (id : UInt8) (f : Mapping → Mapping) : InPlace Fault MappingTable Unit := do
  let mapping ← lookUp fun t => t.slot id
  modify fun t => t.set id (f mapping)

def checkInPlace (id : UInt8) (release : Bool) : InPlace Fault MappingTable UInt8 := do
  let mapping ← lookUp fun t => t.slot id
  if mapping.isActive then
    if release && mapping.isCleanDone && mapping.isOnce then
      modify fun t => t.set id .unmapped
    return mapping.status
  else return 0

theorem updateInPlace_eq (t : MappingTable) (id : UInt8) (f : Mapping → Mapping) :
    updateInPlace id f t = changed t (t.update id f) :=
  lookUp_bind_changed fun _ => rfl

theorem checkInPlace_eq (t : MappingTable) (id : UInt8) (release : Bool) :
    checkInPlace id release t = allOrNothing t (t.check id release) := by
  rw [checkInPlace, lookUp_bind, check]
  cases read : t.slot id with
  | error fault => rfl
  | ok mapping =>
    have kept : t.set id mapping = t := set_self (slot_eq_ok.mp read)
    simp only [bind, Except.bind, Mapping.poll]
    cases mapping.isActive with
    | false => simp [kept, allOrNothing, pure, EStateM.pure, Except.pure]
    | true =>
      cases used : release && mapping.isCleanDone && mapping.isOnce with
      | false => simp [kept, allOrNothing, pure, EStateM.pure, Except.pure]
      | true => rfl

end MappingTable

namespace CallStack

def pushInPlace (address : UInt16) : InPlace Fault CallStack Unit := do
  let s ← get
  if s.isFull then throw (.stackOverflow s.capacity)
  modify fun s => ⟨address :: s.live, s.spare.tail⟩

def popInPlace : InPlace Fault CallStack UInt16 := do
  let top ← lookUp peek
  modify fun s => ⟨s.live.tail, top :: s.spare⟩
  return top

theorem pushInPlace_eq (s : CallStack) (address : UInt16) :
    pushInPlace address s = changed s (s.push address) := by
  obtain ⟨live, spare⟩ := s
  cases spare with
  | nil => rfl
  | cons slot spare => rfl

theorem popInPlace_eq (s : CallStack) : popInPlace s = allOrNothing s s.pop := by
  obtain ⟨live, spare⟩ := s
  cases live with
  | nil => rfl
  | cons top live => rfl

end CallStack

namespace Bank
variable {R : Type}

def updateInPlace (id : UInt8) (f : Controller R → Controller R) :
    InPlace Fault (Bank R) Unit := do
  let c ← lookUp fun b => b.controller id
  modify fun b => b.set id (f c)

theorem updateInPlace_eq (b : Bank R) (id : UInt8) (f : Controller R → Controller R) :
    updateInPlace id f b = changed b (b.update id f) :=
  lookUp_bind_changed fun _ => rfl

end Bank

/-- A machine at work on an instruction, and its first byte that is not yet read. -/
structure Executing (R : Type) where
  machine : Machine R
  cursor : UInt16

abbrev Working (R : Type) := InPlace Fault (Executing R)

namespace Working
open Fetch
variable {R α β τ : Type}

def reading (fields : Machine R → Fetch α) : Working R α := fun s =>
  Outcome.mapState (fun next => { s with cursor := next }) (fields s.machine s.cursor)

def cursor : Working R UInt16 := return (← get).cursor

def onPart (part : Machine R → τ) (put : Machine R → τ → Machine R) (work : InPlace Fault τ α) :
    Working R α :=
  within (fun s => part s.machine) (fun s changed => { s with machine := put s.machine changed })
    work

def onMemory (work : InPlace Fault Memory α) : Working R α :=
  onPart Machine.memory Machine.withMemory work

def onMappings (work : InPlace Fault MappingTable α) : Working R α :=
  onPart (fun m => m.store.mappings) Machine.withMappings work

def onStack (work : InPlace Fault CallStack α) : Working R α :=
  onPart Machine.stack (fun m stack => { m with stack := stack }) work

def onBank (work : InPlace Fault (Bank R) α) : Working R α :=
  onPart Machine.bank (fun m bank => { m with bank := bank }) work

/-- Reading on from `pc` and acting on the machine go together with an act that gives the new part
    only: they end at the same place, and after a fault the machine is the old one. -/
def Performs (m : Machine R) (work : Working R β) (act : Fetch α) (answer : α → UInt16 → β)
    (put : α → Machine R) : Prop :=
  ∀ pc, work ⟨m, pc⟩ = match act pc with
    | .ok a next => .ok (answer a next) ⟨put a, next⟩
    | .error fault last => .error fault ⟨m, last⟩

variable {m : Machine R} {γ : Type} {answer : α → UInt16 → β} {put : α → Machine R}

theorem reading_bind (fields : Machine R → Fetch γ) (work : γ → Working R β) (pc : UInt16) :
    (reading fields >>= work) ⟨m, pc⟩ = match fields m pc with
      | .ok c next => work c ⟨m, next⟩
      | .error fault last => .error fault ⟨m, last⟩ := by
  simp only [bind, EStateM.bind, reading]
  cases fields m pc <;> rfl

theorem performs_reading {fields : Machine R → Fetch γ} {work : γ → Working R β}
    {act : γ → Fetch α} (rest : ∀ c, Performs m (work c) (act c) answer put) :
    Performs m (reading fields >>= work) (fields m >>= act) answer put := by
  intro pc
  rw [reading_bind]
  simp only [bind, EStateM.bind]
  cases fields m pc with
  | error fault last => rfl
  | ok c next => exact rest c next

theorem performs_look {look : Working R γ} {result : Except Fault γ} {work : γ → Working R β}
    {act : γ → Fetch α} (looks : ∀ pc, look ⟨m, pc⟩ = match result with
      | .ok c => .ok c ⟨m, pc⟩
      | .error fault => .error fault ⟨m, pc⟩)
    (rest : ∀ c, Performs m (work c) (act c) answer put) :
    Performs m (look >>= work) (lift result >>= act) answer put := by
  intro pc
  simp only [bind, EStateM.bind, lift, looks]
  cases result with
  | error fault => rfl
  | ok c => exact rest c pc

theorem performs_value {result : Except Fault γ} {work : γ → Working R β} {act : γ → Fetch α}
    (rest : ∀ c, Performs m (work c) (act c) answer put) :
    Performs m ((lookUp fun _ => result) >>= work) (lift result >>= act) answer put := by
  refine performs_look ?_ rest
  intro pc
  unfold lookUp
  cases result <;> rfl

theorem performs_onMemory {f : Memory → Except Fault γ} {work : γ → Working R β}
    {act : γ → Fetch α} (rest : ∀ c, Performs m (work c) (act c) answer put) :
    Performs m (onMemory (lookUp f) >>= work) (lift (f m.memory) >>= act) answer put := by
  refine performs_look ?_ rest
  intro pc
  unfold onMemory onPart within lookUp
  cases f m.memory <;> rfl

theorem performs_cursor {work : UInt16 → Working R β} {act : UInt16 → Fetch α}
    (rest : ∀ here, Performs m (work here) (act here) answer put) :
    Performs m (cursor >>= work) (get >>= act) answer put :=
  fun pc => rest pc pc

theorem onPart_changed {part : Machine R → τ} {place : Machine R → τ → Machine R}
    {work : InPlace Fault τ Unit} {result : Except Fault τ}
    (same : work (part m) = changed (part m) result) (back : place m (part m) = m) (pc : UInt16) :
    onPart part place work ⟨m, pc⟩ = changed ⟨m, pc⟩ ((⟨place m ·, pc⟩) <$> result) := by
  have kept : (⟨place m (part m), pc⟩ : Executing R) = ⟨m, pc⟩ := by rw [back]
  unfold onPart
  exact within_changed same kept

/-- The last thing done is one change, done as a whole or not at all. -/
theorem performs_change {part : Machine R → τ} {place : Machine R → τ → Machine R}
    {work : InPlace Fault τ Unit} {result : Except Fault τ}
    (same : work (part m) = changed (part m) result) (back : place m (part m) = m) :
    Performs m (onPart part place work >>= fun _ => cursor) (lift result)
      (fun _ next => next) (place m) := by
  intro pc
  simp only [bind, EStateM.bind, onPart_changed same back, lift]
  cases result <;> rfl

theorem performs_push (target back : UInt16) :
    Performs m (onStack (CallStack.pushInPlace back) >>= fun _ => pure target)
      (lift (m.stack.push back) >>= fun stack => pure (target, stack)) (fun branch _ => branch.1)
      fun branch => { m with stack := branch.2 } := by
  intro pc
  have pushed : onStack (CallStack.pushInPlace back) ⟨m, pc⟩ = _ :=
    onPart_changed (CallStack.pushInPlace_eq m.stack back) rfl pc
  simp only [bind, EStateM.bind, pushed, lift]
  cases m.stack.push back <;> rfl

theorem performs_pop :
    Performs m (onStack CallStack.popInPlace) (lift m.stack.pop) (fun branch _ => branch.1)
      fun branch => { m with stack := branch.2 } := by
  intro pc
  simp only [onStack, onPart, within, CallStack.popInPlace_eq, lift]
  cases m.stack.pop <;> rfl

theorem performs_target (target : UInt16) :
    Performs m (pure target) (pure (target, m.stack)) (fun branch _ => branch.1)
      fun branch => { m with stack := branch.2 } :=
  fun _ => rfl

end Working

namespace Machine
open Fetch Working
variable {R : Type}

def setModeInPlace [Rational R] (id : UInt8) (mode : Mode) : Working R Unit := fun s =>
  (s.machine.bank.setMode id s.machine.memory mode).mapState fun bank =>
    { s with machine := { s.machine with bank := bank } }

def initInPlace [Rational R] (id : UInt8) (settings : PidSettings R) (clock : Clock) :
    Working R Unit := fun s =>
  (s.machine.bank.init id s.machine.store settings clock.millis).mapState fun (bank, memory) =>
    { s with machine := { s.machine.withMemory memory with bank := bank } }

def storeElementsInPlace (R : Type) [Rational R] (type : DataType) (s : Selector) :
    Nat → Nat → Working R Unit
  | 0, _ => pure ()
  | count + 1, target => do
    let source ← reading fun m => operand m.code s type.bytes
    if target ≤ 0xFFFF then
      onMemory (Memory.moveInPlace R type (UInt16.ofNat target) source)
      storeElementsInPlace R type s count (target + type.bytes)
    else throw (.accessViolation .multiload target type.bytes)

def performInPlace [Rational R] (clock : Clock) (op : Opcode) : Working R UInt16 :=
  match op with
  | .halt => do
    modify fun s => { s with machine.flags.halted := true }
    return (← get).machine.pc
  | .arithmetic a => do
    let s ← reading fun m => selector m.code
    let type ← lookUp fun _ => op.dataType s
    let (dest, source) ← reading fun m => cells m.code s type.bytes
    onMemory (Memory.arithmeticInPlace R a type dest source)
    cursor
  | .bitwise b => do
    let s ← reading fun m => selector m.code
    let width ← lookUp fun _ => op.wordType s
    let (dest, source) ← reading fun m => cells m.code s width.bytes
    onMemory (Memory.bitwiseInPlace b width dest source)
    cursor
  | .not => do
    let s ← reading fun m => selector m.code
    let width ← lookUp fun _ => op.wordType s
    let dest ← reading fun m => address m.code
    onMemory (Memory.complementInPlace width dest)
    cursor
  | .load => do
    let s ← reading fun m => selector m.code
    let type ← lookUp fun _ => op.dataType s
    let (dest, source) ← reading fun m => cells m.code s type.bytes
    onMemory (Memory.moveInPlace R type dest source)
    cursor
  | .multiload => do
    let (s, type, dest, count) ← reading elementsHeader
    storeElementsInPlace R type s count.toNat dest.toNat
    cursor
  | .push | .pop => throw (.unsupportedOperation op.byte)
  | .copy => do
    let source ← reading fun m => address m.code
    let length ← reading fun m => byte m.code
    let dest ← reading fun m => address m.code
    onMemory (Memory.copyInPlace source length dest)
    cursor
  | .jump => do
    let s ← reading fun m => selector m.code
    let place ← reading fun m => operand m.code s 2
    let target ← onMemory (lookUp fun memory => memory.loadAddress place)
    return target
  | .compare => do
    let s ← reading fun m => selector m.code
    let type ← lookUp fun _ => op.dataType s
    let (dest, source) ← reading fun m => cells m.code s type.bytes
    let order ← onMemory (lookUp fun memory => memory.compareCells R type dest source)
    let less ← reading fun m => address m.code
    let equal ← reading fun m => address m.code
    let greater ← reading fun m => address m.code
    return match order with | .lt => less | .eq => equal | .gt => greater
  | .call => do
    let target ← reading fun m => address m.code
    let back ← cursor
    onStack (CallStack.pushInPlace back)
    return target
  | .ret => onStack CallStack.popInPlace
  | .time => do
    let dest ← reading fun m => address m.code
    onMemory (Memory.storeWordInPlace .four dest clock.micros.toUInt32)
    cursor
  | .compareTime => do
    let stamp ← reading fun m => address m.code
    let timeoutMs ← reading fun m => unsigned m.code
    let expired ← reading fun m => address m.code
    let pending ← reading fun m => address m.code
    let stored ← onMemory (lookUp fun memory => memory.loadUnsigned stamp)
    let elapsed := clock.micros.toUInt32 - stored
    return if timeoutMs.toNat * 1000 ≤ elapsed.toNat then expired else pending
  | .urlMap => do
    let s ← reading fun m => selector m.code
    let options ← reading fun m => byte m.code
    let value ← reading fun m => address m.code
    let port ← reading fun m => address m.code
    let url ← reading fun m => textAddress m.code (Mapping.urlIsLiteral options)
    let resource ← reading fun m => textAddress m.code (Mapping.resourceIsLiteral options)
    onMappings (MappingTable.updateInPlace s.id fun _ =>
      ⟨s.byte, options, value, url, resource, port, 0⟩)
    cursor
  | .urlMapCheck => do
    let (id, dest) ← reading pollHeader
    let status ← onMappings (MappingTable.checkInPlace id true)
    onMemory (Memory.writeInPlace .store dest [status])
    cursor
  | .urlMapDelete => do
    let s ← reading fun m => selector m.code
    onMappings (MappingTable.updateInPlace s.id fun _ => .unmapped)
    cursor
  | .pidInit => do
    let (id, settings) ← reading initHeader
    initInPlace id settings clock
    cursor
  | .pidClear => do
    let s ← reading fun m => selector m.code
    onBank (Bank.updateInPlace s.id Controller.clear)
    cursor
  | .pidStop => do
    let s ← reading fun m => selector m.code
    setModeInPlace s.id .manual
    cursor
  | .pidRun => do
    let s ← reading fun m => selector m.code
    setModeInPlace s.id .automatic
    cursor
  | .reset => do
    modify fun s => { s with machine.store := s.machine.store.clear }
    modify fun s => { s with machine.stack := s.machine.stack.clear }
    modify fun s => { s with machine.bank := s.machine.bank.clearAll }
    throw .resetRequested

def executeInPlace [Rational R] (clock : Clock) (op : Opcode) :
    InPlace Fault (Machine R) UInt16 := fun m =>
  Outcome.mapState Executing.machine (performInPlace clock op ⟨m, m.pc + 1⟩)

variable {m : Machine R} {α β : Type} {work : Working R UInt16}

theorem mapState_changing {put : α → Machine R} {act : Fetch α}
    (performs : Performs m work act (fun _ next => next) put) :
    Outcome.mapState Executing.machine (work ⟨m, m.pc + 1⟩) = m.changing put act := by
  rw [performs, changing]
  cases act (m.pc + 1) <;> rfl

theorem mapState_branching {act : Fetch (UInt16 × CallStack)}
    (performs : Performs m work act (fun branch _ => branch.1)
      fun branch => { m with stack := branch.2 }) :
    Outcome.mapState Executing.machine (work ⟨m, m.pc + 1⟩) = m.branching act := by
  rw [performs, branching]
  cases act (m.pc + 1) <;> rfl

variable [Rational R]

theorem storeElementsInPlace_eq (type : DataType) (s : Selector) (count target : Nat)
    (m : Machine R) (pc : UInt16) :
    storeElementsInPlace R type s count target ⟨m, pc⟩ =
      (storeElements R type s count target m.memory pc).mapState fun both =>
        ⟨m.withMemory both.1, both.2⟩ := by
  induction count generalizing m target pc with
  | zero => rfl
  | succ count ih =>
    simp only [storeElementsInPlace, storeElements, bind, EStateM.bind, reading, code]
    cases operand m.memory.load s type.bytes pc with
    | error fault last => rfl
    | ok source next =>
      simp only [Outcome.mapState]
      by_cases inside : target ≤ 0xFFFF
      · rw [if_pos inside, if_pos inside]
        have moved : onMemory (Memory.moveInPlace R type (UInt16.ofNat target) source)
            ⟨m, next⟩ = _ :=
          onPart_changed (Memory.moveInPlace_eq R m.memory type (UInt16.ofNat target) source) rfl
            next
        simp only [EStateM.bind, moved]
        cases m.memory.move R type (UInt16.ofNat target) source with
        | error fault => rfl
        | ok memory => exact ih (target + type.bytes) (m.withMemory memory) next
      · rw [if_neg inside, if_neg inside]
        rfl

theorem multiloadInPlace_eq (clock : Clock) (m : Machine R) :
    executeInPlace clock .multiload m = m.multiload := by
  unfold executeInPlace performInPlace multiload
  dsimp only
  rw [reading_bind, ← elementsHeader]
  cases m.elementsHeader (m.pc + 1) with
  | error fault last => rfl
  | ok fields next =>
    simp only [bind, EStateM.bind, storeElementsInPlace_eq]
    cases storeElements R fields.2.1 fields.1 fields.2.2.2.toNat fields.2.2.1.toNat m.memory
      next with
    | error fault both => rfl
    | ok u both => rfl

theorem checkMappingInPlace_eq (clock : Clock) (m : Machine R) :
    executeInPlace clock .urlMapCheck m = m.checkMapping := by
  unfold executeInPlace performInPlace checkMapping
  dsimp only
  rw [reading_bind, ← pollHeader]
  cases m.pollHeader (m.pc + 1) with
  | error fault last => rfl
  | ok fields next =>
    simp only [bind, EStateM.bind, onMappings, onPart, within, MappingTable.checkInPlace_eq]
    cases m.store.mappings.check fields.1 true with
    | error fault => rfl
    | ok polled =>
      have written : onMemory (Memory.writeInPlace .store fields.2 [polled.1])
          ⟨m.withMappings polled.2, next⟩ = changed ⟨m.withMappings polled.2, next⟩
            ((⟨(m.withMappings polled.2).withMemory ·, next⟩) <$>
              m.memory.store fields.2 polled.1) :=
        onPart_changed (Memory.writeInPlace_eq (m.withMappings polled.2).memory .store fields.2
          [polled.1]) rfl next
      simp only [allOrNothing, written]
      cases m.memory.store fields.2 polled.1 <;> rfl

theorem initControllerInPlace_eq (clock : Clock) (m : Machine R) :
    executeInPlace clock .pidInit m = m.initController clock := by
  unfold executeInPlace performInPlace initController
  dsimp only
  rw [reading_bind]
  cases m.initHeader (m.pc + 1) with
  | error fault last => rfl
  | ok fields next =>
    simp only [bind, EStateM.bind, initInPlace]
    cases m.bank.init fields.1 m.store fields.2 clock.millis <;> rfl

theorem changeModeInPlace_eq (m : Machine R) (mode : Mode) :
    Outcome.mapState Executing.machine ((do
      let s ← reading fun m => selector m.code
      setModeInPlace s.id mode
      cursor : Working R UInt16) ⟨m, m.pc + 1⟩) = m.changeMode mode := by
  rw [reading_bind]
  unfold changeMode
  cases selector m.code (m.pc + 1) with
  | error fault last => rfl
  | ok s next =>
    simp only [bind, EStateM.bind, setModeInPlace]
    cases m.bank.setMode s.id m.memory mode <;> rfl

theorem executeInPlace_eq (clock : Clock) (op : Opcode) (m : Machine R) :
    executeInPlace clock op m = m.execute clock op := by
  cases op with
  | halt | push | pop | reset => rfl
  | arithmetic a =>
    refine (mapState_changing ?_).trans (changingMemory_eq m _).symm
    refine performs_reading fun s => performs_value fun type => performs_reading fun both => ?_
    exact performs_change (Memory.arithmeticInPlace_eq R m.memory a type both.1 both.2) rfl
  | bitwise b =>
    refine (mapState_changing ?_).trans (changingMemory_eq m _).symm
    refine performs_reading fun s => performs_value fun width => performs_reading fun both => ?_
    exact performs_change (Memory.bitwiseInPlace_eq m.memory b width both.1 both.2) rfl
  | not =>
    refine (mapState_changing ?_).trans (changingMemory_eq m _).symm
    refine performs_reading fun s => performs_value fun width => performs_reading fun dest => ?_
    exact performs_change (Memory.complementInPlace_eq m.memory width dest) rfl
  | load =>
    refine (mapState_changing ?_).trans (changingMemory_eq m _).symm
    refine performs_reading fun s => performs_value fun type => performs_reading fun both => ?_
    exact performs_change (Memory.moveInPlace_eq R m.memory type both.1 both.2) rfl
  | multiload => exact multiloadInPlace_eq clock m
  | copy =>
    refine (mapState_changing ?_).trans (changingMemory_eq m _).symm
    refine performs_reading fun source => performs_reading fun length =>
      performs_reading fun dest => ?_
    exact performs_change (Memory.copyInPlace_eq m.memory source length dest) rfl
  | jump =>
    refine mapState_branching ?_
    refine performs_reading fun s => performs_reading fun place => ?_
    rw [← bind_pure (onMemory _)]
    exact performs_onMemory performs_target
  | compare =>
    refine mapState_branching ?_
    refine performs_reading fun s => performs_value fun type => performs_reading fun both => ?_
    refine performs_onMemory fun order => performs_reading fun less => performs_reading fun equal =>
      performs_reading fun greater => ?_
    exact performs_target _
  | call =>
    refine mapState_branching ?_
    refine performs_reading fun target => performs_cursor fun back => ?_
    exact performs_push target back
  | ret => exact mapState_branching performs_pop
  | time =>
    refine (mapState_changing ?_).trans (changingMemory_eq m _).symm
    refine performs_reading fun dest => ?_
    exact performs_change (Memory.storeWordInPlace_eq m.memory .four dest _) rfl
  | compareTime =>
    refine mapState_branching ?_
    refine performs_reading fun stamp => performs_reading fun timeoutMs =>
      performs_reading fun expired => performs_reading fun pending => ?_
    refine performs_onMemory fun stored => ?_
    exact performs_target _
  | urlMap =>
    refine (mapState_changing ?_).trans (changingMappings_eq m _).symm
    refine performs_reading fun s => performs_reading fun options => performs_reading fun value =>
      performs_reading fun port => performs_reading fun url => performs_reading fun resource => ?_
    exact performs_change (MappingTable.updateInPlace_eq m.store.mappings s.id _) rfl
  | urlMapCheck => exact checkMappingInPlace_eq clock m
  | urlMapDelete =>
    refine (mapState_changing ?_).trans (changingMappings_eq m _).symm
    refine performs_reading fun s => ?_
    exact performs_change (MappingTable.updateInPlace_eq m.store.mappings s.id _) rfl
  | pidInit => exact initControllerInPlace_eq clock m
  | pidClear =>
    refine (mapState_changing ?_).trans (changingBank_eq m _).symm
    refine performs_reading fun s => ?_
    exact performs_change (Bank.updateInPlace_eq m.bank s.id Controller.clear) rfl
  | pidStop => exact changeModeInPlace_eq m .manual
  | pidRun => exact changeModeInPlace_eq m .automatic

/-- Whatever was changed before a fault, the machine is halted as it is by then. -/
def haltingOnFault {R : Type} (work : InPlace Fault (Machine R) Unit) :
    InPlace Fault (Machine R) Unit := fun m =>
  match work m with
  | .ok () after => .ok () after
  | .error fault after => .error fault (after.haltedBy fault)

def proceedInPlace (clock : Clock) : InPlace Fault (Machine R) Unit := do
  modify fun m => { m with status := ⟨m.pc, 0, 0⟩ }
  let b ← lookUp fun m => m.memory.load m.pc
  modify fun m => { m with status := ⟨m.pc, b, 0⟩ }
  match Opcode.ofByte? b with
  | none => throw (.unsupportedOperation b)
  | some op =>
    let next ← executeInPlace clock op
    modify fun m => { m with pc := next }

def stepInPlace (clock : Clock) : InPlace Fault (Machine R) Unit := do
  if (← get).isHalted then return
  haltingOnFault (proceedInPlace clock)

theorem stepInPlace_eq (clock : Clock) (m : Machine R) : stepInPlace clock m = m.step clock := by
  have once : stepInPlace clock m =
      if m.isHalted then .ok () m else haltingOnFault (proceedInPlace clock) m := by
    rw [stepInPlace, get_bind]
    cases m.isHalted <;> rfl
  have fetched : ({ m with status := ⟨m.pc, 0, 0⟩ } : Machine R).memory.load m.pc =
      m.memory.load m.pc := rfl
  rw [once, step, haltingOnFault, proceedInPlace, modify_bind, lookUp_bind, fetched]
  cases m.memory.load m.pc with
  | error fault => rfl
  | ok b =>
    dsimp only
    rw [modify_bind]
    cases Opcode.ofByte? b with
    | none => rfl
    | some op =>
      simp only [bind, EStateM.bind, executeInPlace_eq]
      cases ({ m with status := ⟨m.pc, b, 0⟩ } : Machine R).execute clock op <;> rfl

end Machine
end ControlMachine
