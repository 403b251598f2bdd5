import Mathlib.Control.Monad.Basic
import ControlMachine.Proofs.Sizes

/- What can be seen of a machine. A cleared controller keeps its old settings, but they play no part
   until it is initialized again, and that replaces all of them unless the new limits or gains are
   refused. So whatever a machine does depends on its outline alone, in which a cleared controller is
   a fresh one, as long as no initialization is refused its settings. -/
namespace ControlMachine

section Results
variable {ε α β : Type}

@[simp] theorem except_pure (a : α) : (pure a : Except ε α) = .ok a := rfl

@[simp] theorem except_ok_bind (a : α) (f : α → Except ε β) : (Except.ok a >>= f) = f a := rfl

@[simp] theorem except_error_bind (e : ε) (f : α → Except ε β) :
    ((Except.error e : Except ε α) >>= f) = .error e := rfl

end Results

def PidSettings.accepted {R : Type} [Rational R] (s : PidSettings R) : Bool :=
  Controller.validLimits s.lower s.upper &&
    !(Rational.isNegative s.kp || Rational.isNegative s.ki || Rational.isNegative s.kd)

namespace Controller
variable {R : Type} [Rational R] {c : Controller R}

/-- What can be seen of a controller; of one that is cleared, its id. -/
def outline (c : Controller R) : Controller R := if c.initialized then c else .fresh c.id

theorem outline_of_initialized (initialized : c.initialized = true) : c.outline = c :=
  if_pos initialized

theorem outline_of_cleared (cleared : c.initialized = false) : c.outline = .fresh c.id := by
  simp [outline, cleared]

theorem outline_outline (c : Controller R) : c.outline.outline = c.outline := by
  cases state : c.initialized with
  | true => rw [outline_of_initialized state, outline_of_initialized state]
  | false =>
    rw [outline_of_cleared state]
    rfl

theorem initialized_outline (c : Controller R) : c.outline.initialized = c.initialized := by
  cases state : c.initialized with
  | true => rw [outline_of_initialized state, state]
  | false =>
    rw [outline_of_cleared state]
    rfl

theorem clear_outline (c : Controller R) : c.outline.clear.outline = c.clear.outline := by
  cases state : c.initialized with
  | true => rw [outline_of_initialized state]
  | false =>
    rw [outline_of_cleared state]
    rfl

theorem init_outline (store : Store) {settings : PidSettings R} (now : UInt64)
    (accepted : c.initialized = false → settings.accepted = true) :
    c.outline.init store settings now = c.init store settings now := by
  cases state : c.initialized with
  | true => rw [outline_of_initialized state]
  | false =>
    have usable := accepted state
    simp only [PidSettings.accepted, Bool.and_eq_true, Bool.not_eq_true'] at usable
    rw [outline_of_cleared state, init_of_cleared store settings now state,
      init_of_cleared store settings now rfl]
    simp only [tiedTo, boundTo, fresh, setTunings, state, usable.1, usable.2, Bool.false_eq_true,
      if_false, if_true]
    cases settings.direction <;> rfl

theorem setMode_outline (c : Controller R) (memory : Memory) (mode : Mode) :
    (c.outline.setMode memory mode).mapState outline = (c.setMode memory mode).mapState outline := by
  cases state : c.initialized with
  | true => rw [outline_of_initialized state]
  | false =>
    have unseeded : ∀ d : Controller R, d.initialized = false →
        d.setMode memory mode = .ok () { d with mode := mode } := by
      intro d cleared
      simp [setMode, cleared]
    rw [outline_of_cleared state, unseeded c state, unseeded _ rfl]
    simp [Outcome.mapState, outline, state, fresh]

theorem compute_outline (c : Controller R) (store : Store) (now : UInt64) :
    c.outline.compute store now =
      (c.compute store now).mapState fun both => (both.1.outline, both.2) := by
  cases state : c.initialized with
  | true =>
    have still := (compute_sameKind c store now).initialized
    rw [outline_of_initialized state, Outcome.mapState_eq_self]
    rw [outline_of_initialized (still.trans state)]
  | false =>
    have idle : ∀ d : Controller R, d.initialized = false →
        d.compute store now = .ok false (d, store.memory) := by
      intro d cleared
      simp [compute, cleared]
    rw [idle c state, idle c.outline ((initialized_outline c).trans state)]
    rfl

end Controller

namespace Bank

variable {R : Type} [Rational R] {b : Bank R} {id : UInt8}

def outline (b : Bank R) : Bank R where
  controllers := b.controllers.map Controller.outline
  few := by simpa using b.few

theorem outline_outline (b : Bank R) : b.outline.outline = b.outline := by
  apply eq_of_controllers
  simp [outline, Controller.outline_outline]

theorem controller_outline (b : Bank R) (id : UInt8) :
    b.outline.controller id = Controller.outline <$> b.controller id := by
  simp only [controller, outline, List.getElem?_map]
  cases b.controllers[id.toNat]? <;> rfl

theorem set_outline (b : Bank R) (id : UInt8) (c : Controller R) :
    (b.set id c).outline = b.outline.set id c.outline := by
  apply eq_of_controllers
  simp [outline, set]

theorem init_outline (store : Store) {settings : PidSettings R} (now : UInt64)
    (accepted : ∀ c, b.controller id = .ok c → c.initialized = false → settings.accepted = true) :
    b.outline.init id store settings now =
      (b.init id store settings now).mapState fun both => (both.1.outline, both.2) := by
  unfold init
  rw [controller_outline]
  cases found : b.controller id with
  | error fault => rfl
  | ok c =>
    have same := Controller.init_outline store now (accepted c found)
    -- either way the controller is an initialized one afterwards, and its own outline
    cases state : c.initialized with
    | true =>
      simp [Controller.init_eq, state, Outcome.mapState, set_outline,
        Controller.outline_of_initialized state]
    | false =>
      have initialized : (c.tiedTo settings now store.mappings).initialized = true := rfl
      simp [same, Controller.init_eq, state, Outcome.mapState, set_outline,
        Controller.outline_of_initialized initialized]

theorem clear_outline (b : Bank R) (id : UInt8) :
    outline <$> b.outline.clear id = outline <$> b.clear id := by
  unfold clear update
  rw [controller_outline]
  cases b.controller id with
  | error fault => rfl
  | ok c =>
    simp [set_outline, outline_outline, Controller.clear_outline]

theorem setMode_outline (b : Bank R) (id : UInt8) (memory : Memory) (mode : Mode) :
    (b.outline.setMode id memory mode).mapState outline =
      (b.setMode id memory mode).mapState outline := by
  unfold setMode
  rw [controller_outline]
  cases b.controller id with
  | error fault => simp [Outcome.mapState, outline_outline]
  | ok c =>
    have same := congrArg (Outcome.mapState (b.outline.set id))
      (Controller.setMode_outline c memory mode)
    simpa [Outcome.mapState_mapState, set_outline, outline_outline] using same

theorem clearAll_outline (b : Bank R) : b.outline.clearAll.outline = b.clearAll.outline := by
  apply eq_of_controllers
  simp [outline, clearAll, Controller.clear_outline]

theorem tick_outline (now : UInt64) (cs : List (Controller R)) (store : Store) :
    tick now (cs.map Controller.outline) store =
      ((tick now cs store).1, (tick now cs store).2.1.map Controller.outline,
        (tick now cs store).2.2) := by
  induction cs generalizing store with
  | nil => rfl
  | cons c rest ih =>
    simp only [List.map_cons, tick, Controller.compute_outline, Outcome.state_mapState, ih]
    cases outcome : c.compute store now with
    | error fault both => rfl
    | ok wrote both => cases wrote <;> rfl

theorem computeAll_outline (b : Bank R) (store : Store) (now : UInt64) :
    (b.outline.computeAll store now).2 =
      ((b.computeAll store now).2.1.outline, (b.computeAll store now).2.2) := by
  have same := tick_outline now b.controllers store
  apply Prod.ext
  · apply eq_of_controllers
    exact congrArg (fun ticked => ticked.2.1) same
  · exact congrArg (fun ticked => ticked.2.2) same

end Bank
namespace Machine
open Fetch
variable {R : Type} [Rational R] {m n : Machine R} {clock : Clock} {op : Opcode}

/-- What can be seen of a machine. -/
def outline (m : Machine R) : Machine R := { m with bank := m.bank.outline, debug := false }

theorem outline_outline (m : Machine R) : m.outline.outline = m.outline := by
  simp [outline, Bank.outline_outline]

@[simp] theorem outline_store (m : Machine R) : m.outline.store = m.store := rfl
@[simp] theorem outline_memory (m : Machine R) : m.outline.memory = m.memory := rfl
@[simp] theorem outline_code (m : Machine R) : m.outline.code = m.code := rfl
@[simp] theorem outline_pc (m : Machine R) : m.outline.pc = m.pc := rfl
@[simp] theorem outline_bank (m : Machine R) : m.outline.bank = m.bank.outline := rfl

/-- Two outcomes with the same answer or fault, from machines with the same outline. -/
def Alike {α : Type} (x y : Outcome (Machine R) α) : Prop := x.mapState outline = y.mapState outline

theorem alike_of_eq {α : Type} {x y : Outcome (Machine R) α} (same : x = y.mapState outline) :
    Alike x y := by
  unfold Alike
  rw [same, Outcome.mapState_mapState]
  simp only [outline_outline]

theorem changing_outline {α : Type} {put put' : α → Machine R} (act : Fetch α)
    (same : ∀ a, put' a = (put a).outline) :
    Alike (m.outline.changing put' act) (m.changing put act) := by
  apply alike_of_eq
  unfold changing
  rw [outline_pc]
  cases act (m.pc + 1) with
  | ok a next => simp [Outcome.mapState, same]
  | error fault last => rfl

theorem changingMemory_outline (act : Fetch Memory) :
    Alike (m.outline.changingMemory act) (m.changingMemory act) := by
  rw [changingMemory_eq, changingMemory_eq]
  exact changing_outline act fun _ => rfl

theorem changingMappings_outline (act : Fetch MappingTable) :
    Alike (m.outline.changingMappings act) (m.changingMappings act) := by
  rw [changingMappings_eq, changingMappings_eq]
  exact changing_outline act fun _ => rfl

theorem branching_outline (act : Fetch (UInt16 × CallStack)) :
    Alike (m.outline.branching act) (m.branching act) := by
  apply alike_of_eq
  unfold branching
  rw [outline_pc]
  cases act (m.pc + 1) <;> rfl

theorem multiload_outline (m : Machine R) : Alike m.outline.multiload m.multiload := by
  apply alike_of_eq
  unfold multiload
  simp only [outline_code, outline_memory, outline_pc]
  split
  · rfl
  · split <;> rfl

theorem checkMapping_outline (m : Machine R) : Alike m.outline.checkMapping m.checkMapping := by
  apply alike_of_eq
  unfold checkMapping
  simp only [outline_code, outline_memory, outline_pc, outline_store]
  split
  · rfl
  · split
    · rfl
    · split <;> rfl

theorem changeMode_outline (m : Machine R) (mode : Mode) :
    Alike (m.outline.changeMode mode) (m.changeMode mode) := by
  unfold Alike changeMode
  rw [outline_code, outline_pc, outline_bank, outline_memory]
  cases selector m.code (m.pc + 1) with
  | error fault last => simp [Outcome.mapState, outline_outline]
  | ok s next =>
    have same := Bank.setMode_outline m.bank s.id m.memory mode
    dsimp only
    -- the two banks succeed or fail together, the other pairs contradict `same`
    cases left : m.bank.outline.setMode s.id m.memory mode <;>
      cases right : m.bank.setMode s.id m.memory mode <;>
      simp_all [Outcome.mapState, outline]

theorem initHeader_outline (m : Machine R) : m.outline.initHeader = m.initHeader := by
  unfold initHeader
  refine bind_congr fun s => ?_
  dsimp only
  rw [outline_bank, outline_memory, Bank.controller_outline]
  cases m.bank.controller s.id <;> rfl

/-- An initialization that is due at the program counter has settings that are accepted. -/
def initAccepted (m : Machine R) : Bool :=
  match m.initHeader (m.pc + 1) with
  | .error _ _ => true
  | .ok (id, settings) _ =>
    match m.bank.controller id with
    | .error _ => true
    | .ok c => c.initialized || settings.accepted

theorem initAccepted_outline (m : Machine R) : m.outline.initAccepted = m.initAccepted := by
  unfold initAccepted
  rw [initHeader_outline, outline_pc, outline_bank]
  cases m.initHeader (m.pc + 1) with
  | error fault last => rfl
  | ok header last =>
    dsimp only
    rw [Bank.controller_outline]
    cases m.bank.controller header.1 with
    | error fault => rfl
    | ok c => simp [Controller.initialized_outline]

theorem initController_outline (accepted : m.initAccepted = true) :
    Alike (m.outline.initController clock) (m.initController clock) := by
  apply alike_of_eq
  unfold initAccepted at accepted
  unfold initController
  rw [initHeader_outline, outline_pc]
  cases header : m.initHeader (m.pc + 1) with
  | error fault last => rfl
  | ok pair last =>
    obtain ⟨id, settings⟩ := pair
    have usable : ∀ c, m.bank.controller id = .ok c → c.initialized = false →
        settings.accepted = true := by
      intro c found cleared
      simpa [header, found, cleared] using accepted
    dsimp only
    rw [outline_bank, outline_store, Bank.init_outline m.store clock.millis usable]
    cases m.bank.init id m.store settings clock.millis <;> rfl

theorem pidClear_outline (m : Machine R) (clock : Clock) :
    Alike (m.outline.execute clock .pidClear) (m.execute clock .pidClear) := by
  simp only [execute, changingBank, outline_code, outline_pc, outline_bank, bind, EStateM.bind]
  unfold Alike
  cases selector m.code (m.pc + 1) with
  | error fault last => simp [Outcome.mapState, outline_outline]
  | ok s last =>
    have same := Bank.clear_outline m.bank s.id
    dsimp only
    cases left : m.bank.outline.clear s.id <;> cases right : m.bank.clear s.id <;>
      simp_all [lift, Outcome.mapState, outline, Bank.outline_outline]

/-- Of all instructions only an initialization can tell a cleared controller from a fresh one. -/
theorem execute_outline (accepted : op = .pidInit → m.initAccepted = true) :
    Alike (m.outline.execute clock op) (m.execute clock op) := by
  cases op with
  | halt | push | pop => exact alike_of_eq rfl
  | arithmetic | bitwise | not | load | copy | time => exact changingMemory_outline _
  | multiload => exact multiload_outline m
  | jump | compare | call | ret | compareTime => exact branching_outline _
  | urlMap | urlMapDelete => exact changingMappings_outline _
  | urlMapCheck => exact checkMapping_outline m
  | pidInit => exact initController_outline (accepted rfl)
  | pidClear => exact pidClear_outline m clock
  | pidStop | pidRun => exact changeMode_outline m _
  | reset =>
    have same := Bank.clearAll_outline m.bank
    simp [Alike, execute, Outcome.mapState, outline, same]

def conclude : Outcome (Machine R) UInt16 → Outcome (Machine R) Unit
  | .ok next after => .ok () { after with pc := next }
  | .error fault after => .error fault (after.haltedBy fault)

theorem conclude_alike {x y : Outcome (Machine R) UInt16} (alike : Alike x y) :
    Alike (conclude x) (conclude y) := by
  unfold Alike at alike ⊢
  cases x with
  | ok next after =>
    cases y with
    | ok next' after' =>
      simp only [Outcome.mapState, EStateM.Result.ok.injEq] at alike
      obtain ⟨rfl, same⟩ := alike
      simp only [conclude, Outcome.mapState, EStateM.Result.ok.injEq, true_and]
      exact congrArg (fun m : Machine R => { m with pc := next }) same
    | error fault after' => simp [Outcome.mapState] at alike
  | error fault after =>
    cases y with
    | ok next' after' => simp [Outcome.mapState] at alike
    | error fault' after' =>
      simp only [Outcome.mapState, EStateM.Result.error.injEq] at alike
      obtain ⟨rfl, same⟩ := alike
      simp only [conclude, Outcome.mapState, EStateM.Result.error.injEq, true_and]
      exact congrArg (fun m : Machine R => m.haltedBy fault) same

theorem step_eq_conclude (running : m.isHalted = false) (here : m.opcode? = some op) :
    m.step clock = conclude (m.started.execute clock op) := by
  have fetched := opcode_eq_some.mp here
  have begun : m.started = { m with status := ⟨m.pc, op.byte, 0⟩ } := by
    simp [started, fetchedByte, fetched]
  simp only [step, running, fetched, Opcode.ofByte_byte, Bool.false_eq_true, if_false]
  rw [begun]
  rfl

theorem step_outline (accepted : m.isHalted = false → m.opcode? = some .pidInit →
    m.initAccepted = true) : Alike (m.outline.step clock) (m.step clock) := by
  cases halted : m.isHalted with
  | true =>
    rw [step_halted halted, step_halted (m := m.outline) halted]
    exact alike_of_eq rfl
  | false =>
    cases here : m.opcode? with
    | some op =>
      rw [step_eq_conclude halted here, step_eq_conclude (m := m.outline) halted here]
      apply conclude_alike
      apply execute_outline (m := m.started)
      rintro rfl
      exact accepted halted here
    | none =>
      have running : m.outline.isHalted = false := halted
      apply alike_of_eq
      unfold opcode? at here
      unfold step
      rw [halted, running, outline_memory, outline_pc]
      cases fetched : m.memory.load m.pc with
      | error fault => rfl
      | ok b =>
        simp only [fetched] at here
        simp only [here]
        rfl

end Machine
end ControlMachine
