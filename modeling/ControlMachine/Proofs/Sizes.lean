import ControlMachine.Proofs.CallMatching
import ControlMachine.Proofs.FaultResidue

/- Sizes are settled when a machine is built. Memory, the mapping table, the controllers with their
   ids and the stack keep theirs whatever is done with the machine, and whether it succeeds or not. -/
namespace ControlMachine

namespace Controller
variable {R : Type} [Rational R] {c after : Controller R}

theorem setTunings_id (c : Controller R) (kp ki kd : R) : (c.setTunings kp ki kd).id = c.id := by
  obtain ⟨p, i, d, same⟩ := setTunings_gains c kp ki kd
  rw [same]

theorem setSampleTime_id (c : Controller R) (ms : UInt32) : (c.setSampleTime ms).id = c.id := by
  rcases setSampleTime_gains c ms with same | ⟨-, ki, kd, same⟩
  · rw [same]
  · rw [same]

theorem setDirection_id (c : Controller R) (direction : Direction) :
    (c.setDirection direction).id = c.id := by
  obtain ⟨kp, ki, kd, same⟩ := setDirection_gains c direction
  rw [same]

theorem tiedTo_id (c : Controller R) (settings : PidSettings R) (now : UInt64)
    (mappings : MappingTable) : (c.tiedTo settings now mappings).id = c.id :=
  setTunings_id (c.boundTo settings) settings.kp settings.ki settings.kd

theorem setMode_id (c : Controller R) (memory : Memory) (mode : Mode) :
    (c.setMode memory mode).state.id = c.id := by
  obtain ⟨_, _, _, same⟩ := setMode_changes c memory mode
  rw [same]

structure SameKind (c : Controller R) (memory : Memory) (both : Controller R × Memory) : Prop where
  id : both.1.id = c.id
  initialized : both.1.initialized = c.initialized
  capacity : both.2.capacity = memory.capacity

theorem setLimits_sameKind (c : Controller R) (memory : Memory) (lower upper : R) :
    SameKind c memory (c.setLimits memory lower upper).state := by
  cases outcome : c.setLimits memory lower upper with
  | ok u both =>
    obtain ⟨after, written⟩ := both
    rcases setLimits_ok outcome with
      ⟨-, rfl, rfl⟩ | ⟨-, ⟨-, rfl, rfl⟩ | ⟨-, -, rfl, rfl | patched⟩⟩
    · exact ⟨rfl, rfl, rfl⟩
    · exact ⟨rfl, rfl, rfl⟩
    · exact ⟨rfl, rfl, rfl⟩
    · exact ⟨rfl, rfl, Memory.overwritten_capacity patched⟩
  | error fault both =>
    obtain ⟨after, written⟩ := both
    obtain ⟨-, -, -, rfl, rfl⟩ := setLimits_error outcome
    exact ⟨rfl, rfl, rfl⟩

theorem compute_sameKind (c : Controller R) (store : Store) (now : UInt64) :
    SameKind c store.memory (c.compute store now).state := by
  cases outcome : c.compute store now with
  | ok wrote both =>
    obtain ⟨after, written⟩ := both
    rcases compute_ok outcome with
      ⟨-, rfl, rfl⟩ | ⟨-, -, -, -, input, setpoint, -, -, stored, rfl⟩
    · exact ⟨rfl, rfl, rfl⟩
    · exact ⟨rfl, rfl, Memory.overwritten_capacity (Memory.storeRational_overwritten stored)⟩
  | error fault both =>
    obtain ⟨after, written⟩ := both
    obtain ⟨-, rfl, ⟨rfl, -⟩ | ⟨-, -, ⟨rfl, -⟩ | ⟨-, input, setpoint, rfl⟩⟩⟩ := compute_error outcome
    · exact ⟨rfl, rfl, rfl⟩
    · exact ⟨rfl, rfl, rfl⟩
    · exact ⟨rfl, rfl, rfl⟩

end Controller

namespace Bank
variable {R : Type} {b after : Bank R} {id : UInt8} {c changed : Controller R}

def ids (b : Bank R) : List UInt8 := b.controllers.map Controller.id

theorem set_ids (found : b.controller id = .ok c) (same : changed.id = c.id) :
    (b.set id changed).ids = b.ids := by
  obtain ⟨inside, rfl⟩ := List.getElem?_eq_some_iff.mp (controller_eq_ok.mp found)
  have unset : b.controllers.set id.toNat b.controllers[id.toNat] = b.controllers :=
    List.set_getElem_self inside
  calc (b.set id changed).ids
      = b.ids.set id.toNat changed.id := List.map_set
    _ = (b.controllers.set id.toNat b.controllers[id.toNat]).map Controller.id := by
      rw [same, List.map_set]
      rfl
    _ = b.ids := by
      rw [unset]
      rfl

theorem update_ids {f : Controller R → Controller R} (same : ∀ c, (f c).id = c.id)
    (done : b.update id f = .ok after) : after.ids = b.ids := by
  obtain ⟨c, found, rfl⟩ := update_eq_ok.mp done
  exact set_ids found (same c)

theorem clearAll_ids (b : Bank R) : b.clearAll.ids = b.ids := by
  simp only [ids, clearAll, List.map_map]
  rfl

variable [Rational R]

theorem setMode_ids (b : Bank R) (id : UInt8) (memory : Memory) (mode : Mode) :
    (b.setMode id memory mode).state.ids = b.ids := by
  unfold setMode
  cases found : b.controller id with
  | error fault => rfl
  | ok c =>
    rw [Outcome.state_mapState]
    exact set_ids found (Controller.setMode_id c memory mode)

structure SameKind (b : Bank R) (memory : Memory) (both : Bank R × Memory) : Prop where
  ids : both.1.ids = b.ids
  capacity : both.2.capacity = memory.capacity

theorem init_sameKind (b : Bank R) (id : UInt8) (store : Store) (settings : PidSettings R)
    (now : UInt64) : SameKind b store.memory (b.init id store settings now).state := by
  cases outcome : b.init id store settings now with
  | ok u both =>
    obtain ⟨c, found, -, rfl⟩ := init_ok outcome
    exact ⟨set_ids found (Controller.tiedTo_id c settings now store.mappings), rfl⟩
  | error fault both =>
    cases init_error outcome
    exact ⟨rfl, rfl⟩

theorem setLimits_sameKind (b : Bank R) (id : UInt8) (memory : Memory) (lower upper : R) :
    SameKind b memory (b.setLimits id memory lower upper).state := by
  unfold setLimits
  cases found : b.controller id with
  | error fault => exact ⟨rfl, rfl⟩
  | ok c =>
    obtain ⟨same, -, size⟩ := Controller.setLimits_sameKind c memory lower upper
    rw [Outcome.state_mapState]
    exact ⟨set_ids found same, size⟩

theorem compute_sameKind (b : Bank R) (id : UInt8) (store : Store) (now : UInt64) :
    SameKind b store.memory (b.compute id store now).state := by
  unfold compute
  cases found : b.controller id with
  | error fault => exact ⟨rfl, rfl⟩
  | ok c =>
    obtain ⟨same, -, size⟩ := Controller.compute_sameKind c store now
    rw [Outcome.state_mapState]
    exact ⟨set_ids found same, size⟩

theorem tick_sameKind (now : UInt64) (cs : List (Controller R)) (store : Store) :
    (tick now cs store).2.1.map Controller.id = cs.map Controller.id ∧
      (tick now cs store).2.2.capacity = store.memory.capacity := by
  induction cs generalizing store with
  | nil => exact ⟨rfl, rfl⟩
  | cons c rest ih =>
    obtain ⟨same, -, size⟩ := Controller.compute_sameKind c store now
    obtain ⟨others, kept⟩ := ih { store with memory := (c.compute store now).state.2 }
    constructor
    · simp only [tick, List.map_cons]
      rw [same, others]
    · exact kept.trans size

theorem computeAll_sameKind (b : Bank R) (store : Store) (now : UInt64) :
    SameKind b store.memory (b.computeAll store now).2 := by
  obtain ⟨ids, capacity⟩ := tick_sameKind now b.controllers store
  exact ⟨ids, capacity⟩

end Bank

namespace Machine
variable {R : Type} {m after : Machine R}

/-- What is settled when a machine is built. -/
structure Sizes where
  memory : Nat
  slots : Nat
  ids : List UInt8
  stack : Nat
  deriving DecidableEq, Repr

def sizes (m : Machine R) : Sizes :=
  ⟨m.memory.capacity, m.store.mappings.slots.length, m.bank.ids, m.stack.capacity⟩

theorem sizes_withMemory {memory : Memory} (same : memory.capacity = m.memory.capacity) :
    (m.withMemory memory).sizes = m.sizes := by
  simp only [sizes, ← same]
  rfl

theorem sizes_withMappings {mappings : MappingTable}
    (same : mappings.slots.length = m.store.mappings.slots.length) :
    (m.withMappings mappings).sizes = m.sizes := by
  simp only [sizes, ← same]
  rfl

theorem sizes_withBank {bank : Bank R} (same : bank.ids = m.bank.ids) :
    { m with bank := bank }.sizes = m.sizes := by
  simp only [sizes, ← same]
  rfl

theorem sizes_clear (m : Machine R) : m.clear.sizes = m.sizes := by
  simp [sizes, clear, memory, CallStack.clear, CallStack.ofCapacity, CallStack.capacity]

theorem sizes_reset (m : Machine R) : m.reset.sizes = m.sizes := by
  rw [reset, sizes_clear]
  simp [sizes, memory, Store.clear, Memory.clear, MappingTable.clear, Memory.capacity,
    Bank.clearAll_ids]

theorem addressed_eq_some {id : UInt8} {c : Controller R} (found : m.addressed? = some (id, c)) :
    m.bank.controller id = .ok c := by
  unfold addressed? at found
  split at found
  · cases found
  · split at found
    · cases found
    · rename_i here
      cases found
      exact here

variable [Rational R] {clock : Clock} {op : Opcode} {next : UInt16} {fault : Fault}

theorem execute_ids (inside : m.pc.toNat < m.memory.capacity)
    (done : m.execute clock op = .ok next after) : after.bank.ids = m.bank.ids := by
  cases about : op.onControllers with
  | false => rw [(execute_confined inside done).bank about]
  | true =>
    cases op with
    | pidInit =>
      obtain ⟨id, settings, c, -, found, -, rfl⟩ := initController_ok done
      exact Bank.set_ids found
        (Controller.tiedTo_id c settings clock.millis m.store.mappings)
    | pidClear =>
      obtain ⟨bank, run, rfl⟩ := changingBank_ok done
      obtain ⟨s, p1, -, rest⟩ := Fetch.bind_eq_ok.mp run
      exact Bank.update_ids (f := Controller.clear) (fun _ => rfl) (Fetch.lift_eq_ok.mp rest).1
    | pidStop | pidRun =>
      obtain ⟨s, bank, -, set, rfl⟩ := changeMode_ok done
      have same := Bank.setMode_ids m.bank s.id m.memory
      rw [← same, set]
      rfl
    | _ => cases about

theorem execute_error_sizes (failed : m.execute clock op = .error fault after) :
    after.sizes = m.sizes := by
  cases op with
  | halt => cases failed
  | multiload =>
    rcases multiload_error failed with ⟨rfl, -⟩ | ⟨_, _, _, _, _, memory, _, -, stored, rfl⟩
    · rfl
    · obtain ⟨completed, interrupted⟩ := interrupted_of_error stored
      exact sizes_withMemory interrupted.capacity
  | urlMapCheck =>
    rcases checkMapping_error failed with rfl | ⟨id, status, mappings, polled, rfl⟩
    · rfl
    · exact sizes_withMappings (MappingTable.check_changedAt polled).count
  | pidRun =>
    obtain ⟨nobody, somebody⟩ := changeMode_error failed
    cases addressed : m.addressed? with
    | none => rw [nobody addressed]
    | some pair =>
      obtain ⟨-, -, integral, rfl⟩ := somebody pair.1 pair.2 addressed
      exact sizes_withBank (Bank.set_ids (addressed_eq_some addressed) rfl)
  | reset =>
    cases failed
    exact sizes_reset m
  | _ =>
    have same := execute_residue failed
    cases same
    rfl

theorem step_sizes (m : Machine R) (clock : Clock) : (m.step clock).state.sizes = m.sizes := by
  cases outcome : m.step clock with
  | ok u after =>
    have stack := stackStep_capacity (step_stack outcome)
    rcases step_ok outcome with ⟨-, rfl⟩ | ⟨-, op, next, changed, here, run, rfl⟩
    · rfl
    · have inside := (Memory.load_eq_ok.mp (opcode_eq_some.mp here)).1
      have confined := execute_confined (m := m.started) inside run
      have capacity : changed.memory.capacity = m.memory.capacity := confined.memory.size
      have slots : changed.store.mappings.slots.length = m.store.mappings.slots.length :=
        confined.slots.count
      have ids : changed.bank.ids = m.bank.ids := execute_ids (m := m.started) inside run
      simp only [Outcome.state, sizes, memory] at stack capacity ⊢
      rw [capacity, slots, ids, stack]
  | error fault after =>
    rcases step_error outcome with ⟨-, ⟨-, rfl⟩ | ⟨op, left, -, run, rfl⟩⟩
    · rfl
    · have same : left.sizes = m.sizes := execute_error_sizes (m := m.started) run
      exact same

end Machine

inductive BankAction (R : Type) where
  | init (id : UInt8) (settings : PidSettings R)
  | clear (id : UInt8)
  | setMode (id : UInt8) (mode : Mode)
  | setLimits (id : UInt8) (lower upper : R)
  | setDirection (id : UInt8) (direction : Direction)
  | setTunings (id : UInt8) (kp ki kd : R)
  | setSampleTime (id : UInt8) (ms : UInt32)
  | compute (id : UInt8)
  | computeAll
  | clearAll

inductive MachineEvent (R : Type) where
  | load (program : List UInt8)
  | clear
  | reset
  | step (clock : Clock)
  | onBank (action : BankAction R) (clock : Clock)

namespace Machine
variable {R : Type}

def withBank (m : Machine R) (bank : Bank R) : Machine R := { m with bank := bank }

def withBankIf (m : Machine R) (change : Except Fault (Bank R)) : Machine R :=
  match change with
  | .ok bank => m.withBank bank
  | .error _ => m

def withBoth (m : Machine R) (both : Bank R × Memory) : Machine R :=
  (m.withBank both.1).withMemory both.2

def reload (m : Machine R) (program : List UInt8) : Machine R :=
  match m.loadProgram program with
  | .ok loaded => loaded
  | .error _ => m

variable {m : Machine R}

theorem sizes_withBankIf {change : Except Fault (Bank R)}
    (same : ∀ bank, change = .ok bank → bank.ids = m.bank.ids) :
    (m.withBankIf change).sizes = m.sizes := by
  unfold withBankIf
  cases change with
  | error fault => rfl
  | ok bank => exact sizes_withBank (same bank rfl)

theorem sizes_withBoth {both : Bank R × Memory} (same : m.bank.SameKind m.memory both) :
    (m.withBoth both).sizes = m.sizes := by
  have capacity : both.2.capacity = (m.withBank both.1).memory.capacity := same.capacity
  rw [withBoth, sizes_withMemory capacity, withBank, sizes_withBank same.ids]

theorem reload_sizes (m : Machine R) (program : List UInt8) :
    (m.reload program).sizes = m.sizes := by
  unfold reload
  cases loaded : m.loadProgram program with
  | error fault => rfl
  | ok after =>
    obtain ⟨memory, written, same⟩ := except_bind_eq_ok.mp loaded
    obtain ⟨-, rfl⟩ := Memory.write_eq_ok.mp written
    cases except_pure_eq_ok.mp same
    dsimp only
    rw [sizes_clear]
    exact sizes_withMemory (Memory.capacity_patch _ _ _)

variable [Rational R]

def operate (m : Machine R) (now : UInt64) : BankAction R → Machine R
  | .init id settings => m.withBoth (m.bank.init id m.store settings now).state
  | .clear id => m.withBankIf (m.bank.clear id)
  | .setMode id mode => m.withBank (m.bank.setMode id m.memory mode).state
  | .setLimits id lower upper => m.withBoth (m.bank.setLimits id m.memory lower upper).state
  | .setDirection id direction => m.withBankIf (m.bank.update id (·.setDirection direction))
  | .setTunings id kp ki kd => m.withBankIf (m.bank.update id (·.setTunings kp ki kd))
  | .setSampleTime id ms => m.withBankIf (m.bank.update id (·.setSampleTime ms))
  | .compute id => m.withBoth (m.bank.compute id m.store now).state
  | .computeAll => m.withBoth (m.bank.computeAll m.store now).2
  | .clearAll => m.withBank m.bank.clearAll

/-- An event that fails may leave something behind, and the next one starts from that. -/
def undergo (m : Machine R) : MachineEvent R → Machine R
  | .load program => m.reload program
  | .clear => m.clear
  | .reset => m.reset
  | .step clock => (m.step clock).state
  | .onBank action clock => m.operate clock.millis action

theorem operate_sizes (m : Machine R) (now : UInt64) (action : BankAction R) :
    (m.operate now action).sizes = m.sizes := by
  cases action with
  | init id settings => exact sizes_withBoth (Bank.init_sameKind m.bank id m.store settings now)
  | clear id => exact sizes_withBankIf fun _ => Bank.update_ids (f := Controller.clear) fun _ => rfl
  | setMode id mode => exact sizes_withBank (Bank.setMode_ids m.bank id m.memory mode)
  | setLimits id lower upper =>
    exact sizes_withBoth (Bank.setLimits_sameKind m.bank id m.memory lower upper)
  | setDirection id direction =>
    exact sizes_withBankIf fun _ => Bank.update_ids fun c => Controller.setDirection_id c direction
  | setTunings id kp ki kd =>
    exact sizes_withBankIf fun _ => Bank.update_ids fun c => Controller.setTunings_id c kp ki kd
  | setSampleTime id ms =>
    exact sizes_withBankIf fun _ => Bank.update_ids fun c => Controller.setSampleTime_id c ms
  | compute id => exact sizes_withBoth (Bank.compute_sameKind m.bank id m.store now)
  | computeAll => exact sizes_withBoth (Bank.computeAll_sameKind m.bank m.store now)
  | clearAll => exact sizes_withBank (Bank.clearAll_ids m.bank)

theorem undergo_sizes (m : Machine R) (event : MachineEvent R) :
    (m.undergo event).sizes = m.sizes := by
  cases event with
  | load program => exact reload_sizes m program
  | clear => exact sizes_clear m
  | reset => exact sizes_reset m
  | step clock => exact step_sizes m clock
  | onBank action clock => exact operate_sizes m clock.millis action

theorem foldl_undergo_sizes (m : Machine R) (history : List (MachineEvent R)) :
    (history.foldl undergo m).sizes = m.sizes := by
  induction history generalizing m with
  | nil => rfl
  | cons event history ih =>
    rw [List.foldl_cons, ih]
    exact undergo_sizes m event

end Machine
end ControlMachine
