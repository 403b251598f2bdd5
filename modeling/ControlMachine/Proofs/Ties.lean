import ControlMachine.Proofs.BankSafety

/- What ties the controllers of a bank to the slots of the mapping table. A tie is made when a
   controller is initialized, with the table as it is then, and ends when the controller is cleared.
   Nothing else that is done with a bank looks at the ties or changes them. -/
namespace ControlMachine

/-- Whether a controller is initialized, where its input is, and the slot that offered the input at
    that time. -/
structure Tie where
  initialized : Bool
  input : UInt16
  mapId? : Option UInt8

namespace Tie

def cleared (tie : Tie) : Tie := { tie with initialized := false }

def MadeWith (tie : Tie) (t : MappingTable) : Prop :=
  tie.initialized = true → tie.mapId? = t.idForAddress? tie.input

end Tie

namespace Controller
variable {R : Type} {c after : Controller R}

def tie (c : Controller R) : Tie := ⟨c.initialized, c.input, c.mapId?⟩

theorem clear_tie (c : Controller R) (t : MappingTable) : c.clear.tie.MadeWith t := by
  intro initialized
  cases initialized

variable [Rational R]

theorem setMode_tie (c : Controller R) (memory : Memory) (mode : Mode) :
    (c.setMode memory mode).state.tie = c.tie := by
  obtain ⟨_, _, _, same⟩ := setMode_changes c memory mode
  rw [same]
  rfl

theorem compute_tie (c : Controller R) (store : Store) (now : UInt64) :
    (c.compute store now).state.1.tie = c.tie := by
  obtain ⟨_, _, _, same⟩ := compute_changes c store now
  rw [same]
  rfl

theorem tiedTo_tie (c : Controller R) (settings : PidSettings R) (now : UInt64)
    (mappings : MappingTable) : (c.tiedTo settings now mappings).tie.MadeWith mappings := by
  obtain ⟨_, _, _, tied⟩ := tiedTo_gains c settings now mappings
  rw [tied]
  intro _
  rfl

end Controller

namespace ControlLoop
variable {R : Type} [Rational R] {capacity : Nat}

theorem react_tie (l : ControlLoop R) (event : ControlEvent R capacity) :
    (l.react event).controller.tie = l.controller.tie ∨
      (l.react event).controller.tie.MadeWith l.store.mappings := by
  cases event with
  | init settings now =>
    rcases react_init l settings now with ⟨-, same⟩ | ⟨-, same⟩
    · rw [same]
      exact Or.inl rfl
    · rw [same]
      exact Or.inr (l.controller.tiedTo_tie settings now l.store.mappings)
  | compute now => exact Or.inl (Controller.compute_tie l.controller l.store now)
  | setMode mode => exact Or.inl (Controller.setMode_tie l.controller l.store.memory mode)
  | setLimits lower upper =>
    obtain ⟨_, _, _, same⟩ := Controller.setLimits_changes l.controller l.store.memory lower upper
    rw [react, withBoth, same]
    exact Or.inl rfl
  | setDirection direction =>
    obtain ⟨_, _, _, same⟩ := Controller.setDirection_gains l.controller direction
    rw [react, same]
    exact Or.inl rfl
  | setTunings kp ki kd =>
    obtain ⟨_, _, _, same⟩ := Controller.setTunings_gains l.controller kp ki kd
    rw [react, same]
    exact Or.inl rfl
  | setSampleTime ms =>
    rcases Controller.setSampleTime_gains l.controller ms with same | ⟨-, _, _, same⟩
    · rw [react, same]
      exact Or.inl rfl
    · rw [react, same]
      exact Or.inl rfl
  | clear => exact Or.inr (Controller.clear_tie l.controller l.store.mappings)
  | disturb store same => exact Or.inl rfl

end ControlLoop

namespace Bank
variable {R : Type} {b : Bank R} {id : UInt8} {c changed : Controller R}

def ties (b : Bank R) : List Tie := b.controllers.map Controller.tie

theorem set_ties (b : Bank R) (id : UInt8) (c : Controller R) :
    (b.set id c).ties = b.ties.set id.toNat c.tie := List.map_set

theorem tie_of_controller (found : b.controller id = .ok c) : b.ties[id.toNat]? = some c.tie := by
  rw [ties, List.getElem?_map, controller_eq_ok.mp found]
  rfl

theorem set_same_tie (found : b.controller id = .ok c) (same : changed.tie = c.tie) :
    (b.set id changed).ties = b.ties := by
  obtain ⟨inside, here⟩ := List.getElem?_eq_some_iff.mp (tie_of_controller found)
  rw [set_ties, same, ← here]
  exact List.set_getElem_self inside

theorem clearAll_ties (b : Bank R) : b.clearAll.ties = b.ties.map Tie.cleared := by
  simp only [ties, clearAll, List.map_map]
  rfl

variable [Rational R]

theorem tick_ties (now : UInt64) (cs : List (Controller R)) (store : Store) :
    (tick now cs store).2.1.map Controller.tie = cs.map Controller.tie := by
  induction cs generalizing store with
  | nil => rfl
  | cons c rest ih =>
    have others := ih { store with memory := (c.compute store now).state.2 }
    simp only [tick, List.map_cons]
    rw [Controller.compute_tie, others]

end Bank

namespace Machine
open Fetch
variable {R : Type} {m after : Machine R} {id slotId : UInt8} {input : UInt16}

def TiedTo (m : Machine R) (id : UInt8) (input : UInt16) (slotId : UInt8) : Prop :=
  m.bank.ties[id.toNat]? = some ⟨true, input, some slotId⟩

inductive TieStep (m after : Machine R) : Prop where
  | kept (same : after.bank.ties = m.bank.ties)
  | made (id : UInt8) (tie : Tie) (current : tie.MadeWith m.store.mappings)
      (one : after.bank.ties = m.bank.ties.set id.toNat tie)
      (still : after.store.mappings = m.store.mappings)
  | cleared (all : after.bank.ties = m.bank.ties.map Tie.cleared)

theorem tieStep_of_set {c changed : Controller R} (found : m.bank.controller id = .ok c)
    (either : changed.tie = c.tie ∨ changed.tie.MadeWith m.store.mappings)
    (set : after.bank = m.bank.set id changed) (still : after.store.mappings = m.store.mappings) :
    TieStep m after := by
  rcases either with same | current
  · apply TieStep.kept
    rw [set, Bank.set_same_tie found same]
  · apply TieStep.made id changed.tie current _ still
    rw [set, Bank.set_ties]

theorem tieStep_of_parts {n last : Machine R} (step : TieStep n after) (before : n.bank = m.bank)
    (table : n.store = m.store) (bank : last.bank = after.bank) (store : last.store = after.store) :
    TieStep m last := by
  cases step with
  | kept same =>
    rw [before, ← bank] at same
    exact .kept same
  | made id tie current one still =>
    rw [table] at current still
    rw [before, ← bank] at one
    rw [← store] at still
    exact .made id tie current one still
  | cleared all =>
    rw [before, ← bank] at all
    exact .cleared all

/-- A controller is tied only if it was before, or if the slot has its input now. -/
theorem tiedTo_of_tieStep (step : TieStep m after) (tied : after.TiedTo id input slotId) :
    m.TiedTo id input slotId ∨ after.store.mappings = m.store.mappings ∧
      m.store.mappings.idForAddress? input = some slotId := by
  cases step with
  | kept same =>
    rw [TiedTo, same] at tied
    exact Or.inl tied
  | made other tie current one still =>
    rw [TiedTo, one] at tied
    by_cases own : other.toNat = id.toNat
    · rw [own, List.getElem?_set_self'] at tied
      obtain ⟨-, -, rfl⟩ := Option.map_eq_some_iff.mp tied
      exact Or.inr ⟨still, (current rfl).symm⟩
    · rw [List.getElem?_set_ne own] at tied
      exact Or.inl tied
  | cleared all =>
    rw [TiedTo, all, Bank.ties, List.getElem?_map] at tied
    obtain ⟨tie, -, ended⟩ := Option.map_eq_some_iff.mp tied
    cases ended

theorem reload_keeps (m : Machine R) (program : List UInt8) :
    (m.reload program).bank = m.bank ∧ (m.reload program).store.mappings = m.store.mappings := by
  unfold reload
  cases loaded : m.loadProgram program with
  | error fault => exact ⟨rfl, rfl⟩
  | ok after =>
    obtain ⟨memory, -, same⟩ := except_bind_eq_ok.mp loaded
    cases except_pure_eq_ok.mp same
    exact ⟨rfl, rfl⟩

variable [Rational R]

theorem operate_mappings (m : Machine R) (now : UInt64) (action : BankAction R) :
    (m.operate now action).store.mappings = m.store.mappings := by
  have perhaps : ∀ change, (m.withBankIf change).store.mappings = m.store.mappings := by
    intro change
    cases change <;> rfl
  cases action with
  | clear | setDirection | setTunings | setSampleTime => exact perhaps _
  | init | setMode | setLimits | compute | computeAll | clearAll => rfl

theorem operate_tieStep (m : Machine R) (now : UInt64) (action : BankAction R) :
    TieStep m (m.operate now action) := by
  have still := operate_mappings m now action
  have acts : Acts m.memory.capacity m now (m.operate now action) := operate_acts m now action
  generalize m.operate now action = after at still acts
  cases acts with
  | refused => exact .kept rfl
  | one id c event found =>
    exact tieStep_of_set found (ControlLoop.react_tie ⟨c, m.store⟩ event) rfl still
  | ticked => exact .kept (Bank.tick_ties now m.bank.controllers m.store)
  | cleared => exact .cleared (Bank.clearAll_ties m.bank)

variable {clock : Clock} {op : Opcode} {next : UInt16} {fault : Fault}

theorem execute_tieStep (inside : m.pc.toNat < m.memory.capacity)
    (done : m.execute clock op = .ok next after) : TieStep m after := by
  have confined := execute_confined inside done
  cases about : op.onControllers with
  | false => exact .kept (congrArg Bank.ties (confined.bank about))
  | true =>
    cases op with
    | pidInit =>
      obtain ⟨id, settings, c, -, found, -, rfl⟩ := initController_ok done
      have made := c.tiedTo_tie settings clock.millis m.store.mappings
      exact tieStep_of_set found (Or.inr made) rfl rfl
    | pidClear =>
      obtain ⟨bank, run, rfl⟩ := changingBank_ok done
      obtain ⟨s, p1, -, rest⟩ := bind_eq_ok.mp run
      obtain ⟨c, found, set⟩ := Bank.update_eq_ok.mp (lift_eq_ok.mp rest).1
      exact tieStep_of_set found (Or.inr (c.clear_tie m.store.mappings)) set rfl
    | pidStop | pidRun =>
      obtain ⟨s, bank, -, changed, rfl⟩ := changeMode_ok done
      obtain ⟨c, turned, found, mode, set⟩ := Bank.setMode_eq_ok.mp changed
      have same : turned.tie = c.tie := by
        have kept := Controller.setMode_tie c m.memory
        rw [← kept, mode]
        rfl
      exact tieStep_of_set found (Or.inl same) set rfl
    | _ => cases about

theorem execute_error_tieStep (failed : m.execute clock op = .error fault after) :
    TieStep m after := by
  cases op with
  | halt => cases failed
  | multiload =>
    obtain ⟨memory, rfl⟩ := execute_residue failed
    exact .kept rfl
  | urlMapCheck =>
    obtain ⟨mappings, rfl⟩ := execute_residue failed
    exact .kept rfl
  | pidRun =>
    obtain ⟨nobody, somebody⟩ := changeMode_error failed
    cases addressed : m.addressed? with
    | none =>
      rw [nobody addressed]
      exact .kept rfl
    | some pair =>
      obtain ⟨-, -, integral, rfl⟩ := somebody pair.1 pair.2 addressed
      have same : ({ pair.2 with integral := integral } : Controller R).tie = pair.2.tie := rfl
      exact tieStep_of_set (addressed_eq_some addressed) (Or.inl same) rfl rfl
  | reset =>
    cases failed
    exact .cleared (Bank.clearAll_ties m.bank)
  | _ =>
    cases execute_residue failed
    exact .kept rfl

theorem step_tieStep (m : Machine R) (clock : Clock) : TieStep m (m.step clock).state := by
  cases outcome : m.step clock with
  | ok u after =>
    rcases step_ok outcome with ⟨-, rfl⟩ | ⟨-, op, next, changed, here, run, rfl⟩
    · exact .kept rfl
    · have inside := (Memory.load_eq_ok.mp (opcode_eq_some.mp here)).1
      have step := execute_tieStep (m := m.started) inside run
      exact tieStep_of_parts step rfl rfl rfl rfl
  | error fault after =>
    rcases step_error outcome with ⟨-, ⟨-, rfl⟩ | ⟨op, left, -, run, rfl⟩⟩
    · exact .kept rfl
    · have step := execute_error_tieStep run
      exact tieStep_of_parts step rfl rfl rfl rfl

theorem undergo_tieStep (m : Machine R) (event : MachineEvent R) :
    TieStep m (m.undergo event) := by
  cases event with
  | load program => exact .kept (congrArg Bank.ties (reload_keeps m program).1)
  | clear => exact .kept rfl
  | reset => exact .cleared (Bank.clearAll_ties m.bank)
  | step clock => exact step_tieStep m clock
  | onBank action clock => exact operate_tieStep m clock.millis action

end Machine
end ControlMachine
