import ControlMachine.Proofs.ControlLoop
import ControlMachine.Proofs.Outline

/- A bank on a store that others change as well. Each action on a bank is an event in the loop of one
   controller, or one event for each of them in turn, so the controllers stay as safe together as each
   is alone. -/
namespace ControlMachine

inductive BankEvent (R : Type) (capacity : Nat) where
  | use (action : BankAction R) (now : UInt64)
  | disturb (store : Store) (same : store.memory.capacity = capacity)

namespace Controller
variable {capacity : Nat} {c : Controller Fixed} {store : Store}

def SafeIn (capacity : Nat) (c : Controller Fixed) : Prop :=
  ∀ store : Store, store.memory.capacity = capacity → ControlLoop.Safe capacity ⟨c, store⟩

theorem fresh_safeIn (capacity : Nat) (id : UInt8) : (fresh id : Controller Fixed).SafeIn capacity := by
  intro store size
  apply ControlLoop.safe_of_idle
  · rintro ⟨initialized, -⟩
    cases initialized
  · exact size
  · exact Int.le_refl _
  · exact ControlLoop.one_le_least

theorem react_safeIn (safe : c.SafeIn capacity) (size : store.memory.capacity = capacity)
    (event : ControlEvent Fixed capacity) :
    (ControlLoop.react ⟨c, store⟩ event).controller.SafeIn capacity ∧
      (ControlLoop.react ⟨c, store⟩ event).store.memory.capacity = capacity := by
  have after := ControlLoop.react_safe (safe store size) event
  refine ⟨?_, after.size⟩
  intro other same
  exact ControlLoop.react_safe after (.disturb other same)

end Controller

namespace Bank

theorem tick_safeIn {capacity : Nat} (now : UInt64) (cs : List (Controller Fixed)) (store : Store)
    (size : store.memory.capacity = capacity) (safe : ∀ c ∈ cs, c.SafeIn capacity) :
    ∀ c ∈ (tick now cs store).2.1, c.SafeIn capacity := by
  induction cs generalizing store with
  | nil => exact safe
  | cons c rest ih =>
    obtain ⟨first, others⟩ := List.forall_mem_cons.mp safe
    obtain ⟨after, kept⟩ := Controller.react_safeIn first size (.compute now)
    exact List.forall_mem_cons.mpr ⟨after, ih _ kept others⟩

variable {R : Type} {b : Bank R} {id : UInt8} {c d : Controller R}

theorem mem_of_controller (found : b.controller id = .ok c) : c ∈ b.controllers :=
  List.mem_of_getElem? (controller_eq_ok.mp found)

theorem mem_set (there : d ∈ (b.set id c).controllers) : d ∈ b.controllers ∨ d = c :=
  List.mem_or_eq_of_mem_set there

variable [Rational R]

theorem mem_ofCount {count : Nat} (there : c ∈ (ofCount count : Bank R).controllers) :
    ∃ id, c = .fresh id := by
  obtain ⟨i, -, rfl⟩ := List.mem_map.mp there
  exact ⟨UInt8.ofNat i, rfl⟩

end Bank

namespace Machine
variable {R : Type} {m : Machine R} {capacity : Nat}

def withLoop (m : Machine R) (id : UInt8) (l : ControlLoop R) : Machine R :=
  { m with bank := m.bank.set id l.controller, store := l.store }

variable [Rational R]

inductive Acts (capacity : Nat) (m : Machine R) (now : UInt64) : Machine R → Prop where
  | refused : Acts capacity m now m
  | one (id : UInt8) (c : Controller R) (event : ControlEvent R capacity)
      (found : m.bank.controller id = .ok c) :
      Acts capacity m now (m.withLoop id (ControlLoop.react ⟨c, m.store⟩ event))
  | ticked : Acts capacity m now (m.withBoth (m.bank.computeAll m.store now).2)
  | cleared : Acts capacity m now (m.withBank m.bank.clearAll)

theorem acts_update {id : UInt8} {now : UInt64} {f : Controller R → Controller R}
    (event : ControlEvent R capacity)
    (same : ∀ l : ControlLoop R, l.react event = l.withController (f l.controller)) :
    Acts capacity m now (m.withBankIf (m.bank.update id f)) := by
  cases found : m.bank.controller id with
  | error fault =>
    simp only [Bank.update, found, except_error_bind]
    exact .refused
  | ok c =>
    simp only [Bank.update, found, except_ok_bind]
    have acts : Acts capacity m now _ := .one id c event found
    rw [same] at acts
    exact acts

theorem operate_acts (m : Machine R) (now : UInt64) (action : BankAction R) :
    Acts capacity m now (m.operate now action) := by
  cases action with
  | init id settings =>
    cases found : m.bank.controller id with
    | error fault =>
      simp only [operate, Bank.init, found]
      exact .refused
    | ok c =>
      simp only [operate, Bank.init, found, Outcome.state_mapState]
      exact .one id c (.init settings now) found
  | clear id => exact acts_update .clear fun _ => rfl
  | setMode id mode =>
    cases found : m.bank.controller id with
    | error fault =>
      simp only [operate, Bank.setMode, found]
      exact .refused
    | ok c =>
      simp only [operate, Bank.setMode, found, Outcome.state_mapState]
      exact .one id c (.setMode mode) found
  | setLimits id lower upper =>
    cases found : m.bank.controller id with
    | error fault =>
      simp only [operate, Bank.setLimits, found]
      exact .refused
    | ok c =>
      simp only [operate, Bank.setLimits, found, Outcome.state_mapState]
      exact .one id c (.setLimits lower upper) found
  | setDirection id direction => exact acts_update (.setDirection direction) fun _ => rfl
  | setTunings id kp ki kd => exact acts_update (.setTunings kp ki kd) fun _ => rfl
  | setSampleTime id ms => exact acts_update (.setSampleTime ms) fun _ => rfl
  | compute id =>
    cases found : m.bank.controller id with
    | error fault =>
      simp only [operate, Bank.compute, found]
      exact .refused
    | ok c =>
      simp only [operate, Bank.compute, found, Outcome.state_mapState]
      exact .one id c (.compute now) found
  | computeAll => exact .ticked
  | clearAll => exact .cleared

def react (m : Machine R) : BankEvent R capacity → Machine R
  | .use action now => m.operate now action
  | .disturb store _ => { m with store := store }

/-- All controllers of the bank are safe, whatever its memory holds. -/
structure SafeBank (capacity : Nat) (m : Machine Fixed) : Prop where
  size : m.memory.capacity = capacity
  each : ∀ c ∈ m.bank.controllers, c.SafeIn capacity

theorem acts_safe {m after : Machine Fixed} {now : UInt64} (safe : m.SafeBank capacity)
    (acts : Acts capacity m now after) : after.SafeBank capacity := by
  cases acts with
  | refused => exact safe
  | one id c event found =>
    have mine := safe.each c (Bank.mem_of_controller found)
    obtain ⟨still, kept⟩ := Controller.react_safeIn mine safe.size event
    refine ⟨kept, ?_⟩
    intro d there
    rcases Bank.mem_set there with other | rfl
    · exact safe.each d other
    · exact still
  | ticked =>
    have kept := (Bank.computeAll_sameKind m.bank m.store now).capacity
    exact ⟨kept.trans safe.size, Bank.tick_safeIn now _ m.store safe.size safe.each⟩
  | cleared =>
    refine ⟨safe.size, ?_⟩
    intro d there
    obtain ⟨c, mine, rfl⟩ := List.mem_map.mp there
    exact (Controller.react_safeIn (safe.each c mine) safe.size .clear).1

theorem react_safeBank {m : Machine Fixed} (safe : m.SafeBank capacity)
    (event : BankEvent Fixed capacity) : (m.react event).SafeBank capacity := by
  cases event with
  | use action now => exact acts_safe safe (operate_acts m now action)
  | disturb store same => exact ⟨same, safe.each⟩

theorem foldl_react_safeBank {m : Machine Fixed} (safe : m.SafeBank capacity)
    (events : List (BankEvent Fixed capacity)) : (events.foldl react m).SafeBank capacity := by
  induction events generalizing m with
  | nil => exact safe
  | cons event events ih => exact ih (react_safeBank safe event)

def withBankUsed (count : Nat) (store : Store)
    (events : List (BankEvent R store.memory.capacity)) : Machine R :=
  events.foldl react (.ofParts store (.ofCount count) 0)

theorem withBankUsed_safe (count : Nat) (store : Store)
    (events : List (BankEvent Fixed store.memory.capacity)) :
    (withBankUsed count store events).SafeBank store.memory.capacity := by
  apply foldl_react_safeBank
  refine ⟨rfl, ?_⟩
  intro c there
  obtain ⟨id, rfl⟩ := Bank.mem_ofCount there
  exact Controller.fresh_safeIn store.memory.capacity id

end Machine
end ControlMachine
