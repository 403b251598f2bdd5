import ControlMachine.Proofs.ControllerOperations
import ControlMachine.Proofs.FixedOrder

/- A controller and the memory it works on, over operations in any order. Between them others may
   change the bytes of memory and the mappings, but memory keeps its size. An operation that fails
   leaves what it left behind, and the next one goes on from there. -/
namespace ControlMachine

structure ControlLoop (R : Type) where
  controller : Controller R
  store : Store

inductive ControlEvent (R : Type) (capacity : Nat) where
  | init (settings : PidSettings R) (now : UInt64)
  | compute (now : UInt64)
  | setMode (mode : Mode)
  | setLimits (lower upper : R)
  | setDirection (direction : Direction)
  | setTunings (kp ki kd : R)
  | setSampleTime (ms : UInt32)
  | clear
  | disturb (store : Store) (same : store.memory.capacity = capacity)

namespace ControlLoop
variable {R : Type} {capacity : Nat}

def withController (l : ControlLoop R) (c : Controller R) : ControlLoop R :=
  { l with controller := c }

def withBoth (l : ControlLoop R) (both : Controller R × Memory) : ControlLoop R :=
  ⟨both.1, { l.store with memory := both.2 }⟩

def react [Rational R] (l : ControlLoop R) : ControlEvent R capacity → ControlLoop R
  | .init settings now => l.withBoth (l.controller.init l.store settings now).state
  | .compute now => l.withBoth (l.controller.compute l.store now).state
  | .setMode mode => l.withController (l.controller.setMode l.store.memory mode).state
  | .setLimits lower upper =>
    l.withBoth (l.controller.setLimits l.store.memory lower upper).state
  | .setDirection direction => l.withController (l.controller.setDirection direction)
  | .setTunings kp ki kd => l.withController (l.controller.setTunings kp ki kd)
  | .setSampleTime ms => l.withController (l.controller.setSampleTime ms)
  | .clear => l.withController l.controller.clear
  | .disturb store _ => { l with store := store }

theorem react_init [Rational R] (l : ControlLoop R) (settings : PidSettings R) (now : UInt64) :
    (l.controller.initialized = true ∧
        l.react (.init settings now : ControlEvent R capacity) = l) ∨
      l.controller.initialized = false ∧
        l.react (.init settings now : ControlEvent R capacity) =
          l.withController (l.controller.tiedTo settings now l.store.mappings) := by
  rw [react, Controller.init_eq]
  cases l.controller.initialized with
  | true => exact Or.inl ⟨rfl, rfl⟩
  | false => exact Or.inr ⟨rfl, rfl⟩

/-- The limits of a controller and its period are always usable. Its cells and its integral are
   looked after as soon as it acts on its output; before that they may be anything. -/
structure Safe (capacity : Nat) (l : ControlLoop Fixed) : Prop where
  size : l.store.memory.capacity = capacity
  limits : l.controller.lower.units ≤ l.controller.upper.units
  period : 1 ≤ l.controller.sampleMs
  input : l.controller.Active → l.controller.input.toNat + 4 ≤ capacity
  output : l.controller.Active → l.controller.output.toNat + 4 ≤ capacity
  integral : l.controller.Active → l.controller.lower.units ≤ l.controller.integral.units ∧
    l.controller.integral.units ≤ l.controller.upper.units

variable {l : ControlLoop Fixed}

theorem safe_of_idle (idle : ¬ l.controller.Active) (size : l.store.memory.capacity = capacity)
    (limits : l.controller.lower.units ≤ l.controller.upper.units)
    (period : 1 ≤ l.controller.sampleMs) : Safe capacity l where
  size := size
  limits := limits
  period := period
  input := fun active => absurd active idle
  output := fun active => absurd active idle
  integral := fun active => absurd active idle

/-- Gains and direction play no part. -/
theorem safe_regained (before : Safe capacity l) (kp ki kd : Fixed) (direction : Direction) :
    Safe capacity (l.withController
      { l.controller with kp := kp, ki := ki, kd := kd, direction := direction }) :=
  ⟨before.size, before.limits, before.period, before.input, before.output, before.integral⟩

theorem one_le_least : 1 ≤ Controller.leastSampleMs := by decide

theorem one_le_period (ms : UInt32) : 1 ≤ max ms Controller.leastSampleMs := by
  rw [show max ms Controller.leastSampleMs =
    if ms ≤ Controller.leastSampleMs then Controller.leastSampleMs else ms from rfl]
  by_cases short : ms ≤ Controller.leastSampleMs
  · rw [if_pos short]
    exact one_le_least
  · rw [if_neg short]
    have long := UInt32.not_le.mp short
    exact UInt32.le_trans one_le_least (UInt32.le_of_lt long)

theorem tiedTo_safe (before : Safe capacity l) (settings : PidSettings Fixed) (now : UInt64)
    (mappings : MappingTable) :
    Safe capacity (l.withController (l.controller.tiedTo settings now mappings)) := by
  obtain ⟨kp, ki, kd, tied⟩ := Controller.tiedTo_gains l.controller settings now mappings
  rw [tied]
  apply safe_of_idle
  · rintro ⟨-, automatic⟩
    cases automatic
  · exact before.size
  · rcases Controller.boundTo_limits l.controller settings with
      ⟨valid, lower, upper⟩ | ⟨lower, upper⟩
    · have ordered := Fixed.validLimits_iff.mp valid
      simp only [withController, lower, upper]
      omega
    · simp only [withController, lower, upper]
      exact before.limits
  · exact one_le_period settings.sampleMs

theorem compute_safe (before : Safe capacity l) (now : UInt64) :
    Safe capacity (l.withBoth (l.controller.compute l.store now).state) := by
  cases outcome : l.controller.compute l.store now with
  | ok wrote both =>
    obtain ⟨after, written⟩ := both
    rcases Controller.compute_ok outcome with
      ⟨-, rfl, rfl⟩ | ⟨-, active, -, -, input, setpoint, -, -, stored, rfl⟩
    · exact before
    · have kept := Memory.overwritten_capacity (Memory.storeRational_overwritten stored)
      exact ⟨kept.trans before.size, before.limits, before.period, before.input, before.output,
        fun _ => Fixed.clamp_within before.limits⟩
  | error fault both =>
    obtain ⟨after, written⟩ := both
    obtain ⟨active, rfl, left⟩ := Controller.compute_error outcome
    rcases left with ⟨rfl, -⟩ | ⟨-, -, ⟨rfl, -⟩ | ⟨outside, -⟩⟩
    · exact before
    · exact before
    · have inside := before.output active
      have size := before.size
      omega

theorem setMode_safe (before : Safe capacity l) (mode : Mode) :
    Safe capacity (l.withController (l.controller.setMode l.store.memory mode).state) := by
  have size := before.size
  cases outcome : l.controller.setMode l.store.memory mode with
  | ok u after =>
    rcases Controller.setMode_ok outcome with
      ⟨rfl, active | idle⟩ | ⟨-, -, -, output, input, seeded, measured, rfl⟩
    · exact ⟨size, before.limits, before.period, fun _ => before.input active,
        fun _ => before.output active, fun _ => before.integral active⟩
    · exact safe_of_idle idle size before.limits before.period
    · have outputInside := (Memory.loadRational_eq_ok.mp seeded).1
      have inputInside := (Memory.loadRational_eq_ok.mp measured).1
      rw [size] at outputInside inputInside
      exact ⟨size, before.limits, before.period, fun _ => inputInside, fun _ => outputInside,
        fun _ => Fixed.clamp_within before.limits⟩
  | error fault after =>
    obtain ⟨-, manual, integral, rfl⟩ := Controller.setMode_error outcome
    apply safe_of_idle
    · rintro ⟨-, automatic⟩
      rw [Outcome.state, withController, manual] at automatic
      cases automatic
    · exact size
    · exact before.limits
    · exact before.period

theorem setLimits_safe (before : Safe capacity l) (lower upper : Fixed) :
    Safe capacity (l.withBoth (l.controller.setLimits l.store.memory lower upper).state) := by
  have size := before.size
  cases outcome : l.controller.setLimits l.store.memory lower upper with
  | ok u both =>
    obtain ⟨after, written⟩ := both
    rcases Controller.setLimits_ok outcome with
      ⟨-, rfl, rfl⟩ | ⟨valid, ⟨manual, rfl, rfl⟩ | ⟨-, -, rfl, kept⟩⟩
    · exact before
    · have ordered := Int.le_of_lt (Fixed.validLimits_iff.mp valid)
      apply safe_of_idle
      · rintro ⟨-, automatic⟩
        rw [Outcome.state, withBoth, manual] at automatic
        cases automatic
      · exact size
      · exact ordered
      · exact before.period
    · have ordered := Int.le_of_lt (Fixed.validLimits_iff.mp valid)
      have same : written.capacity = capacity := by
        rcases kept with rfl | patched
        · exact size
        · exact (Memory.overwritten_capacity patched).trans size
      exact ⟨same, ordered, before.period, before.input, before.output,
        fun _ => Fixed.clamp_within ordered⟩
  | error fault both =>
    obtain ⟨after, written⟩ := both
    obtain ⟨valid, automatic, outside, rfl, rfl⟩ := Controller.setLimits_error outcome
    -- an active controller has its output cell in memory, so this one is not initialized
    apply safe_of_idle
    · intro active
      have inside := before.output active
      omega
    · exact size
    · exact Int.le_of_lt (Fixed.validLimits_iff.mp valid)
    · exact before.period

theorem react_safe (before : Safe capacity l) (event : ControlEvent Fixed capacity) :
    Safe capacity (l.react event) := by
  cases event with
  | init settings now =>
    rcases react_init l settings now with ⟨-, same⟩ | ⟨-, same⟩
    · rw [same]
      exact before
    · rw [same]
      exact tiedTo_safe before settings now l.store.mappings
  | compute now => exact compute_safe before now
  | setMode mode => exact setMode_safe before mode
  | setLimits lower upper => exact setLimits_safe before lower upper
  | setDirection direction =>
    obtain ⟨kp, ki, kd, same⟩ := Controller.setDirection_gains l.controller direction
    rw [react, same]
    exact safe_regained before kp ki kd direction
  | setTunings p i d =>
    obtain ⟨kp, ki, kd, same⟩ := Controller.setTunings_gains l.controller p i d
    rw [react, same]
    exact safe_regained before kp ki kd l.controller.direction
  | setSampleTime ms =>
    rw [react]
    rcases Controller.setSampleTime_gains l.controller ms with same | ⟨some, ki, kd, same⟩
    · rw [same]
      exact before
    · rw [same]
      have positive : 1 ≤ ms := by
        have nonzero : ms.toNat ≠ 0 := fun zero => some (UInt32.toNat_inj.mp zero)
        rw [UInt32.le_iff_toNat_le]
        exact Nat.pos_of_ne_zero nonzero
      exact ⟨before.size, before.limits, positive, before.input, before.output, before.integral⟩
  | clear =>
    apply safe_of_idle
    · rintro ⟨initialized, -⟩
      cases initialized
    · exact before.size
    · exact before.limits
    · exact before.period
  | disturb store same =>
    exact ⟨same, before.limits, before.period, before.input, before.output, before.integral⟩

theorem foldl_react_safe (before : Safe capacity l) (events : List (ControlEvent Fixed capacity)) :
    Safe capacity (events.foldl react l) := by
  induction events generalizing l with
  | nil => exact before
  | cons event events ih => exact ih (react_safe before event)

/-- A new controller is safe, and stays so whatever is done with it. -/
theorem safe_after_events (id : UInt8) (store : Store)
    (events : List (ControlEvent Fixed store.memory.capacity)) :
    Safe store.memory.capacity (events.foldl react ⟨.fresh id, store⟩) := by
  have start : Safe store.memory.capacity ⟨.fresh id, store⟩ := by
    apply safe_of_idle
    · rintro ⟨initialized, -⟩
      cases initialized
    · rfl
    · exact Int.le_refl _
    · exact one_le_least
  exact foldl_react_safe start events

def plant : Store :=
  ⟨(Memory.ofCapacity 12).patch 0 [4, 0, 0, 0, 0x88, 0x13, 0, 0, 10, 0, 0, 0], .ofSize 1⟩

def starting : List (ControlEvent Fixed plant.memory.capacity) :=
  [.init ⟨0, 4, 8, .ofUnits 256, .ofUnits 256, 0, 100, .direct, 0, .ofUnits 2560⟩ 1000,
    .setMode .automatic]

theorem safe_after_events_starting :
    (starting.foldl react ⟨.fresh 0, plant⟩).controller.Active ∧
      (starting.foldl react ⟨.fresh 0, plant⟩).controller.upper.units = 2560 ∧
      (starting.foldl react ⟨.fresh 0, plant⟩).controller.integral.units ≤ 2560 := by
  have active : (starting.foldl react ⟨.fresh 0, plant⟩).controller.Active := ⟨by rfl, by rfl⟩
  have upper : (starting.foldl react ⟨.fresh 0, plant⟩).controller.upper.units = 2560 := by rfl
  have within := (safe_after_events 0 plant starting).integral active
  rw [upper] at within
  exact ⟨active, upper, within.2⟩

end ControlLoop
end ControlMachine
