import ControlMachine.CommandLine
import ControlMachine.Proofs.Scheduling

/- Runs with a budget. A run stops at the first fault, and a loop that only asks whether the machine
   is halted stops there too, so both lead to the machine that so many steps lead to. Budgets add
   up. -/
namespace ControlMachine

namespace Machine
variable {R : Type} [Rational R] {m : Machine R} {clock : Clock}

def runningSteps (clock : Clock) (budget : Nat) (m : Machine R) : Nat :=
  (List.range budget).countP fun i => !(m.afterSteps clock i).isHalted

theorem runningSteps_succ (m : Machine R) (budget : Nat) :
    m.runningSteps clock (budget + 1) =
      (m.step clock).state.runningSteps clock budget + if m.isHalted then 0 else 1 := by
  have later : (fun i => !(m.afterSteps clock i).isHalted) ∘ Nat.succ =
      fun i => !((m.step clock).state.afterSteps clock i).isHalted := rfl
  rw [runningSteps, List.range_succ_eq_map, List.countP_cons, List.countP_map, later, afterSteps]
  cases m.isHalted with
  | true => rfl
  | false => rfl

theorem runningSteps_halted (halted : m.isHalted = true) (budget : Nat) :
    m.runningSteps clock budget = 0 := by
  refine List.countP_eq_zero.mpr fun i _ => ?_
  rw [afterSteps_halted halted, halted]
  exact Bool.false_ne_true

theorem runningSteps_add (m : Machine R) (first second : Nat) :
    m.runningSteps clock (first + second) =
      m.runningSteps clock first + (m.afterSteps clock first).runningSteps clock second := by
  have later : (fun i => !(m.afterSteps clock i).isHalted) ∘ (first + ·) =
      fun i => !((m.afterSteps clock first).afterSteps clock i).isHalted := by
    funext i
    rw [Function.comp, afterSteps_add]
  rw [runningSteps, List.range_add, List.countP_append, List.countP_map, later]
  rfl

/-- By induction on the budget. A halted machine takes no step and counts none. -/
theorem runFrom_taken (m : Machine R) (budget taken : Nat) :
    (runFrom clock budget taken m).1 = taken + m.runningSteps clock budget := by
  induction budget generalizing m taken with
  | zero => rfl
  | succ budget ih =>
    cases halted : m.isHalted with
    | true => rw [runFrom_halted halted, runningSteps_halted halted, Nat.add_zero]
    | false =>
      rw [runFrom_running halted, ih, runningSteps_succ, halted]
      simp only [Bool.false_eq_true, if_false]
      omega

theorem run_eq (m : Machine R) (clock : Clock) (budget : Nat) :
    m.run clock budget = (m.runningSteps clock budget, m.afterSteps clock budget) := by
  have taken : (m.run clock budget).1 = 0 + m.runningSteps clock budget := runFrom_taken m budget 0
  rw [Nat.zero_add] at taken
  exact Prod.ext taken (run_machine m budget)

end Machine

theorem Config.interval_of_valid {c : Config} (valid : c.validate = .ok ()) :
    0 < c.pidIntervalMs := by
  apply Nat.pos_of_ne_zero
  intro zero
  have some : c.problem? ≠ none := by
    unfold problem?
    grind
  unfold validate at valid
  split at valid
  · cases valid
  · contradiction

namespace Command
variable {R : Type} [Rational R] {μ : Type → Type} [Monad μ] [LawfulMonad μ]

def pausing (pause : μ Unit) : Nat → μ Unit
  | 0 => pure ()
  | n + 1 => do
    pause
    pausing pause n

/-- While the clock stands still, no interval ever passes, and the loop does what a run does with a
    pause after each step. -/
theorem drive_still (pause : μ Unit) {intervalMs : Nat} (positive : 0 < intervalMs)
    (clock : Clock) (budget taken : Nat) (m : Machine R) :
    drive (pure clock) pause intervalMs budget taken clock m = (do
      pausing pause (m.runningSteps clock budget)
      return Machine.runFrom clock budget taken m) := by
  induction budget generalizing taken m with
  | zero => simp [drive, Machine.runningSteps, pausing, Machine.runFrom]
  | succ budget ih =>
    cases halted : m.isHalted with
    | true =>
      rw [drive, if_pos halted, Machine.runningSteps_halted halted, Machine.runFrom_halted halted,
        pausing, pure_bind]
    | false =>
      have passed : ¬ intervalMs * 1000 ≤ (clock.micros - clock.micros).toNat := by
        rw [UInt64.sub_self]
        exact Nat.not_le_of_lt (Nat.mul_pos positive (by decide))
      rw [drive, Machine.runningSteps_succ, Machine.runFrom_running halted, halted]
      simp only [Bool.false_eq_true, if_false, pure_bind, if_neg passed, ih, pausing, bind_assoc]

end Command

namespace Machine
variable {R : Type} [Rational R]

/-- What a run with a budget comes to, how it goes on with another budget, and what a loop comes to
    that steps until the machine is halted. -/
structure Composes (m : Machine R) (clock : Clock) (first second : Nat) : Prop where
  machine : (m.run clock first).2 = m.afterSteps clock first
  taken : (m.run clock first).1 =
    (List.range first).countP fun i => !(m.afterSteps clock i).isHalted
  resumed : ((m.run clock first).2.run clock second).2 = (m.run clock (first + second)).2
  together : (m.run clock first).1 + ((m.run clock first).2.run clock second).1 =
    (m.run clock (first + second)).1
  driven : ∀ {μ : Type → Type} [Monad μ] [LawfulMonad μ] (pause : μ Unit) (config : Config),
    config.validate = .ok () →
      Command.drive (pure clock) pause config.pidIntervalMs first 0 clock m = (do
        Command.pausing pause (m.run clock first).1
        return m.run clock first)

/-- Whatever the machine and the budgets are, a run is as many steps as its budget allows, two runs
    are one with the sum of their budgets, and the loop of the command line is a run. -/
theorem budgets_compose (m : Machine R) (clock : Clock) (first second : Nat) :
    Composes m clock first second := by
  constructor
  case machine => rw [run_eq]
  case taken =>
    rw [run_eq]
    rfl
  case resumed => rw [run_eq, run_eq, run_eq, afterSteps_add]
  case together => rw [run_eq, run_eq, run_eq, runningSteps_add]
  case driven =>
    intro μ _ _ pause config valid
    rw [Command.drive_still pause (Config.interval_of_valid valid), ← run, run_eq]

end Machine
end ControlMachine
