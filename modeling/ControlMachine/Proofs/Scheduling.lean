import ControlMachine.Runner
import ControlMachine.Proofs.Steps

/- A runner under any schedule. Others post commands whenever they please, and the runner moves in
   between. As long as no command rewinds or reprograms the machine, all the runner does to it is to
   step it, so schedules differ in how far the machine has come and in nothing else. A machine that
   has halted has come as far as it can. -/
namespace ControlMachine

namespace Machine
variable {R : Type} [Rational R] {m : Machine R} {clock : Clock}

def afterSteps (clock : Clock) : Nat → Machine R → Machine R
  | 0, m => m
  | n + 1, m => afterSteps clock n (m.step clock).state

theorem afterSteps_halted (halted : m.isHalted = true) (n : Nat) : m.afterSteps clock n = m := by
  induction n with
  | zero => rfl
  | succ n ih =>
    rw [afterSteps, step_halted halted]
    exact ih

theorem afterSteps_add (m : Machine R) (i j : Nat) :
    m.afterSteps clock (i + j) = (m.afterSteps clock i).afterSteps clock j := by
  induction i generalizing m with
  | zero => rw [Nat.zero_add, afterSteps]
  | succ i ih =>
    rw [Nat.succ_add, afterSteps, afterSteps]
    exact ih (m.step clock).state

/-- A run does as many steps as its budget allows, since the steps it leaves out change nothing. -/
theorem runFrom_machine (m : Machine R) (budget taken : Nat) :
    (runFrom clock budget taken m).2 = m.afterSteps clock budget := by
  induction budget generalizing m taken with
  | zero => rfl
  | succ budget ih =>
    cases halted : m.isHalted with
    | true => rw [runFrom_halted halted, afterSteps_halted halted]
    | false =>
      rw [runFrom_running halted, afterSteps]
      exact ih (m.step clock).state (taken + 1)

theorem run_machine (m : Machine R) (budget : Nat) :
    (m.run clock budget).2 = m.afterSteps clock budget := runFrom_machine m budget 0

theorem afterSteps_of_le {i j : Nat} (halted : (m.afterSteps clock i).isHalted = true)
    (later : i ≤ j) : m.afterSteps clock j = m.afterSteps clock i := by
  obtain ⟨more, rfl⟩ := Nat.exists_eq_add_of_le later
  rw [afterSteps_add, afterSteps_halted halted]

/-- There is one machine alone that the steps can halt in. -/
theorem afterSteps_unique {i j : Nat} (first : (m.afterSteps clock i).isHalted = true)
    (second : (m.afterSteps clock j).isHalted = true) :
    m.afterSteps clock i = m.afterSteps clock j := by
  rcases Nat.le_total i j with before | behind
  · exact (afterSteps_of_le first before).symm
  · exact afterSteps_of_le second behind

end Machine

def RunnerCommand.sparesMachine : RunnerCommand → Bool
  | .restart | .load _ => false
  | .run | .stop | .status | .shutdown => true

inductive RunnerAct where
  | posted (command : RunnerCommand)
  | received (command : RunnerCommand) (answer : Option UInt32)
  | stepped
  deriving DecidableEq, Repr

namespace RunnerAct

def switch? : RunnerAct → Option Bool
  | .received .run _ => some true
  | .received .stop _ => some false
  | _ => none

def lastSwitch? (acts : List RunnerAct) : Option Bool := (acts.filterMap switch?).getLast?

def steps (acts : List RunnerAct) : Nat := acts.count .stepped

def answers (acts : List RunnerAct) : List UInt32 :=
  acts.filterMap fun
    | .received _ answer => answer
    | _ => none

/-- For each time that the status was asked for, how many steps there were before it. -/
def stepsBefore : List RunnerAct → List Nat
  | [] => []
  | .received .status _ :: acts => 0 :: stepsBefore acts
  | .stepped :: acts => (stepsBefore acts).map (· + 1)
  | _ :: acts => stepsBefore acts

variable {acts more : List RunnerAct}

theorem steps_append : steps (acts ++ more) = steps acts + steps more := List.count_append

theorem lastSwitch?_append :
    lastSwitch? (acts ++ more) = (lastSwitch? more).or (lastSwitch? acts) := by
  rw [lastSwitch?, List.filterMap_append, List.getLast?_append]
  rfl

theorem answers_append : answers (acts ++ more) = answers acts ++ answers more :=
  List.filterMap_append

theorem steps_stepped : steps (.stepped :: acts) = steps acts + 1 := List.count_cons_self

theorem steps_posted (command : RunnerCommand) : steps (.posted command :: acts) = steps acts :=
  List.count_cons_of_ne (by simp)

theorem steps_received (command : RunnerCommand) (answer : Option UInt32) :
    steps (.received command answer :: acts) = steps acts :=
  List.count_cons_of_ne (by simp)

theorem stepsBefore_stepped :
    stepsBefore (.stepped :: acts) = (stepsBefore acts).map (· + 1) := rfl

theorem stepsBefore_append :
    stepsBefore (acts ++ more) = stepsBefore acts ++ (stepsBefore more).map (· + steps acts) := by
  induction acts with
  | nil =>
    have start : (· + steps []) = (id : Nat → Nat) := rfl
    rw [start, List.map_id]
    rfl
  | cons act acts ih =>
    cases act with
    | posted command =>
      rw [steps_posted]
      exact ih
    | received command answer =>
      rw [steps_received]
      cases command with
      | status => exact congrArg (List.cons 0) ih
      | _ => exact ih
    | stepped =>
      have later : (· + steps (.stepped :: acts)) = (· + 1) ∘ (· + steps acts) := by
        funext k
        rw [steps_stepped, Function.comp, Nat.add_assoc]
      rw [later, ← List.map_map, List.cons_append, stepsBefore_stepped, stepsBefore_stepped, ih,
        List.map_append]

/-- Steps are only ever added, so a later question finds as many before it or more. -/
theorem stepsBefore_ordered (acts : List RunnerAct) :
    (stepsBefore acts).Pairwise (· ≤ ·) ∧ ∀ k ∈ stepsBefore acts, k ≤ steps acts := by
  induction acts with
  | nil => exact ⟨.nil, fun _ asked => absurd asked List.not_mem_nil⟩
  | cons act acts ih =>
    obtain ⟨ordered, reached⟩ := ih
    cases act with
    | posted command =>
      rw [steps_posted]
      exact ⟨ordered, reached⟩
    | received command answer =>
      rw [steps_received]
      cases command with
      | status =>
        refine ⟨.cons (fun k _ => Nat.zero_le k) ordered, ?_⟩
        intro k asked
        rcases List.mem_cons.mp asked with rfl | before
        · exact Nat.zero_le _
        · exact reached k before
      | _ => exact ⟨ordered, reached⟩
    | stepped =>
      rw [steps_stepped, stepsBefore_stepped]
      constructor
      · exact List.pairwise_map.mpr (ordered.imp Nat.succ_le_succ)
      · intro k asked
        obtain ⟨before, among, rfl⟩ := List.mem_map.mp asked
        exact Nat.succ_le_succ (reached before among)

end RunnerAct

namespace Runner
open RunnerAct
variable {R : Type} {clock : Clock} {r middle after : Runner R} {act : RunnerAct}
  {acts more : List RunnerAct}

def SparesMachine (r : Runner R) : Prop := ∀ command ∈ r.pending, command.sparesMachine = true

theorem nothing_waits (silent : r.pending = []) : r.SparesMachine := by
  intro command waits
  rw [silent] at waits
  cases waits

theorem running_of_stepping (stepping : r.isStepping = true) : r.running = true := by
  simp only [isStepping, Bool.and_eq_true] at stepping
  exact stepping.1.2

variable [Rational R]

/-- One act. A runner that is stopped or halted waits for a command, and steps no more. -/
inductive Moves (clock : Clock) (r : Runner R) : RunnerAct → Runner R → Prop where
  | posts (command : RunnerCommand) (after : Runner R) (taken : r.post? command = some after) :
      Moves clock r (.posted command) after
  | receives (command : RunnerCommand) (rest : List RunnerCommand)
      (waiting : r.pending = command :: rest) :
      Moves clock r (.received command (r.turn clock).1) (r.turn clock).2
  | steps (silent : r.pending = []) (stepping : r.isStepping = true) :
      Moves clock r .stepped (r.turn clock).2

inductive Runs (clock : Clock) : Runner R → List RunnerAct → Runner R → Prop where
  | rest (r : Runner R) : Runs clock r [] r
  | goOn {r middle after : Runner R} {act : RunnerAct} {acts : List RunnerAct}
      (first : Moves clock r act middle) (later : Runs clock middle acts after) :
      Runs clock r (act :: acts) after

structure Shows (clock : Clock) (r : Runner R) (acts : List RunnerAct) (after : Runner R) :
    Prop where
  spares : after.SparesMachine
  machine : after.machine = r.machine.afterSteps clock (steps acts)
  running : after.running = (lastSwitch? acts).getD r.running
  answers : answers acts =
    (stepsBefore acts).map fun k => (r.machine.afterSteps clock k).status.word

theorem shows_nil (spares : r.SparesMachine) : Shows clock r [] r := ⟨spares, rfl, rfl, rfl⟩

theorem shows_append (first : Shows clock r acts middle) (later : Shows clock middle more after) :
    Shows clock r (acts ++ more) after := by
  have moved : ∀ k, middle.machine.afterSteps clock k =
      r.machine.afterSteps clock (k + steps acts) := by
    intro k
    rw [first.machine, ← Machine.afterSteps_add, Nat.add_comm]
  constructor
  case spares => exact later.spares
  case machine => rw [later.machine, moved, steps_append, Nat.add_comm]
  case running =>
    rw [later.running, first.running, lastSwitch?_append]
    cases lastSwitch? more <;> rfl
  case answers =>
    simp only [answers_append, first.answers, later.answers, moved, stepsBefore_append,
      List.map_append, List.map_map, Function.comp_def]

theorem shows_received {command : RunnerCommand} {rest : List RunnerCommand}
    (spares : r.SparesMachine) (waiting : r.pending = command :: rest) :
    Shows clock r [.received command (r.turn clock).1] (r.turn clock).2 := by
  rw [SparesMachine, waiting] at spares
  obtain ⟨first, others⟩ := List.forall_mem_cons.mp spares
  simp only [turn, waiting]
  cases command with
  | restart | load program => cases first
  | run | stop | status => exact ⟨others, rfl, rfl, rfl⟩
  | shutdown => exact ⟨nothing_waits rfl, rfl, rfl, rfl⟩

theorem shows_move (spares : r.SparesMachine)
    (posted : ∀ command, act = .posted command → command.sparesMachine = true)
    (move : Moves clock r act after) : Shows clock r [act] after := by
  cases move with
  | posts command after taken =>
    unfold post? at taken
    split at taken
    · cases taken
      refine ⟨?_, rfl, rfl, rfl⟩
      intro other waits
      rcases List.mem_append.mp waits with before | new
      · exact spares other before
      · rw [List.mem_singleton.mp new]
        exact posted command rfl
    · cases taken
  | receives command rest waiting => exact shows_received spares waiting
  | steps silent stepping =>
    have stepped : (r.turn clock).2 = { r with machine := (r.machine.step clock).state } := by
      simp only [turn, silent, idle, if_pos stepping]
    rw [stepped]
    exact ⟨spares, rfl, rfl, rfl⟩

/-- By induction on the acts, with what waits at each of them kept harmless. -/
theorem shows_runs (runs : Runs clock r acts after) (spares : r.SparesMachine)
    (posted : ∀ command, .posted command ∈ acts → command.sparesMachine = true) :
    Shows clock r acts after := by
  induction runs with
  | rest r => exact shows_nil spares
  | goOn first later ih =>
    have move := shows_move spares
      (fun command same => posted command (same ▸ List.mem_cons_self)) first
    have others := ih move.spares fun command later => posted command (List.mem_cons_of_mem _ later)
    exact shows_append move others

theorem runs_append (runs : Runs clock r (acts ++ more) after) :
    ∃ middle, Runs clock r acts middle ∧ Runs clock middle more after := by
  induction acts generalizing r with
  | nil => exact ⟨r, .rest r, runs⟩
  | cons act acts ih =>
    cases runs with
    | goOn first later =>
      obtain ⟨middle, before, rest⟩ := ih later
      exact ⟨middle, .goOn first before, rest⟩

/-- How a machine stands that was started under a runner. -/
structure OnCourse (clock : Clock) (start : Machine R) (acts : List RunnerAct) (r : Runner R) :
    Prop where
  machine : r.machine = start.afterSteps clock (steps acts)
  /-- It is stepped only while the last word was to run. -/
  still : ∀ earlier later, acts = earlier ++ .stepped :: later → lastSwitch? earlier = some true
  answers : answers acts = (stepsBefore acts).map fun k => (start.afterSteps clock k).status.word
  ordered : (stepsBefore acts).Pairwise (· ≤ ·)
  reached : ∀ k ∈ stepsBefore acts, k ≤ steps acts
  /-- Halted, it is the machine that a run with a budget large enough leads to. -/
  halted : r.machine.isHalted = true →
    (∀ budget, steps acts ≤ budget → (start.run clock budget).2 = r.machine) ∧
      ∀ budget, (start.run clock budget).2.isHalted = true →
        (start.run clock budget).2 = r.machine

variable {start : Machine R}

theorem still_of_runs (runs : Runs clock (ofMachine start) acts r)
    (posted : ∀ command, .posted command ∈ acts → command.sparesMachine = true)
    {earlier later : List RunnerAct} (split : acts = earlier ++ .stepped :: later) :
    lastSwitch? earlier = some true := by
  subst split
  obtain ⟨middle, before, rest⟩ := runs_append runs
  have seen := shows_runs before (nothing_waits rfl)
    fun command early => posted command (List.mem_append_left _ early)
  cases rest with
  | goOn first _ =>
    cases first with
    | steps silent stepping =>
      have running := running_of_stepping stepping
      rw [seen.running] at running
      cases last : lastSwitch? earlier with
      | none =>
        rw [last] at running
        cases running
      | some told =>
        rw [last] at running
        rw [← running]
        rfl

theorem onCourse_of_runs (runs : Runs clock (ofMachine start) acts r)
    (posted : ∀ command, .posted command ∈ acts → command.sparesMachine = true) :
    OnCourse clock start acts r := by
  have seen := shows_runs runs (nothing_waits rfl) posted
  have machine : r.machine = start.afterSteps clock (steps acts) := seen.machine
  obtain ⟨ordered, reached⟩ := stepsBefore_ordered acts
  refine ⟨machine, fun _ _ => still_of_runs runs posted, seen.answers, ordered, reached, ?_⟩
  intro halted
  rw [machine] at halted ⊢
  constructor
  · intro budget enough
    rw [Machine.run_machine]
    exact Machine.afterSteps_of_le halted enough
  · intro budget ended
    rw [Machine.run_machine] at ended ⊢
    exact Machine.afterSteps_unique ended halted

/-- Whatever is posted when, the machine is on its course, and two schedules that both lead to a halted
    machine lead to the same one. -/
theorem machine_of_any_schedule (start : Machine R) (clock : Clock) (acts : List RunnerAct)
    (r : Runner R) (runs : Runs clock (ofMachine start) acts r)
    (posted : ∀ command, .posted command ∈ acts → command.sparesMachine = true) :
    OnCourse clock start acts r ∧
      ∀ others other, Runs clock (ofMachine start) others other →
        (∀ command, .posted command ∈ others → command.sparesMachine = true) →
        r.machine.isHalted = true → other.machine.isHalted = true →
        other.machine = r.machine := by
  have course := onCourse_of_runs runs posted
  refine ⟨course, ?_⟩
  intro others other otherRuns otherPosted halted otherHalted
  have otherCourse := onCourse_of_runs otherRuns otherPosted
  rw [course.machine] at halted ⊢
  rw [otherCourse.machine] at otherHalted ⊢
  exact Machine.afterSteps_unique otherHalted halted

def adding : Machine Fixed := Machine.filled [0x01, 0x05, 0x06, 0x00, 0x07, 0x00, 0x00]

def interrupted : List RunnerAct :=
  [.posted .run, .posted .status, .received .run none, .received .status (some 0), .stepped,
    .posted .stop, .received .stop none, .posted .status, .received .status (some 0x100),
    .posted .run, .received .run none, .stepped]

def uninterrupted : List RunnerAct := [.posted .run, .received .run none, .stepped, .stepped]

theorem machine_of_any_schedule_interrupted :
    ∃ r other, Runs ⟨0⟩ (ofMachine adding) interrupted r ∧
      Runs ⟨0⟩ (ofMachine adding) uninterrupted other ∧ r.machine.isHalted = true ∧
      r.machine.memory.byteAt 6 = 7 ∧ (adding.run ⟨0⟩ 5).2 = r.machine ∧
      other.machine = r.machine := by
  have runs : Runs ⟨0⟩ (ofMachine adding) interrupted
      ⟨adding.afterSteps ⟨0⟩ 2, true, true, []⟩ :=
    .goOn (.posts .run _ rfl) <| .goOn (.posts .status _ rfl) <|
      .goOn (.receives .run _ rfl) <| .goOn (.receives .status _ rfl) <|
      .goOn (.steps rfl rfl) <|
      .goOn (.posts .stop _ rfl) <| .goOn (.receives .stop _ rfl) <|
      .goOn (.posts .status _ rfl) <| .goOn (.receives .status _ rfl) <|
      .goOn (.posts .run _ rfl) <| .goOn (.receives .run _ rfl) <|
      .goOn (.steps rfl rfl) <| .rest _
  have others : Runs ⟨0⟩ (ofMachine adding) uninterrupted
      ⟨adding.afterSteps ⟨0⟩ 2, true, true, []⟩ :=
    .goOn (.posts .run _ rfl) <| .goOn (.receives .run _ rfl) <|
      .goOn (.steps rfl rfl) <| .goOn (.steps rfl rfl) <| .rest _
  have posted : ∀ command, .posted command ∈ interrupted → command.sparesMachine = true := by
    simp [interrupted, RunnerCommand.sparesMachine]
  have otherPosted : ∀ command, .posted command ∈ uninterrupted →
      command.sparesMachine = true := by
    simp [uninterrupted, RunnerCommand.sparesMachine]
  have halted : (adding.afterSteps ⟨0⟩ 2).isHalted = true := by rfl
  obtain ⟨course, same⟩ := machine_of_any_schedule adding ⟨0⟩ interrupted _ runs posted
  refine ⟨_, _, runs, others, halted, by rfl, ?_, ?_⟩
  · exact (course.halted halted).1 5 (by decide)
  · exact same _ _ others otherPosted halted halted

end Runner
end ControlMachine
