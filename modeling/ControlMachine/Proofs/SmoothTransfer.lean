import ControlMachine.Proofs.AllOrNothing
import ControlMachine.Proofs.FixedArithmetic
import ControlMachine.Proofs.SamplePeriod

/- The way from manual to automatic control. The controller starts from what stands in its output and
   in its input, so its first sample has no derivative part and goes on from the live output, whatever
   was done with the controller before. -/
namespace ControlMachine

namespace Controller
variable {c : Controller Fixed} {input setpoint live : Fixed}

def takeover (c : Controller Fixed) (input setpoint live : Fixed) : Fixed :=
  let error := setpoint - input
  let start := Rational.clamp live c.lower c.upper
  let integral := Rational.clamp (start + c.ki * error) c.lower c.upper
  Rational.clamp (c.kp * error + integral) c.lower c.upper

theorem respond_of_seeded (integral : c.integral = Rational.clamp live c.lower c.upper)
    (last : c.lastInput = input) : (c.respond input setpoint).2 = c.takeover input setpoint live := by
  simp only [respond, takeover, integral, last, Fixed.sub_self, Fixed.mul_zero, Fixed.sub_zero]

/-- With nothing to correct the output is left where it is, or brought to the limit it exceeds. -/
theorem takeover_at_target (limits : c.lower.units ≤ c.upper.units) :
    c.takeover input input live = Rational.clamp live c.lower c.upper := by
  have within : Rational.clamp (Rational.clamp live c.lower c.upper) c.lower c.upper =
      Rational.clamp live c.lower c.upper :=
    Fixed.clamp_of_within (Fixed.clamp_within limits).1 (Fixed.clamp_within limits).2
  simp only [takeover, Fixed.sub_self, Fixed.mul_zero, Fixed.add_zero, Fixed.zero_add, within]

theorem seeded_of_setMode {memory : Memory} {started : Controller Fixed}
    (tied : c.initialized = true) (manual : c.mode = .manual)
    (turned : c.setMode memory .automatic = .ok () started) :
    ∃ live input, memory.loadRational c.output = .ok live ∧ memory.loadRational c.input = .ok input ∧
      started = { c with
        integral := Rational.clamp live c.lower c.upper
        lastInput := input
        mode := .automatic } := by
  rcases setMode_ok turned with ⟨rfl, active | idle⟩ | ⟨-, -, -, live, input, seed, measured, rfl⟩
  · rw [active.2] at manual
    cases manual
  · exact absurd ⟨tied, rfl⟩ idle
  · exact ⟨live, input, seed, measured, rfl⟩

/-- The numbers in the cells, before the controller took over, and what it made of them. -/
structure TakesOver (c : Controller Fixed) (memory written : Memory) (input setpoint live : Fixed) :
    Prop where
  measured : memory.loadRational c.input = .ok input
  wanted : memory.loadRational c.setpoint = .ok setpoint
  standing : memory.loadRational c.output = .ok live
  output : written.loadRational c.output = .ok (c.takeover input setpoint live)
  atTarget : setpoint = input →
    written.loadRational c.output = .ok (Rational.clamp live c.lower c.upper)
  still : setpoint = input → c.lower.units ≤ live.units → live.units ≤ c.upper.units →
    written.loadRational c.output = .ok live

theorem takesOver_of_output {memory written : Memory} (limits : c.lower.units ≤ c.upper.units)
    (measured : memory.loadRational c.input = .ok input)
    (wanted : memory.loadRational c.setpoint = .ok setpoint)
    (standing : memory.loadRational c.output = .ok live)
    (output : written.loadRational c.output = .ok (c.takeover input setpoint live)) :
    c.TakesOver memory written input setpoint live := by
  have atTarget : setpoint = input →
      written.loadRational c.output = .ok (Rational.clamp live c.lower c.upper) := by
    rintro rfl
    rw [output, takeover_at_target limits]
  refine ⟨measured, wanted, standing, output, atTarget, ?_⟩
  intro same above below
  rw [atTarget same, Fixed.clamp_of_within above below]

end Controller

/-- The controller is left alone but for computations. Others may go on with the store. -/
def ControlEvent.isWaiting {R : Type} {capacity : Nat} : ControlEvent R capacity → Bool
  | .compute _ => true
  | .disturb _ _ => true
  | _ => false

namespace ControlLoop
variable {capacity : Nat} {l : ControlLoop Fixed}

theorem controller_of_no_sample (safe : Safe capacity l) {event : ControlEvent Fixed capacity}
    (waiting : event.isWaiting = true) (none : l.sample? event = none) :
    (l.react event).controller = l.controller := by
  cases event with
  | compute now =>
    have output : l.controller.Active →
        l.controller.output.toNat + 4 ≤ l.store.memory.capacity :=
      fun active => safe.size ▸ safe.output active
    have unwritten : (l.controller.compute l.store now).answer ≠ .ok true := by
      intro wrote
      rw [sample?, if_pos wrote] at none
      cases none
    rw [react, Controller.unchanged_of_answer output unwritten]
    rfl
  | disturb store same => rfl
  | _ => cases waiting

theorem controller_of_no_samples (safe : Safe capacity l)
    (events : List (ControlEvent Fixed capacity))
    (waiting : ∀ event ∈ events, event.isWaiting = true) (none : l.samples events = []) :
    (events.foldl react l).controller = l.controller := by
  induction events generalizing l with
  | nil => rfl
  | cons event events ih =>
    obtain ⟨first, others⟩ := List.forall_mem_cons.mp waiting
    obtain ⟨now, later⟩ := List.append_eq_nil_iff.mp none
    have unsampled := Option.toList_eq_nil_iff.mp now
    have kept := controller_of_no_sample safe first unsampled
    exact (ih (react_safe safe event) others later).trans kept

/-- A controller is turned from manual to automatic and left to compute, without a sample so far. Its
    input and its target hold what they held when it was turned; they may share bytes with each other
    and with the output. -/
structure Transfers (l : ControlLoop Fixed) (events : List (ControlEvent Fixed capacity))
    (m : ControlLoop Fixed) : Prop where
  tied : l.controller.initialized = true
  manual : l.controller.mode = .manual
  turned : ∃ started, l.controller.setMode l.store.memory .automatic = .ok () started ∧
    (l.withController started).samples events = [] ∧
    events.foldl react (l.withController started) = m
  waiting : ∀ event ∈ events, event.isWaiting = true
  input : m.store.memory.slice l.controller.input.toNat 4 =
    l.store.memory.slice l.controller.input.toNat 4
  setpoint : m.store.memory.slice l.controller.setpoint.toNat 4 =
    l.store.memory.slice l.controller.setpoint.toNat 4

theorem takesOver_of_transfers (safe : Safe capacity l)
    {events : List (ControlEvent Fixed capacity)} {m : ControlLoop Fixed}
    (transfers : Transfers l events m) {now : UInt64} {after : Controller Fixed} {written : Memory}
    (wrote : m.controller.compute m.store now = .ok true (after, written)) :
    ∃ input setpoint live,
      l.controller.TakesOver l.store.memory written input setpoint live := by
  obtain ⟨started, turned, none, rfl⟩ := transfers.turned
  have safeStarted : Safe capacity (l.withController started) := by
    have kept := setMode_safe safe .automatic
    rwa [turned] at kept
  have same : (events.foldl react (l.withController started)).controller = started :=
    controller_of_no_samples safeStarted events transfers.waiting none
  have size : (events.foldl react (l.withController started)).store.memory.capacity =
      l.store.memory.capacity := (foldl_react_safe safeStarted events).size.trans safe.size.symm
  obtain ⟨live, input, standing, measured, rfl⟩ :=
    Controller.seeded_of_setMode transfers.tied transfers.manual turned
  rcases Controller.compute_ok wrote with
    ⟨refused, -⟩ | ⟨-, -, -, -, input', setpoint, measured', wanted, stored, -⟩
  · cases refused
  · rw [same] at measured' wanted stored
    have measured' := (Memory.loadRational_congr size transfers.input).symm.trans measured'
    have wanted := (Memory.loadRational_congr size transfers.setpoint).symm.trans wanted
    rw [measured] at measured'
    cases measured'
    rw [Controller.respond_of_seeded rfl rfl] at stored
    exact ⟨input, setpoint, live, Controller.takesOver_of_output safe.limits measured wanted standing
      (Memory.loadRational_of_stored stored)⟩

/-- After any history, the first sample of a controller that is turned automatic is counted from the
    numbers in its cells, its limits and two of its gains. -/
theorem transfer_without_bump (id : UInt8) (store : Store)
    (history : List (ControlEvent Fixed store.memory.capacity)) {l m : ControlLoop Fixed}
    (reached : history.foldl react ⟨.fresh id, store⟩ = l)
    (events : List (ControlEvent Fixed store.memory.capacity)) (transfers : Transfers l events m)
    {now : UInt64} {after : Controller Fixed} {written : Memory}
    (wrote : m.controller.compute m.store now = .ok true (after, written)) :
    ∃ input setpoint live,
      l.controller.TakesOver l.store.memory written input setpoint live := by
  subst reached
  have safe := foldl_react_safe (Controller.fresh_safeIn _ id store rfl) history
  exact takesOver_of_transfers safe transfers wrote

def resumed : ControlLoop Fixed :=
  ([.init ⟨0, 4, 8, .ofUnits 256, .ofUnits 256, .ofUnits 256, 100, .direct, 0, .ofUnits 2560⟩ 1000,
    .setMode .automatic, .compute 1000, .setMode .manual, .setLimits 0 (.ofUnits 6000),
    restored] : List (ControlEvent Fixed plant.memory.capacity)).foldl react
      ⟨.fresh 0, plant⟩

def early : List (ControlEvent Fixed plant.memory.capacity) := [.compute 1050, restored]

def restarted : ControlLoop Fixed :=
  early.foldl react (resumed.withController
    (resumed.controller.setMode resumed.store.memory .automatic).state)

/-- It is not due yet when it is turned automatic. Of the 5000 units in the output and 6 to go its first
    sample makes 5006. -/
theorem transfer_without_bump_resumed :
    ∃ after written, Transfers resumed early restarted ∧
      restarted.controller.compute restarted.store 1100 = .ok true (after, written) ∧
      written.loadRational 4 = .ok (Fixed.ofUnits 5006) ∧
      ∃ input setpoint live,
        resumed.controller.TakesOver resumed.store.memory written input setpoint live := by
  have transfers : Transfers resumed early restarted := {
    tied := rfl
    manual := rfl
    turned := ⟨_, rfl, by decide +kernel, rfl⟩
    waiting := by simp [early, restored, ControlEvent.isWaiting]
    input := rfl
    setpoint := rfl }
  have wrote := Outcome.eq_ok_of_answer
    (show (restarted.controller.compute restarted.store 1100).answer = .ok true by decide +kernel)
  exact ⟨_, _, transfers, wrote, by decide +kernel,
    transfer_without_bump 0 plant _ rfl early transfers wrote⟩

end ControlLoop
end ControlMachine
