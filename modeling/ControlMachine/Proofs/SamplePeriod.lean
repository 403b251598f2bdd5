import ControlMachine.Proofs.HeldBack

/- The samples that a controller takes from one initialization to the next. The time of the last one
   is kept by all that is done with the controller but another sample, so no two of them are closer
   than the period at the time of the later one. An initialization puts the last sample one period
   back, before the start of time if need be, so that the first sample need not wait. -/
namespace ControlMachine

structure Sample where
  ms : UInt64
  period : UInt32
  deriving DecidableEq, Repr

namespace Sample

def Before (earlier later : Sample) : Prop :=
  earlier.ms.toNat + later.period.toNat ≤ later.ms.toNat

end Sample

namespace ControlEvent
variable {R : Type} {capacity : Nat}

def time? : ControlEvent R capacity → Option UInt64
  | .init _ now => some now
  | .compute now => some now
  | _ => none

def times (events : List (ControlEvent R capacity)) : List UInt64 := events.filterMap time?

end ControlEvent

namespace Controller
variable {R : Type} {c : Controller R} {start now : UInt64}

theorem spaced_of_isDue (due : c.isDue now = true) (later : c.lastMs ≤ now) :
    c.lastMs.toNat + c.sampleMs.toNat ≤ now.toNat := by
  have waited : c.sampleMs.toUInt64 ≤ now - c.lastMs := of_decide_eq_true due
  rw [UInt64.le_iff_toNat_le, UInt32.toNat_toUInt64, UInt64.toNat_sub_of_le _ _ later] at waited
  rw [UInt64.le_iff_toNat_le] at later
  omega

/-- The differences wrap around together, also where the start is less than one period after zero. -/
theorem isDue_of_behind (behind : c.lastMs = start - c.sampleMs.toUInt64) (later : start ≤ now)
    (near : now.toNat < start.toNat + 0x8000000000000000) : c.isDue now = true := by
  have short := c.sampleMs.toNat_lt
  have small := start.toNat_lt
  rw [UInt64.le_iff_toNat_le] at later
  rw [isDue, behind, decide_eq_true_eq, UInt64.le_iff_toNat_le, UInt64.toNat_sub, UInt64.toNat_sub,
    UInt32.toNat_toUInt64]
  omega

variable [Rational R]

theorem behind_of_init {store : Store} {settings : PidSettings R} {both : Controller R × Memory}
    (done : c.init store settings start = .ok () both) :
    both.1.lastMs = start - both.1.sampleMs.toUInt64 := by
  obtain ⟨-, rfl⟩ := init_ok done
  rfl

end Controller

namespace ControlLoop
variable {R : Type} [Rational R] {capacity : Nat} {l : ControlLoop R}

def sample? (l : ControlLoop R) : ControlEvent R capacity → Option Sample
  | .compute now =>
    if (l.controller.compute l.store now).answer = .ok true then some ⟨now, l.controller.sampleMs⟩
    else none
  | _ => none

def samples (l : ControlLoop R) : List (ControlEvent R capacity) → List Sample
  | [] => []
  | event :: events => (l.sample? event).toList ++ samples (l.react event) events

def initializes (l : ControlLoop R) : ControlEvent R capacity → Bool
  | .init _ _ => !l.controller.initialized
  | _ => false

/-- No event ties the controller anew; attempts that are refused may be among them. -/
def StaysTied (l : ControlLoop R) : List (ControlEvent R capacity) → Prop
  | [] => True
  | event :: events => l.initializes event = false ∧ StaysTied (l.react event) events

instance decidableStaysTied : (l : ControlLoop R) → (events : List (ControlEvent R capacity)) →
    Decidable (l.StaysTied events)
  | _, [] => isTrue trivial
  | l, event :: events =>
    have := decidableStaysTied (l.react event) events
    inferInstanceAs (Decidable (_ ∧ _))

theorem sample_eq_some {event : ControlEvent R capacity} {s : Sample}
    (taken : l.sample? event = some s) :
    event = .compute s.ms ∧ s.period = l.controller.sampleMs ∧ l.controller.isDue s.ms = true ∧
      (l.react event).controller.lastMs = s.ms := by
  cases event with
  | compute now =>
    rw [sample?] at taken
    split at taken
    · rename_i wrote
      cases taken
      rcases Controller.compute_ok (Outcome.eq_ok_of_answer wrote) with
        ⟨refused, -⟩ | ⟨-, -, -, due, input, setpoint, -, -, -, after⟩
      · cases refused
      · exact ⟨rfl, rfl, due, congrArg Controller.lastMs after⟩
    · cases taken
  | _ => cases taken

theorem lastMs_of_no_sample {event : ControlEvent R capacity} (refused : l.initializes event = false)
    (none : l.sample? event = none) : (l.react event).controller.lastMs = l.controller.lastMs := by
  cases event with
  | init settings now =>
    rcases react_init l settings now with ⟨-, same⟩ | ⟨cleared, -⟩
    · rw [same]
    · rw [initializes, cleared] at refused
      cases refused
  | compute now =>
    rw [react]
    cases outcome : l.controller.compute l.store now with
    | ok wrote both =>
      obtain ⟨after, written⟩ := both
      rcases Controller.compute_ok outcome with ⟨-, rfl, -⟩ | ⟨rfl, -⟩
      · rfl
      · simp [sample?, outcome, Outcome.answer] at none
    | error fault both =>
      obtain ⟨after, written⟩ := both
      obtain ⟨-, -, ⟨rfl, -⟩ | ⟨-, -, ⟨rfl, -⟩ | ⟨-, _, _, rfl⟩⟩⟩ := Controller.compute_error outcome
      · rfl
      · rfl
      · rfl
  | setMode mode =>
    obtain ⟨_, _, _, same⟩ := Controller.setMode_changes l.controller l.store.memory mode
    rw [react, same]
    rfl
  | setLimits lower upper =>
    obtain ⟨_, _, _, same⟩ := Controller.setLimits_changes l.controller l.store.memory lower upper
    rw [react, withBoth, same]
  | setDirection direction =>
    obtain ⟨_, _, _, same⟩ := Controller.setDirection_gains l.controller direction
    rw [react, same]
    rfl
  | setTunings kp ki kd =>
    obtain ⟨_, _, _, same⟩ := Controller.setTunings_gains l.controller kp ki kd
    rw [react, same]
    rfl
  | setSampleTime ms =>
    rcases Controller.setSampleTime_gains l.controller ms with same | ⟨-, _, _, same⟩
    · rw [react, same]
      rfl
    · rw [react, same]
      rfl
  | clear => rfl
  | disturb store same => rfl

theorem lastMs_of_no_samples (events : List (ControlEvent R capacity)) (tied : l.StaysTied events)
    (none : l.samples events = []) :
    (events.foldl react l).controller.lastMs = l.controller.lastMs := by
  induction events generalizing l with
  | nil => rfl
  | cons event events ih =>
    obtain ⟨first, later⟩ := List.append_eq_nil_iff.mp none
    have unsampled := Option.toList_eq_nil_iff.mp first
    exact (ih tied.2 later).trans (lastMs_of_no_sample tied.1 unsampled)

theorem staysTied_of_append (earlier later : List (ControlEvent R capacity))
    (tied : l.StaysTied (earlier ++ later)) : l.StaysTied earlier := by
  induction earlier generalizing l with
  | nil => trivial
  | cons event events ih => exact ⟨tied.1, ih tied.2⟩

theorem samples_apart (events : List (ControlEvent R capacity)) (tied : l.StaysTied events)
    (ordered : (ControlEvent.times events).Pairwise (· ≤ ·)) :
    (l.samples events).Pairwise Sample.Before ∧
      ((∀ now ∈ ControlEvent.times events, l.controller.lastMs ≤ now) →
        ∀ s ∈ l.samples events, l.controller.lastMs.toNat + s.period.toNat ≤ s.ms.toNat) := by
  -- the second half carries the induction: all that is to come keeps its distance from the last sample
  induction events generalizing l with
  | nil =>
    refine ⟨.nil, ?_⟩
    intro _ s none
    cases none
  | cons event events ih =>
    have rest : (ControlEvent.times events).Pairwise (· ≤ ·) :=
      ordered.sublist ((List.sublist_cons_self event events).filterMap _)
    obtain ⟨apart, after⟩ := ih tied.2 rest
    cases taken : l.sample? event with
    | none =>
      rw [samples, taken]
      refine ⟨apart, ?_⟩
      intro ahead
      have same := lastMs_of_no_sample tied.1 taken
      rw [same] at after
      exact after fun now there => ahead now
        (((List.sublist_cons_self event events).filterMap _).subset there)
    | some s =>
      obtain ⟨rfl, period, due, last⟩ := sample_eq_some taken
      obtain ⟨ahead, -⟩ := List.pairwise_cons.mp ordered
      rw [last] at after
      have apart_from := after ahead
      rw [samples, taken]
      refine ⟨List.pairwise_cons.mpr ⟨apart_from, apart⟩, ?_⟩
      intro since t there
      have first := Controller.spaced_of_isDue due (since s.ms List.mem_cons_self)
      rw [← period] at first
      rcases List.mem_cons.mp there with rfl | later
      · exact first
      · have second := apart_from t later
        omega

/-- No two samples are closer than the period at the time of the later one. With the period of the
    initialization the first one need not wait: a computation that does nothing then is one of a
    controller that is idle or held back. -/
structure Punctual (l : ControlLoop R) (start : UInt64) (events : List (ControlEvent R capacity)) :
    Prop where
  apart : (l.samples events).Pairwise Sample.Before
  prompt : ∀ earlier now later m, events = earlier ++ .compute now :: later →
    earlier.foldl react l = m → l.samples earlier = [] →
    m.controller.sampleMs = l.controller.sampleMs → now.toNat < start.toNat + 0x8000000000000000 →
    m.controller.isDue now = true ∧
      ((m.controller.compute m.store now).answer = .ok false →
        ¬ m.controller.Active ∨ m.controller.heldBack m.store.mappings = .ok true)

/-- Whatever is done with a controller from one initialization to the next, on a clock that does not
    go back. -/
theorem punctual_between_inits {settings : PidSettings R} {start : UInt64}
    {tied : Controller R × Memory} (done : l.controller.init l.store settings start = .ok () tied)
    (events : List (ControlEvent R capacity)) (stays : (l.withBoth tied).StaysTied events)
    (ordered : (start :: ControlEvent.times events).Pairwise (· ≤ ·)) :
    (l.withBoth tied).Punctual start events := by
  obtain ⟨since, ordered⟩ := List.pairwise_cons.mp ordered
  refine ⟨(samples_apart events stays ordered).1, ?_⟩
  rintro earlier now later m rfl passed none period near
  have last := lastMs_of_no_samples earlier (staysTied_of_append earlier _ stays) none
  rw [passed] at last
  have behind : m.controller.lastMs = start - m.controller.sampleMs.toUInt64 := by
    rw [period]
    exact last.trans (Controller.behind_of_init done)
  have there : now ∈ ControlEvent.times (earlier ++ .compute now :: later) := by
    rw [ControlEvent.times, List.filterMap_append]
    exact List.mem_append_right _ List.mem_cons_self
  have due := Controller.isDue_of_behind behind (since now there) near
  refine ⟨due, ?_⟩
  intro idle
  by_cases active : m.controller.Active
  · exact Or.inr (Controller.heldBack_of_compute active due idle)
  · exact Or.inl active

/-- The first sample is taken at once, 50 ms after the start of time, and the second one waits for the
    longer period. In between the controller is not to be initialized anew. -/
def slowed : List (ControlEvent Fixed plant.memory.capacity) :=
  [.setMode .automatic, .compute 50, .compute 120,
    .init ⟨4, 0, 8, 0, 0, 0, 100, .direct, 0, .ofUnits 2560⟩ 130, .setSampleTime 200, .compute 249,
    .compute 250]

theorem punctual_between_inits_slowed :
    ∃ tied, (Controller.fresh 0).init plant
        ⟨0, 4, 8, .ofUnits 256, .ofUnits 256, 0, 100, .direct, 0, .ofUnits 2560⟩ 50 =
          .ok () (tied, plant.memory) ∧
      StaysTied ⟨tied, plant⟩ slowed ∧ (50 :: ControlEvent.times slowed).Pairwise (· ≤ ·) ∧
      samples ⟨tied, plant⟩ slowed = [⟨50, 100⟩, ⟨250, 200⟩] ∧ Punctual ⟨tied, plant⟩ 50 slowed := by
  have done := Controller.init_of_cleared (R := Fixed) (c := .fresh 0) plant
    ⟨0, 4, 8, .ofUnits 256, .ofUnits 256, 0, 100, .direct, 0, .ofUnits 2560⟩ 50 rfl
  refine ⟨_, done, by decide +kernel, by decide, by decide +kernel, ?_⟩
  exact punctual_between_inits (l := ⟨.fresh 0, plant⟩) done slowed (by decide +kernel) (by decide)

end ControlLoop
end ControlMachine
