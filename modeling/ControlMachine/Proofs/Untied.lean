import ControlMachine.Proofs.ControlLoop

/- A controller that is tied to no cells: a new one, or one that was cleared. It computes nothing and
   takes over nothing from memory. Only new limits in automatic mode write, to the output cell it
   had last or has from the start, when what stands there is outside of them. -/
namespace ControlMachine

namespace Memory

/-- Memory is as large as before, and the same up to one cell. -/
structure SameButCell (memory after : Memory) (address : UInt16) : Prop where
  size : after.capacity = memory.capacity
  elsewhere : ∀ i, i < address.toNat ∨ address.toNat + 4 ≤ i → after.byteAt i = memory.byteAt i

variable {memory middle after : Memory} {address : UInt16}

theorem SameButCell.refl (memory : Memory) (address : UInt16) : SameButCell memory memory address :=
  ⟨rfl, fun _ _ => rfl⟩

theorem SameButCell.trans (first : SameButCell memory middle address)
    (second : SameButCell middle after address) : SameButCell memory after address where
  size := second.size.trans first.size
  elsewhere := fun i outside => (second.elsewhere i outside).trans (first.elsewhere i outside)

theorem SameButCell.symm (kept : SameButCell memory after address) :
    SameButCell after memory address :=
  ⟨kept.size.symm, fun i outside => (kept.elsewhere i outside).symm⟩

theorem sameButCell_of_overwritten (patched : memory.Overwritten after address.toNat 4) :
    SameButCell memory after address :=
  ⟨overwritten_capacity patched, fun _ outside => overwritten_outside patched outside⟩

theorem SameButCell.slice (kept : SameButCell memory after address) {start width : Nat}
    (apart : start + width ≤ address.toNat ∨ address.toNat + 4 ≤ start) :
    after.slice start width = memory.slice start width := by
  refine List.map_congr_left fun i there => kept.elsewhere _ ?_
  have inside := List.mem_range.mp there
  omega

end Memory

namespace Controller
variable {R : Type} [Rational R] {c : Controller R}

theorem compute_of_untied (untied : c.initialized = false) (store : Store) (now : UInt64) :
    c.compute store now = .ok false (c, store.memory) := by
  rw [compute, untied]
  rfl

def Exceeds (c : Controller R) (memory : Memory) (lower upper : R) : Prop :=
  ∃ output, memory.loadRational c.output = .ok output ∧
    Rational.same (Rational.clamp output lower upper) output = false

theorem setLimits_memory (c : Controller R) (memory : Memory) (lower upper : R) :
    (c.setLimits memory lower upper).state.2 = memory ∨
      c.mode = .automatic ∧ validLimits lower upper = true ∧ c.Exceeds memory lower upper ∧
        memory.Overwritten (c.setLimits memory lower upper).state.2 c.output.toNat 4 := by
  unfold setLimits
  cases valid : validLimits lower upper with
  | false => exact Or.inl rfl
  | true =>
    cases mode : c.mode with
    | manual => exact Or.inl rfl
    | automatic =>
      cases loaded : memory.loadRational (R := R) c.output with
      | error fault => exact Or.inl rfl
      | ok output =>
        cases inside : Rational.same (Rational.clamp output lower upper) output with
        | true =>
          simp only [if_true, inside]
          exact Or.inl rfl
        | false =>
          have outside : c.Exceeds memory lower upper := ⟨output, loaded, inside⟩
          cases stored : memory.storeRational c.output (Rational.clamp output lower upper) with
          | error fault =>
            left
            simp only [if_true, inside, Bool.false_eq_true, if_false, stored]
            rfl
          | ok written =>
            refine Or.inr ⟨rfl, rfl, outside, ?_⟩
            simp only [if_true, inside, Bool.false_eq_true, if_false, stored]
            exact Memory.storeRational_overwritten stored

end Controller

/-- The controller itself is used, and it is not tied anew. -/
def ControlEvent.isOwn {R : Type} {capacity : Nat} : ControlEvent R capacity → Bool
  | .init _ _ => false
  | .disturb _ _ => false
  | _ => true

namespace ControlLoop
variable {R : Type} [Rational R] {capacity : Nat} {l : ControlLoop R}

structure Reclamps (l : ControlLoop R) (lower upper : R) : Prop where
  automatic : l.controller.mode = .automatic
  valid : Controller.validLimits lower upper = true
  outside : l.controller.Exceeds l.store.memory lower upper

structure StillUntied (l after : ControlLoop R) : Prop where
  untied : after.controller.initialized = false
  output : after.controller.output = l.controller.output
  memory : Memory.SameButCell l.store.memory after.store.memory l.controller.output

theorem stillUntied_react (untied : l.controller.initialized = false)
    {event : ControlEvent R capacity} (own : event.isOwn = true) :
    StillUntied l (l.react event) ∧
      ((l.react event).store.memory = l.store.memory ∨
        ∃ lower upper, event = .setLimits lower upper ∧ l.Reclamps lower upper) := by
  have still : ∀ c : Controller R, c.initialized = l.controller.initialized →
      c.output = l.controller.output → StillUntied l (l.withController c) :=
    fun c kept output => ⟨kept.trans untied, output, .refl _ _⟩
  cases event with
  | init settings now => cases own
  | disturb store same => cases own
  | compute now =>
    rw [react, Controller.compute_of_untied untied]
    exact ⟨still l.controller rfl rfl, Or.inl rfl⟩
  | setMode mode =>
    obtain ⟨_, _, _, same⟩ := Controller.setMode_changes l.controller l.store.memory mode
    rw [react, same]
    exact ⟨still _ rfl rfl, Or.inl rfl⟩
  | setLimits lower upper =>
    obtain ⟨_, _, _, same⟩ := Controller.setLimits_changes l.controller l.store.memory lower upper
    rw [react, withBoth, same]
    rcases Controller.setLimits_memory l.controller l.store.memory lower upper with
      kept | ⟨automatic, valid, outside, patched⟩
    · rw [kept]
      exact ⟨still _ rfl rfl, Or.inl rfl⟩
    · exact ⟨⟨untied, rfl, Memory.sameButCell_of_overwritten patched⟩,
        Or.inr ⟨lower, upper, rfl, automatic, valid, outside⟩⟩
  | setDirection direction =>
    obtain ⟨_, _, _, same⟩ := Controller.setDirection_gains l.controller direction
    rw [react, same]
    exact ⟨still _ rfl rfl, Or.inl rfl⟩
  | setTunings kp ki kd =>
    obtain ⟨_, _, _, same⟩ := Controller.setTunings_gains l.controller kp ki kd
    rw [react, same]
    exact ⟨still _ rfl rfl, Or.inl rfl⟩
  | setSampleTime ms =>
    rcases Controller.setSampleTime_gains l.controller ms with same | ⟨-, _, _, same⟩
    · rw [react, same]
      exact ⟨still _ rfl rfl, Or.inl rfl⟩
    · rw [react, same]
      exact ⟨still _ rfl rfl, Or.inl rfl⟩
  | clear => exact ⟨⟨rfl, rfl, .refl _ _⟩, Or.inl rfl⟩

theorem stillUntied_foldl (untied : l.controller.initialized = false)
    (events : List (ControlEvent R capacity)) (own : ∀ event ∈ events, event.isOwn = true) :
    StillUntied l (events.foldl react l) := by
  induction events generalizing l with
  | nil => exact ⟨untied, rfl, .refl _ _⟩
  | cons event events ih =>
    obtain ⟨first, others⟩ := List.forall_mem_cons.mp own
    obtain ⟨step, -⟩ := stillUntied_react untied first
    have rest := ih step.untied others
    have cell := rest.memory
    rw [step.output] at cell
    exact ⟨rest.untied, rest.output.trans step.output, step.memory.trans cell⟩

/-- The first event to write anything sets limits that the output cell exceeds. -/
def ReclampedBy (l : ControlLoop R) (events : List (ControlEvent R capacity)) : Prop :=
  ∃ earlier lower upper later, events = earlier ++ .setLimits lower upper :: later ∧
    (earlier.foldl react l).store.memory = l.store.memory ∧
    (earlier.foldl react l).Reclamps lower upper

theorem reclampedBy_cons {event : ControlEvent R capacity}
    {events : List (ControlEvent R capacity)}
    (kept : (l.react event).store.memory = l.store.memory)
    (reclamped : (l.react event).ReclampedBy events) : l.ReclampedBy (event :: events) := by
  obtain ⟨earlier, lower, upper, later, rfl, same, reclamps⟩ := reclamped
  exact ⟨event :: earlier, lower, upper, later, rfl, same.trans kept, reclamps⟩

theorem kept_or_reclamped (untied : l.controller.initialized = false)
    (events : List (ControlEvent R capacity)) (own : ∀ event ∈ events, event.isOwn = true) :
    (events.foldl react l).store.memory = l.store.memory ∨ l.ReclampedBy events := by
  induction events generalizing l with
  | nil => exact Or.inl rfl
  | cons event events ih =>
    obtain ⟨first, others⟩ := List.forall_mem_cons.mp own
    obtain ⟨step, kept | ⟨lower, upper, rfl, reclamps⟩⟩ := stillUntied_react untied first
    · rcases ih step.untied others with same | reclamped
      · exact Or.inl (same.trans kept)
      · exact Or.inr (reclampedBy_cons kept reclamped)
    · exact Or.inr ⟨[], lower, upper, events, rfl, rfl, reclamps⟩

/-- An untied controller writes to its last output cell at most, and leaves all of memory as it is
    unless limits are set in automatic mode that the output cell exceeds. -/
theorem memory_of_untied (untied : l.controller.initialized = false)
    (events : List (ControlEvent R capacity)) (own : ∀ event ∈ events, event.isOwn = true) :
    Memory.SameButCell l.store.memory (events.foldl react l).store.memory l.controller.output ∧
      ((events.foldl react l).store.memory = l.store.memory ∨ l.ReclampedBy events) :=
  ⟨(stillUntied_foldl untied events own).memory, kept_or_reclamped untied events own⟩

def preparing : List (ControlEvent Fixed plant.memory.capacity) :=
  [.setMode .automatic, .setTunings (.ofUnits 256) (.ofUnits 256) 0, .setDirection .reverse,
    .setSampleTime 200, .setLimits 0 (.ofUnits 2560), .compute 5000, .clear]

theorem memory_of_untied_preparing :
    (∀ event ∈ preparing, event.isOwn = true) ∧
      Memory.SameButCell plant.memory (preparing.foldl react ⟨.fresh 0, plant⟩).store.memory 0 ∧
      ((preparing.foldl react ⟨.fresh 0, plant⟩).store.memory = plant.memory ∨
        ReclampedBy ⟨.fresh 0, plant⟩ preparing) := by
  have own : ∀ event ∈ preparing, event.isOwn = true := by simp [preparing, ControlEvent.isOwn]
  exact ⟨own, memory_of_untied (l := ⟨.fresh 0, plant⟩) rfl preparing own⟩

/-- The output of a new controller is at address 0, whatever that cell is for. -/
theorem untied_limits_overwrite :
    (([.setMode .automatic, .setLimits (.ofUnits 256) (.ofUnits 512)] :
      List (ControlEvent Fixed 12)).foldl react ⟨.fresh 0, plant⟩).store.memory.byteAt 0 ≠
        plant.memory.byteAt 0 := by
  decide

end ControlLoop
end ControlMachine
