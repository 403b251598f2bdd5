import ControlMachine.Proofs.HeldBack
import ControlMachine.Proofs.Untied

/- A computation takes a whole sample or leaves everything as it was. The integral is counted before
   the output is stored, so this rests on what can be missing when it is stored: a controller that
   acts on its output has its input and its output in memory and its slot in the table. Of all that
   it reads only the target may be gone, and that is read before anything is changed. -/
namespace ControlMachine

/-- Others may map the slots of a table anew, but they make no slots and drop none. -/
def ControlEvent.KeepsSlots {R : Type} {capacity : Nat} (slots : Nat) :
    ControlEvent R capacity → Prop
  | .disturb store _ => store.mappings.slots.length = slots
  | _ => True

namespace Controller
variable {c : Controller Fixed} {store : Store} {now : UInt64}

/-- The output holds a number within the limits, the rest of memory is as before, and only what is
    computed with is another in the controller. -/
structure Sampled (c : Controller Fixed) (memory : Memory) (after : Controller Fixed)
    (written : Memory) : Prop where
  output : ∃ value : Fixed, written.loadRational c.output = .ok value ∧
    c.lower.units ≤ value.units ∧ value.units ≤ c.upper.units
  elsewhere : Memory.SameButCell memory written c.output
  controller : ∃ integral lastInput lastMs,
    after = { c with integral := integral, lastInput := lastInput, lastMs := lastMs }

/-- Nothing has changed unless a sample was taken, and a fault tells of a target outside of memory. -/
structure AllOrNothing (c : Controller Fixed) (store : Store) (now : UInt64) : Prop where
  nothing : (c.compute store now).answer ≠ .ok true →
    (c.compute store now).state = (c, store.memory)
  fault : (∃ fault, (c.compute store now).answer = .error fault) ↔
    c.Active ∧ c.heldBack store.mappings = .ok false ∧ c.isDue now = true ∧
      store.memory.capacity < c.setpoint.toNat + 4
  all : (c.compute store now).answer = .ok true →
    c.Sampled store.memory (c.compute store now).state.1 (c.compute store now).state.2

structure Equipped (c : Controller Fixed) (store : Store) : Prop where
  limits : c.lower.units ≤ c.upper.units
  input : c.input.toNat + 4 ≤ store.memory.capacity
  output : c.output.toNat + 4 ≤ store.memory.capacity
  slot : ∀ id, c.mapId? = some id → id.toNat < store.mappings.slots.length

theorem heldBack_of_slot
    (slot : ∀ id, c.mapId? = some id → id.toNat < store.mappings.slots.length) :
    ∃ held, c.heldBack store.mappings = .ok held := by
  unfold heldBack
  split
  · exact ⟨false, rfl⟩
  · rename_i id tied
    have inside := slot id tied
    have found : store.mappings.slot? id = some store.mappings.slots[id.toNat] :=
      List.getElem?_eq_getElem inside
    have polled : store.mappings.check id false = .ok _ :=
      MappingTable.check_eq_ok.mpr ⟨_, found, rfl, rfl⟩
    rw [polled]
    exact ⟨_, rfl⟩

theorem sampled_of_compute {after : Controller Fixed} {written : Memory}
    (limits : c.lower.units ≤ c.upper.units)
    (done : c.compute store now = .ok true (after, written)) :
    c.Sampled store.memory after written := by
  rcases compute_ok done with ⟨refused, -, -⟩ | ⟨-, -, -, -, input, setpoint, -, -, stored, rfl⟩
  · cases refused
  · exact {
      output := ⟨_, Memory.loadRational_of_stored stored, Fixed.clamp_within limits⟩
      elsewhere := Memory.sameButCell_of_overwritten (Memory.storeRational_overwritten stored)
      controller := ⟨_, _, _, rfl⟩ }

theorem unchanged_of_answer (output : c.Active → c.output.toNat + 4 ≤ store.memory.capacity)
    (unwritten : (c.compute store now).answer ≠ .ok true) :
    (c.compute store now).state = (c, store.memory) := by
  have unready : ¬ c.Ready store.mappings store.memory.capacity now := by
    intro ready
    obtain ⟨after, wrote, -⟩ := compute_of_ready ready
    rw [wrote] at unwritten
    exact unwritten rfl
  exact (compute_of_unready output unready).1

theorem target_outside_of_error (equipped : c.Active → c.Equipped store) {fault : Fault}
    (failed : (c.compute store now).answer = .error fault) :
    c.Active ∧ c.heldBack store.mappings = .ok false ∧ c.isDue now = true ∧
      store.memory.capacity < c.setpoint.toNat + 4 := by
  obtain ⟨active, -, ⟨-, lost⟩ | ⟨free, due, ⟨-, outside⟩ | ⟨outside, -⟩⟩⟩ :=
    compute_error (Outcome.eq_error_of_answer failed)
  · obtain ⟨held, known⟩ := heldBack_of_slot (equipped active).slot
    rw [lost] at known
    cases known
  · have input := (equipped active).input
    exact ⟨active, free, due, by omega⟩
  · have output := (equipped active).output
    omega

theorem error_of_target_outside (active : c.Active)
    (free : c.heldBack store.mappings = .ok false) (due : c.isDue now = true)
    (outside : store.memory.capacity < c.setpoint.toNat + 4) :
    ∃ fault, (c.compute store now).answer = .error fault := by
  cases outcome : c.compute store now with
  | error fault both => exact ⟨fault, rfl⟩
  | ok wrote both =>
    obtain ⟨after, written⟩ := both
    cases wrote with
    | false =>
      have held : c.heldBack store.mappings = .ok true :=
        heldBack_of_compute active due (by rw [outcome]; rfl)
      rw [free] at held
      cases held
    | true =>
      rcases compute_ok outcome with ⟨refused, -⟩ | ⟨-, -, -, -, input, setpoint, -, wanted, -⟩
      · cases refused
      · have inside := (Memory.loadRational_eq_ok.mp wanted).1
        omega

theorem allOrNothing_of_equipped (equipped : c.Active → c.Equipped store) (now : UInt64) :
    c.AllOrNothing store now where
  nothing := unchanged_of_answer fun active => (equipped active).output
  fault := by
    constructor
    · rintro ⟨fault, failed⟩
      exact target_outside_of_error equipped failed
    · rintro ⟨active, free, due, outside⟩
      exact error_of_target_outside active free due outside
  all := by
    intro wrote
    have done := Outcome.eq_ok_of_answer wrote
    rcases compute_ok done with ⟨refused, -⟩ | ⟨-, active, -⟩
    · cases refused
    · exact sampled_of_compute (equipped active).limits done

end Controller

namespace ControlLoop
variable {R : Type} [Rational R] {capacity slots : Nat} {l : ControlLoop R}

/-- The table has so many slots, and a controller that is tied to a slot is tied to one of them. -/
structure SlotKnown (slots : Nat) (l : ControlLoop R) : Prop where
  count : l.store.mappings.slots.length = slots
  known : l.controller.initialized = true → ∀ id, l.controller.mapId? = some id → id.toNat < slots

theorem react_slots (event : ControlEvent R capacity) (kept : event.KeepsSlots slots)
    (count : l.store.mappings.slots.length = slots) :
    (l.react event).store.mappings.slots.length = slots := by
  cases event with
  | disturb store same => exact kept
  | _ => exact count

theorem react_slotKnown (before : SlotKnown slots l) (event : ControlEvent R capacity)
    (kept : event.KeepsSlots slots) : SlotKnown slots (l.react event) := by
  refine ⟨react_slots event kept before.count, ?_⟩
  intro initialized id tied
  -- a tie that is made goes by the table as it is, and any other one was there before
  rcases react_tie l event with same | made
  · simp only [Controller.tie, Tie.mk.injEq] at same
    exact before.known (same.1 ▸ initialized) id (same.2.2 ▸ tied)
  · have offered := (made initialized).symm.trans tied
    obtain ⟨slot, found, -⟩ := MappingTable.slot_of_idForAddress offered
    have inside := (List.getElem?_eq_some_iff.mp found).1
    rwa [before.count] at inside

theorem foldl_react_slotKnown (before : SlotKnown slots l)
    (events : List (ControlEvent R capacity)) (kept : ∀ event ∈ events, event.KeepsSlots slots) :
    SlotKnown slots (events.foldl react l) := by
  induction events generalizing l with
  | nil => exact before
  | cons event events ih =>
    obtain ⟨first, others⟩ := List.forall_mem_cons.mp kept
    exact ih (react_slotKnown before event first) others

theorem equipped_of_safe {l : ControlLoop Fixed} (safe : Safe capacity l)
    (slots : SlotKnown slots l) (active : l.controller.Active) : l.controller.Equipped l.store where
  limits := safe.limits
  input := safe.size ▸ safe.input active
  output := safe.size ▸ safe.output active
  slot := by
    intro id tied
    rw [slots.count]
    exact slots.known active.1 id tied

/-- Whatever was done with a new controller and with the store it works on, its next computation does
    all or nothing. -/
theorem compute_all_or_nothing (id : UInt8) (store : Store)
    (events : List (ControlEvent Fixed store.memory.capacity))
    (kept : ∀ event ∈ events, event.KeepsSlots store.mappings.slots.length) (now : UInt64) :
    (events.foldl react ⟨.fresh id, store⟩).controller.AllOrNothing
      (events.foldl react ⟨.fresh id, store⟩).store now := by
  have known : SlotKnown store.mappings.slots.length
      (events.foldl react (⟨.fresh id, store⟩ : ControlLoop Fixed)) := by
    apply foldl_react_slotKnown _ events kept
    refine ⟨rfl, ?_⟩
    intro initialized
    cases initialized
  have safe := foldl_react_safe (Controller.fresh_safeIn _ id store rfl) events
  exact Controller.allOrNothing_of_equipped (equipped_of_safe safe known) now

def restored : ControlEvent Fixed plant.memory.capacity := .disturb plant rfl

/-- The input is offered by slot 0 when the controller is initialized, and no longer when it computes.
    The last bytes of its target are outside of memory. -/
def targetless : List (ControlEvent Fixed plant.memory.capacity) :=
  [.disturb { plant with mappings := plant.mappings.set 0 ⟨4, 4, 0, 40, 44, 5683, 0⟩ } rfl,
    .init ⟨0, 4, 10, .ofUnits 256, .ofUnits 256, 0, 100, .direct, 0, .ofUnits 2560⟩ 1000,
    .setMode .automatic, restored]

theorem compute_all_or_nothing_targetless :
    let l := targetless.foldl react ⟨.fresh 0, plant⟩
    (∀ event ∈ targetless, event.KeepsSlots plant.mappings.slots.length) ∧
      l.controller.mapId? = some 0 ∧
      (∃ fault, (l.controller.compute l.store 1000).answer = .error fault) ∧
      (l.controller.compute l.store 1000).state = (l.controller, plant.memory) := by
  have kept : ∀ event ∈ targetless, event.KeepsSlots plant.mappings.slots.length := by
    simp only [targetless, List.forall_mem_cons]
    exact ⟨rfl, trivial, trivial, rfl, List.forall_mem_nil _⟩
  have result := compute_all_or_nothing 0 plant targetless kept 1000
  obtain ⟨fault, failed⟩ := result.fault.mpr ⟨⟨rfl, rfl⟩, rfl, rfl, by decide⟩
  refine ⟨kept, rfl, ⟨fault, failed⟩, result.nothing ?_⟩
  intro wrote
  rw [failed] at wrote
  cases wrote

end ControlLoop
end ControlMachine
