import ControlMachine.Proofs.Footprint
import ControlMachine.Proofs.SlotStatus

/- A poll that faults. It has looked at its slot before it stores what it saw, and to look at a
   slot whose one transfer is over gives the slot up. So a poll without a place in memory for the
   status loses the completion of such a slot, and no later poll sees it. Every other fault of a
   poll leaves all mappings as they were. -/
namespace ControlMachine

theorem Memory.store_error {m : Memory} {address : UInt16} {value : UInt8} {fault : Fault}
    (failed : m.store address value = .error fault) : m.capacity ≤ address.toNat := by
  by_cases fits : address.toNat + [value].length ≤ m.capacity
  · have stored : m.store address value = .ok _ := write_eq_ok.mpr ⟨fits, rfl⟩
    rw [failed] at stored
    cases stored
  · rw [List.length_singleton] at fits
    omega

namespace Mapping
variable {m : Mapping}

/-- The one transfer of the slot is over without an error, and no poll has seen it yet. -/
structure AwaitsPoll (m : Mapping) : Prop where
  active : m.isActive = true
  once : m.isOnce = true
  finished : m.status = done

theorem poll_of_awaiting (awaits : m.AwaitsPoll) : m.poll true = (done, unmapped) :=
  poll_of_done awaits.active awaits.once awaits.finished

theorem poll_of_not_awaiting (other : ¬ m.AwaitsPoll) : (m.poll true).2 = m := by
  cases active : m.isActive with
  | false => rw [poll_of_inactive active]
  | true =>
    rcases poll_keeps active true with same | ⟨-, once, finished⟩
    · exact same
    · exact absurd ⟨active, once, finished⟩ other

theorem unmapped_ne_of_awaiting (awaits : m.AwaitsPoll) : unmapped ≠ m := by
  intro same
  have active := awaits.active
  rw [← same] at active
  cases active

end Mapping

namespace Machine
open Fetch
variable {R : Type} {m n after : Machine R} {fault : Fault} {slot : Mapping}

def pollTarget (m : Machine R) : Nat := m.memory.addressAt (m.pc.toNat + 2)

/-- A poll that names a slot which awaits it and has no place in memory for the status. -/
structure WastesCompletion (m : Machine R) : Prop where
  whole : m.pc.toNat + 4 ≤ m.memory.capacity
  outside : m.memory.capacity ≤ m.pollTarget
  awaited : ∃ slot, m.store.mappings.slot? m.namedId = some slot ∧ slot.AwaitsPoll

structure CanPoll (n : Machine R) : Prop where
  running : n.isHalted = false
  here : n.opcode? = some .urlMapCheck
  whole : n.pc.toNat + 4 ≤ n.memory.capacity
  inside : n.pollTarget < n.memory.capacity

theorem pollHeader_place (inside : m.pc.toNat < m.memory.capacity) {id : UInt8}
    {dest last : UInt16} (read : m.pollHeader (m.pc + 1) = .ok (id, dest) last) :
    id = m.namedId ∧ dest.toNat = m.pollTarget ∧ m.pc.toNat + 4 ≤ m.memory.capacity := by
  obtain ⟨s, p1, selected, rest⟩ := bind_eq_ok.mp read
  obtain ⟨a, p2, addressed, rest⟩ := bind_eq_ok.mp rest
  obtain ⟨⟨⟩, rfl⟩ := pure_eq_ok.mp rest
  obtain ⟨rfl, place, -⟩ := selector_then_address selected addressed
  obtain ⟨-, moved, -⟩ := selector_eq_ok.mp selected
  obtain ⟨-, ends, bound⟩ := address_eq_ok.mp addressed
  have start := toNat_afterOpcode inside
  have capacity : p2.toNat ≤ m.memory.capacity := bound
  rw [start] at place
  refine ⟨?_, place, by omega⟩
  rw [namedId, start]

theorem pollHeader_whole (whole : m.pc.toNat + 4 ≤ m.memory.capacity) :
    ∃ dest last, m.pollHeader (m.pc + 1) = .ok (m.namedId, dest) last ∧
      dest.toNat = m.pollTarget := by
  have small : m.memory.capacity ≤ 0xFFFF := m.memory.addressable
  have start := toNat_afterOpcode (show m.pc.toNat < m.memory.capacity by omega)
  have next : (m.pc + 1 + 1).toNat = m.pc.toNat + 2 := by
    rw [toNat_next (by omega), start]
  have last : (m.pc + 1 + 1 + 2).toNat = m.pc.toNat + 4 := by
    rw [UInt16.toNat_add, next, show (2 : UInt16).toNat = 2 from rfl]
    omega
  have selected : selector m.code (m.pc + 1) = .ok _ (m.pc + 1 + 1) :=
    selector_eq_ok.mpr ⟨rfl, by omega, by omega⟩
  have addressed : address m.code (m.pc + 1 + 1) = .ok _ (m.pc + 1 + 1 + 2) :=
    address_eq_ok.mpr ⟨rfl, by omega, by omega⟩
  have read : m.pollHeader (m.pc + 1) = .ok (_, _) _ :=
    bind_eq_ok.mpr ⟨_, _, selected, bind_eq_ok.mpr ⟨_, _, addressed, pure_eq_ok.mpr ⟨rfl, rfl⟩⟩⟩
  obtain ⟨named, place, -⟩ := pollHeader_place (show m.pc.toNat < m.memory.capacity by omega) read
  rw [named] at read
  exact ⟨_, _, read, place⟩

/-- The poll fails before it looks at a slot, or after it when the status cannot be stored. -/
theorem checkMapping_error_cases (inside : m.pc.toNat < m.memory.capacity)
    (failed : m.checkMapping = .error fault after) :
    (after = m ∧ ¬ m.WastesCompletion) ∨
      m.pc.toNat + 4 ≤ m.memory.capacity ∧ m.memory.capacity ≤ m.pollTarget ∧
        ∃ slot, m.store.mappings.slot? m.namedId = some slot ∧
          after = m.withMappings (m.store.mappings.set m.namedId (slot.poll true).2) := by
  unfold checkMapping at failed
  dsimp only at failed
  rw [← pollHeader] at failed
  cases read : m.pollHeader (m.pc + 1) with
  | error reason last =>
    rw [read] at failed
    cases failed
    refine Or.inl ⟨rfl, ?_⟩
    intro wastes
    obtain ⟨dest, next, whole, -⟩ := pollHeader_whole wastes.whole
    rw [read] at whole
    cases whole
  | ok pair last =>
    obtain ⟨id, dest⟩ := pair
    obtain ⟨rfl, place, whole⟩ := pollHeader_place inside read
    rw [read] at failed
    cases found : m.store.mappings.slot? m.namedId with
    | none =>
      have missing : m.store.mappings.check m.namedId true =
          .error (.idUnavailable .mapping m.namedId) := by
        simp [MappingTable.check, MappingTable.slot, found, bind, Except.bind]
      simp only [missing] at failed
      cases failed
      refine Or.inl ⟨rfl, ?_⟩
      rintro ⟨-, -, slot, here, -⟩
      rw [found] at here
      cases here
    | some slot =>
      simp only [MappingTable.check_of_slot found] at failed
      split at failed
      · rename_i reason stored
        cases failed
        have outside := Memory.store_error stored
        exact Or.inr ⟨whole, place ▸ outside, slot, rfl, rfl⟩
      · cases failed

theorem checkMapping_whole (whole : m.pc.toNat + 4 ≤ m.memory.capacity)
    (within : m.pollTarget < m.memory.capacity)
    (found : m.store.mappings.slot? m.namedId = some slot) :
    ∃ next after, m.checkMapping = .ok next after ∧
      after.memory.byteAt m.pollTarget = (slot.poll true).1 := by
  obtain ⟨dest, next, read, place⟩ := pollHeader_whole whole
  have fits : dest.toNat + [(slot.poll true).1].length ≤ m.memory.capacity := by
    rw [List.length_singleton]
    omega
  have stored : m.memory.store dest (slot.poll true).1 = .ok _ :=
    Memory.write_eq_ok.mpr ⟨fits, rfl⟩
  unfold checkMapping
  dsimp only
  rw [← pollHeader, read]
  simp only [MappingTable.check_of_slot found, stored]
  refine ⟨_, _, rfl, ?_⟩
  rw [← place]
  change (m.memory.patch dest.toNat [(slot.poll true).1]).byteAt dest.toNat = _
  rw [Memory.byteAt_patch m.memory dest.toNat _ fits, if_pos (Nat.le_refl _), Nat.sub_self]
  rfl

theorem slot_lost (wastes : m.WastesCompletion) :
    m.store.mappings.set m.namedId .unmapped ≠ m.store.mappings := by
  obtain ⟨slot, found, awaits⟩ := wastes.awaited
  intro same
  have gone := MappingTable.slot?_set_self found .unmapped
  rw [same, found] at gone
  cases gone
  exact Mapping.unmapped_ne_of_awaiting awaits rfl

variable [Rational R] {clock : Clock}

theorem step_poll (ready : n.CanPoll) (clock : Clock)
    (found : n.store.mappings.slot? n.namedId = some slot) :
    ∃ after, n.step clock = .ok () after ∧
      after.memory.byteAt n.pollTarget = (slot.poll true).1 := by
  obtain ⟨next, polled, run, status⟩ :=
    checkMapping_whole (m := n.started) ready.whole ready.inside found
  have executed : n.started.execute clock .urlMapCheck = .ok next polled := run
  cases outcome : n.step clock with
  | ok u after =>
    rcases step_ok outcome with ⟨halted, -⟩ | ⟨-, op, _, changed, here, done, rfl⟩
    · rw [ready.running] at halted
      cases halted
    · rw [ready.here] at here
      cases here
      rw [executed] at done
      cases done
      exact ⟨_, rfl, status⟩
  | error fault after =>
    rcases step_error outcome with ⟨-, ⟨nothing, -⟩ | ⟨op, left, here, failed, -⟩⟩
    · rw [ready.here] at nothing
      cases nothing
    · rw [ready.here] at here
      cases here
      rw [executed] at failed
      cases failed

theorem mappings_of_faulted_poll (here : m.opcode? = some .urlMapCheck)
    (failed : m.step clock = .error fault after) :
    (¬ m.WastesCompletion ∧ after.store.mappings = m.store.mappings) ∨
      m.WastesCompletion ∧
        after.store.mappings = m.store.mappings.set m.namedId .unmapped := by
  have inside := (Memory.load_eq_ok.mp (opcode_eq_some.mp here)).1
  rcases step_error failed with ⟨-, ⟨nothing, -⟩ | ⟨op, left, found, run, rfl⟩⟩
  · rw [here] at nothing
    cases nothing
  · rw [here] at found
    cases found
    rcases checkMapping_error_cases (m := m.started) inside run with
      ⟨rfl, spared⟩ | ⟨whole, outside, slot, found, rfl⟩
    · refine Or.inl ⟨?_, rfl⟩
      intro wastes
      exact spared ⟨wastes.whole, wastes.outside, wastes.awaited⟩
    · have there : m.store.mappings.slot? m.namedId = some slot := found
      -- the slot was looked at, which changes it only if it awaited that
      by_cases awaits : slot.AwaitsPoll
      · refine Or.inr ⟨⟨whole, outside, slot, there, awaits⟩, ?_⟩
        change m.store.mappings.set m.namedId (slot.poll true).2 = _
        rw [Mapping.poll_of_awaiting awaits]
      · refine Or.inl ⟨?_, ?_⟩
        · rintro ⟨-, -, other, same, awaited⟩
          rw [there] at same
          cases same
          exact awaits awaited
        · change m.store.mappings.set m.namedId (slot.poll true).2 = _
          rw [Mapping.poll_of_not_awaiting awaits, MappingTable.set_self there]

/-- What a poll that faults leaves of the mappings, and what the next poll sees of a slot that
    awaited one. -/
structure PollFault (m after : Machine R) : Prop where
  kept : ¬ m.WastesCompletion → after.store.mappings = m.store.mappings
  lost : m.WastesCompletion →
    after.store.mappings = m.store.mappings.set m.namedId .unmapped ∧
      after.store.mappings ≠ m.store.mappings
  seen : ∀ (n : Machine R) (clock : Clock) (slot : Mapping), n.CanPoll →
    n.store.mappings = after.store.mappings →
    m.store.mappings.slot? n.namedId = some slot → slot.AwaitsPoll →
    ∃ last, n.step clock = .ok () last ∧ (last.memory.byteAt n.pollTarget = Mapping.done ↔
      ¬ (m.WastesCompletion ∧ n.namedId = m.namedId))

/-- A poll that faults keeps all mappings, unless the slot it names awaits it and its status has no
    place in memory: then it is that slot that is lost, and no other. -/
theorem faulted_poll_mappings (m after : Machine R) (clock : Clock) (fault : Fault)
    (here : m.opcode? = some .urlMapCheck) (failed : m.step clock = .error fault after) :
    PollFault m after := by
  have left := mappings_of_faulted_poll here failed
  constructor
  case kept =>
    intro spared
    rcases left with ⟨-, same⟩ | ⟨wastes, -⟩
    · exact same
    · exact absurd wastes spared
  case lost =>
    intro wastes
    rcases left with ⟨spared, -⟩ | ⟨-, gone⟩
    · exact absurd wastes spared
    · rw [gone]
      exact ⟨rfl, slot_lost wastes⟩
  case seen =>
    intro n clock slot ready table found awaits
    have sees : n.store.mappings.slot? n.namedId = some slot →
        ∃ last, n.step clock = .ok () last ∧
          last.memory.byteAt n.pollTarget = Mapping.done := by
      intro there
      obtain ⟨last, stepped, status⟩ := step_poll ready clock there
      rw [Mapping.poll_of_awaiting awaits] at status
      exact ⟨last, stepped, status⟩
    rcases left with ⟨spared, same⟩ | ⟨wastes, gone⟩
    · obtain ⟨last, stepped, status⟩ := sees (by rw [table, same, found])
      exact ⟨last, stepped, by simp [status, spared]⟩
    · by_cases named : n.namedId = m.namedId
      · have there : n.store.mappings.slot? n.namedId = some .unmapped := by
          rw [table, gone, named]
          exact MappingTable.slot?_set_self (named ▸ found) .unmapped
        obtain ⟨last, stepped, status⟩ := step_poll ready clock there
        have zero : (Mapping.unmapped.poll true).1 = 0 := rfl
        exact ⟨last, stepped, by simp [status, zero, wastes, named, Mapping.done]⟩
      · have there : n.store.mappings.slot? n.namedId = some slot := by
          rw [table, gone, MappingTable.slot?_set_other named, found]
        obtain ⟨last, stepped, status⟩ := sees there
        exact ⟨last, stepped, by simp [status, named]⟩

def served : Mapping := ⟨4, 0, 16, 32, 40, 5683, Mapping.done⟩

def polling (selector dest : UInt8) : Machine Fixed :=
  (filled [0x71, selector, dest, 0x00]).withMappings ⟨[served, served], by decide⟩

def pollingNext : Machine Fixed :=
  (polling 0x10 3).withMappings ((polling 0x00 4).step ⟨0⟩).state.store.mappings

theorem faulted_poll_mappings_outside :
    (polling 0x00 4).WastesCompletion ∧
      ∃ last, pollingNext.step ⟨0⟩ = .ok () last ∧ last.memory.byteAt 3 = Mapping.done := by
  have awaits : served.AwaitsPoll := ⟨by decide, by decide, by decide⟩
  have wastes : (polling 0x00 4).WastesCompletion :=
    ⟨by decide, by decide, served, by rfl, awaits⟩
  have failed : (polling 0x00 4).step ⟨0⟩ =
      .error (.accessViolation .store 4 1) ((polling 0x00 4).step ⟨0⟩).state := by rfl
  have faulted := faulted_poll_mappings (polling 0x00 4) _ ⟨0⟩ _ (by rfl) failed
  have ready : pollingNext.CanPoll := ⟨by rfl, by rfl, by decide, by decide⟩
  obtain ⟨last, stepped, status⟩ := faulted.seen pollingNext ⟨0⟩ served ready rfl (by rfl) awaits
  have apart : pollingNext.namedId ≠ (polling 0x00 4).namedId := by decide
  exact ⟨wastes, last, stepped, status.mpr fun same => apart same.2⟩

/-- The poll of slot 0 faults and stores no status, and the next poll of the slot sees a zero. -/
theorem completion_swallowed :
    ∃ fault after, (polling 0x00 4).step ⟨0⟩ = .error fault after ∧
      (polling 0x00 4).opcode? = some .urlMapCheck ∧
      (polling 0x00 4).store.mappings.check 0 false =
        .ok (Mapping.done, (polling 0x00 4).store.mappings) ∧
      after.store.mappings ≠ (polling 0x00 4).store.mappings ∧
      after.store.mappings.check 0 false = .ok (0, after.store.mappings) := by
  refine ⟨.accessViolation .store 4 1, _, rfl, rfl, rfl, ?_, rfl⟩
  intro same
  have slots := congrArg MappingTable.slots same
  revert slots
  decide

end Machine
end ControlMachine
