import ControlMachine.Proofs.MappingLifetime
import ControlMachine.Proofs.RepeatedTick
import ControlMachine.Proofs.Ties

/- A controller that is held back, and the slot that does it. A slot gets an address by being mapped
   and by nothing else, so the slot that a controller is tied to has the address of its input, or
   none, or it was mapped to another place after the controller was initialized. -/
namespace ControlMachine

namespace Mapping
variable {m : Mapping}

/-- A mapping that came of another one, with the same address or none. -/
def PlacedLike (now m : Mapping) : Prop :=
  now.valueAddress = nowhere ∨ now.valueAddress = m.valueAddress

theorem poll_placed (m : Mapping) (release : Bool) : (m.poll release).2.PlacedLike m := by
  unfold poll
  split
  · dsimp only
    split
    · exact Or.inl rfl
    · exact Or.inr rfl
  · exact Or.inr rfl

theorem address_of_active (active : m.isActive = true) : m.valueAddress ≠ nowhere := by
  simp only [isActive, Bool.and_eq_true, bne_iff_ne] at active
  exact active.1.1.1

theorem completed_placed (m : Mapping) : m.completed.PlacedLike m := by
  unfold completed
  split <;> exact Or.inr rfl

theorem failed_placed (m : Mapping) (code : UInt8) : (m.failed code).PlacedLike m := by
  unfold failed
  split <;> exact Or.inr rfl

theorem error_of_done_lt {status : UInt8} (above : done < status) : status &&& 0xFE ≠ 0 := by
  intro clean
  by_cases none : status = 0
  · rw [none] at above
    exact absurd above (by decide)
  · rw [(eq_done_iff status).mpr ⟨none, clean⟩] at above
    exact absurd above (by decide)

end Mapping

namespace MappingTable
open Mapping
variable {t after : MappingTable} {id other : UInt8} {m new served : Mapping} {address : UInt16}

def Placed (t after : MappingTable) (id : UInt8) : Prop :=
  ∀ now, after.slot? id = some now → now.valueAddress = nowhere ∨
    ∃ m, t.slot? id = some m ∧ now.valueAddress = m.valueAddress

theorem placed_of_eq (same : after.slot? id = t.slot? id) : Placed t after id := by
  intro now found
  exact Or.inr ⟨now, same ▸ found, rfl⟩

theorem placed_set (found : t.slot? other = some m) (placed : new.PlacedLike m) :
    Placed t (t.set other new) id := by
  by_cases own : id = other
  · subst own
    intro now there
    rw [slot?_set_self found] at there
    cases there
    exact placed.imp_right fun same => ⟨m, found, same⟩
  · exact placed_of_eq (slot?_set_other own new)

theorem placed_clear (t : MappingTable) (id : UInt8) : Placed t t.clear id := by
  intro now found
  rw [slot?, clear, List.getElem?_map] at found
  obtain ⟨-, -, rfl⟩ := Option.map_eq_some_iff.mp found
  exact Or.inl rfl

theorem take_placed (t : MappingTable) {step : TableStep} (unmapped : step.maps id = false) :
    Placed t (t.take step) id := by
  unfold take
  cases done : t.attempt step with
  | error fault => exact placed_of_eq rfl
  | ok after =>
    rw [attempt_eq_update] at done
    obtain ⟨m, found, rfl⟩ := update_eq_ok.mp done
    cases step with
    | map other request =>
      have own : other ≠ id := by simpa [TableStep.maps] using unmapped
      exact placed_of_eq (slot?_set_other own.symm _)
    | unmap other => exact placed_set found (Or.inl rfl)
    | check other release => exact placed_set found (poll_placed m release)
    | complete other => exact placed_set found (completed_placed m)
    | fail other code => exact placed_set found (failed_placed m code)

theorem check_placed {release : Bool} {status : UInt8}
    (done : t.check other release = .ok (status, after)) : Placed t after id := by
  obtain ⟨m, found, -, rfl⟩ := check_eq_ok.mp done
  exact placed_set found (poll_placed m release)

theorem consumeOnce_placed {dropped : Bool}
    (done : t.consumeOnce other served = .ok (dropped, after)) : Placed t after id := by
  obtain ⟨now, found, -, rfl⟩ := consumeOnce_eq_ok.mp done
  split
  · exact placed_set found (Or.inl rfl)
  · exact placed_of_eq rfl

theorem slot_of_idForAddress (found : t.idForAddress? address = some id) :
    ∃ m, t.slot? id = some m ∧ m.valueAddress = address := by
  obtain ⟨i, index, rfl⟩ := Option.map_eq_some_iff.mp found
  obtain ⟨inside, here, -⟩ := List.findIdx?_eq_some_iff_getElem.mp index
  have few := t.few
  have same : (UInt8.ofNat i).toNat = i := by
    rw [UInt8.toNat_ofNat']
    omega
  refine ⟨t.slots[i], ?_, beq_iff_eq.mp here⟩
  rw [slot?, same]
  exact List.getElem?_eq_getElem inside

def Astray (t : MappingTable) (id : UInt8) (input : UInt16) : Prop :=
  ∃ m, t.slot? id = some m ∧ m.valueAddress ≠ nowhere ∧ m.valueAddress ≠ input

theorem astray_of_placed {input : UInt16} (placed : Placed t after id)
    (astray : after.Astray id input) : t.Astray id input := by
  obtain ⟨now, there, somewhere, apart⟩ := astray
  obtain ⟨m, found, same⟩ := (placed now there).resolve_left somewhere
  rw [same] at somewhere apart
  exact ⟨m, found, somewhere, apart⟩

end MappingTable

namespace Store
open MappingTable
variable {R : Type} [Rational R] {s : Store} {id : UInt8}

theorem afterConsume_placed (s : Store) (other : UInt8) (served : Mapping) :
    Placed s.mappings (s.afterConsume other served).mappings id := by
  unfold afterConsume
  cases done : s.mappings.consumeOnce other served with
  | error fault => exact placed_of_eq rfl
  | ok pair => exact consumeOnce_placed done

theorem afterLoad_placed (s : Store) (format : PayloadFormat) (other : UInt8) :
    Placed s.mappings (s.afterLoad R format other).mappings id := by
  unfold afterLoad
  cases done : s.loadValue R format other with
  | error fault => exact placed_of_eq rfl
  | ok pair =>
    rw [loadValue_eq] at done
    obtain ⟨served, -, finished⟩ := except_bind_eq_ok.mp done
    rcases finishLoad_mappings finished with same | ⟨dropped, consumed⟩
    · exact placed_of_eq (congrArg (·.slot? id) same)
    · exact consumeOnce_placed consumed

theorem afterStore_placed (s : Store) (format : PayloadFormat) (other : UInt8)
    (payload : List UInt8) :
    Placed s.mappings (s.afterStore R format other payload).mappings id := by
  unfold afterStore
  cases done : s.storeValue R format other payload with
  | error fault => exact placed_of_eq rfl
  | ok after =>
    rw [storeValue_eq] at done
    obtain ⟨served, -, finished⟩ := except_bind_eq_ok.mp done
    obtain ⟨dropped, consumed⟩ := finishStore_mappings finished
    exact consumeOnce_placed consumed

end Store

namespace Machine
open Fetch MappingTable
variable {R : Type} [Rational R] {m : Machine R} {id : UInt8}

theorem step_table {op : Opcode} (here : m.opcode? = some op) (clock : Clock) :
    (m.step clock).state.store.mappings = m.store.mappings ∨
      (m.step clock).state.store.mappings = (m.started.execute clock op).state.store.mappings := by
  cases outcome : m.step clock with
  | ok u after =>
    rcases step_ok outcome with ⟨-, rfl⟩ | ⟨-, other, next, changed, found, run, rfl⟩
    · exact Or.inl rfl
    · rw [here] at found
      cases found
      rw [run]
      exact Or.inr rfl
  | error fault after =>
    rcases step_error outcome with ⟨-, ⟨-, rfl⟩ | ⟨other, left, found, run, rfl⟩⟩
    · exact Or.inl rfl
    · rw [here] at found
      cases found
      rw [run]
      exact Or.inr rfl

theorem delete_placed (m : Machine R) (clock : Clock) (id : UInt8) :
    Placed m.store.mappings (m.execute clock .urlMapDelete).state.store.mappings id := by
  cases run : m.execute clock .urlMapDelete with
  | ok next after =>
    obtain ⟨mappings, read, rfl⟩ := changingMappings_ok run
    obtain ⟨s, last, -, rest⟩ := bind_eq_ok.mp read
    obtain ⟨mapping, found, same⟩ := update_eq_ok.mp (lift_eq_ok.mp rest).1
    subst same
    exact placed_set found (Or.inl rfl)
  | error fault after =>
    cases changingMappings_error run
    exact placed_of_eq rfl

theorem step_placed (m : Machine R) (clock : Clock) (id : UInt8) :
    Placed m.store.mappings (m.step clock).state.store.mappings id ∨
      m.opcode? = some .urlMap ∧ m.namedId = id := by
  have kept : ∀ {after : MappingTable}, after = m.store.mappings →
      Placed m.store.mappings after id := fun same => placed_of_eq (same ▸ rfl)
  cases step_mappings m clock with
  | kept same => exact Or.inl (kept same)
  | polled status here done => exact Or.inl (check_placed done)
  | changed here one =>
    rcases here with map | delete
    · by_cases named : m.namedId = id
      · exact Or.inr ⟨map, named⟩
      · exact Or.inl (placed_of_eq (one.others id (Ne.symm named)))
    · left
      rcases step_table delete clock with same | deleted
      · exact kept same
      · rw [deleted]
        exact delete_placed m.started clock id
  | cleared here =>
    left
    rcases step_table here clock with same | cleared
    · exact kept same
    · rw [cleared]
      exact placed_clear m.store.mappings id

end Machine

inductive PlantEvent (R : Type) where
  | own (event : MachineEvent R)
  | shared (event : StoreEvent R)

namespace Machine
open MappingTable
variable {R : Type} [Rational R] {m : Machine R} {id slotId : UInt8} {input : UInt16}

def meet (m : Machine R) : PlantEvent R → Machine R
  | .own event => m.undergo event
  | .shared event => m.onStore (m.store.undergo event)

inductive Maps (slotId : UInt8) (m : Machine R) : PlantEvent R → Prop where
  | own (clock : Clock) (here : m.opcode? = some .urlMap) (named : m.namedId = slotId) :
      Maps slotId m (.own (.step clock))
  | other (n : Machine R) (clock : Clock) (here : (n.onStore m.store).opcode? = some .urlMap)
      (named : (n.onStore m.store).namedId = slotId) : Maps slotId m (.shared (.step n clock))
  | table (request : Mapping) : Maps slotId m (.shared (.table (.map slotId request)))

theorem shared_placed (m : Machine R) (event : StoreEvent R) (slotId : UInt8) :
    Placed m.store.mappings (m.store.undergo event).mappings slotId ∨
      Maps slotId m (.shared event) := by
  cases event with
  | table step =>
    cases mapping : step.maps slotId with
    | false => exact Or.inl (take_placed m.store.mappings mapping)
    | true =>
      cases step with
      | map other request =>
        obtain rfl : other = slotId := by simpa [TableStep.maps] using mapping
        exact Or.inr (.table request)
      | _ => cases mapping
  | clear => exact Or.inl (placed_clear m.store.mappings slotId)
  | overwrite memory => exact Or.inl (placed_of_eq rfl)
  | consumeOnce other served => exact Or.inl (Store.afterConsume_placed m.store other served)
  | load format other => exact Or.inl (Store.afterLoad_placed m.store format other)
  | store format other payload =>
    exact Or.inl (Store.afterStore_placed m.store format other payload)
  | step n clock =>
    rcases step_placed (n.onStore m.store) clock slotId with placed | ⟨here, named⟩
    · exact Or.inl placed
    · exact Or.inr (.other n clock here named)

theorem meet_placed (m : Machine R) (event : PlantEvent R) (slotId : UInt8) :
    Placed m.store.mappings (m.meet event).store.mappings slotId ∨ Maps slotId m event := by
  cases event with
  | shared event => exact shared_placed m event slotId
  | own event =>
    cases event with
    | load program =>
      exact Or.inl (placed_of_eq (congrArg (·.slot? slotId) (reload_keeps m program).2))
    | clear => exact Or.inl (placed_of_eq rfl)
    | reset => exact Or.inl (placed_clear m.store.mappings slotId)
    | step clock =>
      rcases step_placed m clock slotId with placed | ⟨here, named⟩
      · exact Or.inl placed
      · exact Or.inr (.own clock here named)
    | onBank action clock =>
      have same := operate_mappings m clock.millis action
      exact Or.inl (placed_of_eq (congrArg (·.slot? slotId) same))

theorem meet_tieStep (m : Machine R) (event : PlantEvent R) : TieStep m (m.meet event) := by
  cases event with
  | own event => exact undergo_tieStep m event
  | shared event => exact .kept rfl

def TiedThroughout (id : UInt8) (input : UInt16) (slotId : UInt8) (m : Machine R) :
    List (PlantEvent R) → Prop
  | [] => m.TiedTo id input slotId
  | event :: events => m.TiedTo id input slotId ∧
      TiedThroughout id input slotId (m.meet event) events

theorem tied_of_throughout {events : List (PlantEvent R)}
    (tied : TiedThroughout id input slotId m events) : m.TiedTo id input slotId := by
  cases events with
  | nil => exact tied
  | cons event events => exact tied.1

/-- After the controller was initialized, its slot was mapped to another place. -/
def MappedAway (id : UInt8) (input : UInt16) (slotId : UInt8) (m : Machine R)
    (events : List (PlantEvent R)) : Prop :=
  ∃ earlier event later, events = earlier ++ event :: later ∧
    TiedThroughout id input slotId (earlier.foldl meet m) (event :: later) ∧
    Maps slotId (earlier.foldl meet m) event ∧
    ((earlier ++ [event]).foldl meet m).store.mappings.Astray slotId input

theorem mappedAway_cons {event : PlantEvent R} {events : List (PlantEvent R)}
    (away : MappedAway id input slotId (m.meet event) events) :
    MappedAway id input slotId m (event :: events) := by
  obtain ⟨earlier, mapping, later, rfl, tied, maps, astray⟩ := away
  exact ⟨event :: earlier, mapping, later, rfl, tied, maps, astray⟩

/-- By induction on the events: a slot that is not astray when the controller is tied to it is led
    astray later, while the tie holds. -/
theorem away_or_astray (m : Machine R) (events : List (PlantEvent R))
    (tied : (events.foldl meet m).TiedTo id input slotId)
    (astray : (events.foldl meet m).store.mappings.Astray slotId input) :
    MappedAway id input slotId m events ∨
      TiedThroughout id input slotId m events ∧ m.store.mappings.Astray slotId input := by
  induction events generalizing m with
  | nil => exact Or.inr ⟨tied, astray⟩
  | cons event events ih =>
    rcases ih (m.meet event) tied astray with away | ⟨throughout, gone⟩
    · exact Or.inl (mappedAway_cons away)
    · rcases tiedTo_of_tieStep (meet_tieStep m event) (tied_of_throughout throughout) with
        before | ⟨still, offered⟩
      · rcases meet_placed m event slotId with placed | maps
        · exact Or.inr ⟨⟨before, throughout⟩, astray_of_placed placed gone⟩
        · exact Or.inl ⟨[], event, events, rfl, ⟨before, throughout⟩, maps, gone⟩
      · -- a tie made just now is to a slot with the input
        obtain ⟨slot, found, at_input⟩ := slot_of_idForAddress offered
        obtain ⟨now, there, -, apart⟩ := gone
        rw [still, found] at there
        cases there
        exact absurd at_input apart

theorem untied_ofParts (store : Store) (count depth : Nat) :
    ¬ (ofParts store (.ofCount count : Bank R) depth).TiedTo id input slotId := by
  intro tied
  obtain ⟨c, made, same⟩ := List.mem_map.mp (List.mem_of_getElem? tied)
  obtain ⟨other, rfl⟩ := Bank.mem_ofCount made
  cases same

end Machine

namespace Controller
variable {R : Type} {c : Controller R} {store : Store} {now : UInt64}

theorem slot_of_heldBack {t : MappingTable} (held : c.heldBack t = .ok true) :
    ∃ slotId s, c.mapId? = some slotId ∧ t.slot? slotId = some s ∧ s.isActive = true ∧
      s.status &&& 0xFE ≠ 0 := by
  unfold heldBack at held
  split at held
  · cases held
  · rename_i slotId tied
    obtain ⟨⟨status, after⟩, polled, above⟩ := except_map_eq_ok.mp held
    obtain ⟨s, found, rfl, -⟩ := MappingTable.check_eq_ok.mp polled
    have error : Mapping.done < (s.poll false).1 := of_decide_eq_true above
    cases active : s.isActive with
    | false =>
      have none : (s.poll false).1 = 0 := by rw [Mapping.poll_of_inactive active]
      rw [none] at error
      exact absurd error (by decide)
    | true =>
      have shown : (s.poll false).1 = s.status := by simp [Mapping.poll, active]
      rw [shown] at error
      exact ⟨slotId, s, tied, found, active, Mapping.error_of_done_lt error⟩

variable [Rational R]

theorem heldBack_of_compute (active : c.Active) (due : c.isDue now = true)
    (held : (c.compute store now).answer = .ok false) : c.heldBack store.mappings = .ok true := by
  unfold compute at held
  dsimp only at held
  rw [if_pos (active_iff.mpr active)] at held
  split at held
  · cases held
  · assumption
  · rw [if_pos due] at held
    split at held
    · cases held
    · split at held
      · cases held
      · split at held <;> cases held

end Controller

namespace Machine
variable {R : Type} [Rational R]

def plantAfter (store : Store) (count depth : Nat) (events : List (PlantEvent R)) : Machine R :=
  events.foldl meet (.ofParts store (.ofCount count) depth)

/-- What holds a controller back is the slot it is tied to, which is active and has an error. The slot
    offers the input of the controller, or it was mapped to another place under the tie. -/
theorem held_back_by_tied_slot (store : Store) (count depth : Nat) (events : List (PlantEvent R))
    (m : Machine R) (reached : m = plantAfter store count depth events) (id : UInt8)
    (c : Controller R) (now : UInt64) (found : m.bank.controller id = .ok c) (active : c.Active)
    (due : c.isDue now = true) (held : (m.bank.compute id m.store now).answer = .ok false) :
    ∃ slotId s, c.mapId? = some slotId ∧ m.store.mappings.slot? slotId = some s ∧
      s.isActive = true ∧ s.status &&& 0xFE ≠ 0 ∧
      (s.valueAddress = c.input ∨
        MappedAway id c.input slotId (.ofParts store (.ofCount count) depth) events) := by
  rw [Bank.compute_of_found found, Outcome.answer_mapState] at held
  have stopped := Controller.heldBack_of_compute active due held
  obtain ⟨slotId, s, tied, there, alive, error⟩ := Controller.slot_of_heldBack stopped
  refine ⟨slotId, s, tied, there, alive, error, ?_⟩
  by_cases own : s.valueAddress = c.input
  · exact Or.inl own
  · right
    have ties : m.TiedTo id c.input slotId := by
      rw [TiedTo, Bank.tie_of_controller found, Controller.tie, active.1, tied]
    have astray : m.store.mappings.Astray slotId c.input :=
      ⟨s, there, Mapping.address_of_active alive, own⟩
    subst reached
    rcases away_or_astray _ events ties astray with away | ⟨throughout, -⟩
    · exact away
    · exact absurd (tied_of_throughout throughout) (untied_ofParts store count depth)

def offering (address : UInt16) : PlantEvent Fixed :=
  .shared (.table (.map 1 ⟨4, 4, address, 40, 44, 5683, 0⟩))

def measuring : List (PlantEvent Fixed) :=
  [offering 8, .own (.onBank (.init 0 ⟨8, 12, 16, 0, 0, 0, 100, .direct, 0, .ofUnits 2560⟩) ⟨0⟩),
    .own (.onBank (.setMode 0 .automatic) ⟨0⟩)]

def failing : PlantEvent Fixed := .shared (.table (.fail 1 2))

def stopped : Machine Fixed := plantAfter (.ofSizes 64 2) 1 0 (measuring ++ [failing])

theorem held_back_by_tied_slot_stopped :
    ∃ c, stopped.bank.controller 0 = .ok c ∧ c.Active ∧ c.isDue 5000 = true ∧
      (stopped.bank.compute 0 stopped.store 5000).answer = .ok false ∧
      ∃ slotId s, c.mapId? = some slotId ∧ stopped.store.mappings.slot? slotId = some s ∧
        s.isActive = true ∧ s.status &&& 0xFE ≠ 0 ∧
        (s.valueAddress = c.input ∨ MappedAway 0 c.input slotId
          (.ofParts (.ofSizes 64 2) (.ofCount 1) 0) (measuring ++ [failing])) := by
  refine ⟨_, rfl, ⟨rfl, rfl⟩, rfl, rfl, ?_⟩
  exact held_back_by_tied_slot (.ofSizes 64 2) 1 0 (measuring ++ [failing]) stopped rfl 0 _ 5000 rfl
    ⟨rfl, rfl⟩ rfl rfl

/-- The slot was given up and mapped to another number before the transfer failed. -/
def diverted : Machine Fixed :=
  plantAfter (.ofSizes 64 2) 1 0 (measuring ++ [.shared (.table (.unmap 1)), offering 20, failing])

/-- The error of a number that is not its input holds the controller back. -/
theorem held_back_by_other_number :
    ∃ c s, diverted.bank.controller 0 = .ok c ∧ c.Active ∧ c.isDue 5000 = true ∧
      (diverted.bank.compute 0 diverted.store 5000).answer = .ok false ∧ c.mapId? = some 1 ∧
      diverted.store.mappings.slot? 1 = some s ∧ s.valueAddress ≠ c.input := by
  refine ⟨_, _, rfl, ⟨rfl, rfl⟩, rfl, rfl, rfl, rfl, ?_⟩
  decide

end Machine
end ControlMachine
