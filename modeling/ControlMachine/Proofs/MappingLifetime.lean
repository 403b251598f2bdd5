import ControlMachine.Number.Fixed
import ControlMachine.Proofs.Footprint
import ControlMachine.Proofs.FaultResidue
import ControlMachine.Proofs.Remapping
import ControlMachine.Proofs.SlotStatus

/- How a mapping ends. A slot stays active while programs, machines and the network use the store,
   until it is mapped anew, unmapped or cleared, polled or used up at the end of its one transfer, or
   until the network reports a code with the bit that stands for no mapping. That bit is no error like
   the others: the slot is not active any more, and polls see nothing of the report. -/
namespace ControlMachine

namespace MappingTable

def ActiveAt (t : MappingTable) (id : UInt8) : Prop :=
  ∃ m, t.slot? id = some m ∧ m.isActive = true

/-- The slot has served its one transfer without an error. -/
def FinishedAt (t : MappingTable) (id : UInt8) : Prop :=
  ∃ m, t.slot? id = some m ∧ m.isOnce = true ∧ m.status = Mapping.done

end MappingTable

inductive StoreEvent (R : Type) where
  | table (step : TableStep)
  | clear
  | overwrite (memory : Memory)
  | consumeOnce (id : UInt8) (served : Mapping)
  | load (format : PayloadFormat) (id : UInt8)
  | store (format : PayloadFormat) (id : UInt8) (payload : List UInt8)
  /-- A machine takes a step on the store. -/
  | step (machine : Machine R) (clock : Clock)

def Machine.onStore {R : Type} (m : Machine R) (s : Store) : Machine R := { m with store := s }

namespace Store
open MappingTable
variable {R : Type} {s after : Store} {id : UInt8}

/-- The end of a transfer, which leaves the store as it was if there is no such slot. -/
def afterConsume (s : Store) (id : UInt8) (served : Mapping) : Store :=
  match s.mappings.consumeOnce id served with
  | .ok (_, mappings) => { s with mappings := mappings }
  | .error _ => s

def afterLoad (R : Type) [Rational R] (s : Store) (format : PayloadFormat) (id : UInt8) : Store :=
  match s.loadValue R format id with
  | .ok (_, after) => after
  | .error _ => s

def afterStore (R : Type) [Rational R] (s : Store) (format : PayloadFormat) (id : UInt8)
    (payload : List UInt8) : Store :=
  match s.storeValue R format id payload with
  | .ok after => after
  | .error _ => s

def undergo [Rational R] (s : Store) : StoreEvent R → Store
  | .table step => { s with mappings := s.mappings.take step }
  | .clear => s.clear
  | .overwrite memory => { s with memory := memory }
  | .consumeOnce id served => s.afterConsume id served
  | .load format id => s.afterLoad R format id
  | .store format id payload => s.afterStore R format id payload
  | .step machine clock => ((machine.onStore s).step clock).state.store

inductive Ends (id : UInt8) (s : Store) : StoreEvent R → Prop where
  | mapped (request : Mapping) : Ends id s (.table (.map id request))
  | unmapped : Ends id s (.table (.unmap id))
  | polled (finished : s.mappings.FinishedAt id) : Ends id s (.table (.check id true))
  | disowned (code : UInt8) (top : code &&& 0x80 ≠ 0) : Ends id s (.table (.fail id code))
  | cleared : Ends id s .clear
  | consumed (served : Mapping) (mappings : MappingTable)
      (dropped : s.mappings.consumeOnce id served = .ok (true, mappings)) :
      Ends id s (.consumeOnce id served)
  | loaded (format : PayloadFormat) (served : Mapping) (mappings : MappingTable)
      (dropped : s.mappings.consumeOnce id served = .ok (true, mappings)) :
      Ends id s (.load format id)
  | stored (format : PayloadFormat) (payload : List UInt8) (served : Mapping)
      (mappings : MappingTable)
      (dropped : s.mappings.consumeOnce id served = .ok (true, mappings)) :
      Ends id s (.store format id payload)
  | remapped (m : Machine R) (clock : Clock) (here : (m.onStore s).opcode? = some .urlMap)
      (named : (m.onStore s).namedId = id) : Ends id s (.step m clock)
  | deleted (m : Machine R) (clock : Clock) (here : (m.onStore s).opcode? = some .urlMapDelete)
      (named : (m.onStore s).namedId = id) : Ends id s (.step m clock)
  | checked (m : Machine R) (clock : Clock) (here : (m.onStore s).opcode? = some .urlMapCheck)
      (named : (m.onStore s).namedId = id) (finished : s.mappings.FinishedAt id) :
      Ends id s (.step m clock)
  | reset (m : Machine R) (clock : Clock) (here : (m.onStore s).opcode? = some .reset) :
      Ends id s (.step m clock)

end Store

namespace MappingTable
open Mapping
variable {t after : MappingTable} {id other : UInt8} {m served : Mapping}

theorem activeAt_of_eq (active : t.ActiveAt id) (same : after.slot? id = t.slot? id) :
    after.ActiveAt id := by
  obtain ⟨m, found, alive⟩ := active
  exact ⟨m, same.trans found, alive⟩

theorem check_keeps {release : Bool} {status : UInt8} (active : t.ActiveAt id)
    (done : t.check other release = .ok (status, after)) :
    after.ActiveAt id ∨ other = id ∧ release = true ∧ t.FinishedAt id := by
  by_cases own : other = id
  · subst own
    obtain ⟨m, found, alive⟩ := active
    obtain ⟨n, here, -, rfl⟩ := check_eq_ok.mp done
    rw [found] at here
    cases here
    rcases poll_keeps alive release with same | ⟨releasing, single, finished⟩
    · rw [same]
      exact Or.inl ⟨m, slot?_set_self found m, alive⟩
    · exact Or.inr ⟨rfl, releasing, m, found, single, finished⟩
  · exact Or.inl (activeAt_of_eq active ((check_changedAt done).others id (Ne.symm own)))

theorem check_after_fail (found : t.slot? id = some m) (active : m.isActive = true) (code : UInt8) :
    (t.set id (m.failed code)).check id false = .ok
      (if code &&& 0x80 = 0 then m.status ||| (code ||| done) else 0, t.set id (m.failed code)) := by
  have now := slot?_set_self found (m.failed code)
  rw [check_of_slot now]
  by_cases top : code &&& 0x80 = 0
  · have alive := (failed_isActive active).mpr top
    have unpolled : (m.failed code).poll false = ((m.failed code).status, m.failed code) := by
      simp [poll, alive]
    have status : (m.failed code).status = m.status ||| (code ||| done) := by
      rw [failed_of_active active]
    rw [if_pos top, unpolled, set_self now, status]
  · have dead : (m.failed code).isActive = false := by
      rw [← Bool.not_eq_true, failed_isActive active]
      exact top
    rw [if_neg top, poll_of_inactive dead, set_self now]

theorem consumeOnce_keeps {dropped : Bool} (active : t.ActiveAt id)
    (done : t.consumeOnce other served = .ok (dropped, after)) :
    after.ActiveAt id ∨ other = id ∧ dropped = true := by
  obtain ⟨now, found, rfl, rfl⟩ := consumeOnce_eq_ok.mp done
  cases matched : now.consumedBy served with
  | false => exact Or.inl active
  | true =>
    by_cases own : other = id
    · exact Or.inr ⟨own, rfl⟩
    · exact Or.inl (activeAt_of_eq active (slot?_set_other (Ne.symm own) unmapped))

end MappingTable

namespace Machine
open Fetch
variable {R : Type} {m : Machine R}

theorem pollHeader_id (inside : m.pc.toNat < m.memory.capacity) {id : UInt8} {dest last : UInt16}
    (read : m.pollHeader (m.pc + 1) = .ok (id, dest) last) : id = m.namedId := by
  obtain ⟨s, p1, selected, rest⟩ := bind_eq_ok.mp read
  obtain ⟨a, p2, -, rest⟩ := bind_eq_ok.mp rest
  obtain ⟨⟨⟩, -⟩ := pure_eq_ok.mp rest
  obtain ⟨rfl, -, -⟩ := selector_eq_ok.mp selected
  rw [toNat_afterOpcode inside]
  rfl

/-- Whether its status can be stored or not, the slot was polled, unless the instruction could not
    be read or names no slot. -/
theorem checkMapping_polls (inside : m.pc.toNat < m.memory.capacity) :
    m.checkMapping.state.store.mappings = m.store.mappings ∨
      ∃ status, m.store.mappings.check m.namedId true =
        .ok (status, m.checkMapping.state.store.mappings) := by
  unfold checkMapping
  dsimp only
  split
  · exact Or.inl rfl
  · rename_i id dest last read
    have named : id = m.namedId := pollHeader_id inside read
    subst named
    cases polled : m.store.mappings.check m.namedId true with
    | error fault => exact Or.inl rfl
    | ok pair =>
      refine Or.inr ⟨pair.1, ?_⟩
      dsimp only
      cases m.memory.store dest pair.1 <;> rfl

inductive MappingStep (m : Machine R) (after : MappingTable) : Prop where
  | kept (same : after = m.store.mappings)
  | polled (status : UInt8) (here : m.opcode? = some .urlMapCheck)
      (done : m.store.mappings.check m.namedId true = .ok (status, after))
  | changed (here : m.opcode? = some .urlMap ∨ m.opcode? = some .urlMapDelete)
      (one : m.store.mappings.ChangedAt after m.namedId)
  | cleared (here : m.opcode? = some .reset)

theorem mappingStep_of_started {mappings : MappingTable} (step : MappingStep m.started mappings) :
    MappingStep m mappings := by
  cases step with
  | kept same => exact .kept same
  | polled status here done => exact .polled status here done
  | changed here one => exact .changed here one
  | cleared here => exact .cleared here

variable [Rational R] {clock : Clock} {op : Opcode} {next : UInt16} {after : Machine R}
  {fault : Fault}

theorem execute_mappings (inside : m.pc.toNat < m.memory.capacity) (here : m.opcode? = some op)
    (done : m.execute clock op = .ok next after) : MappingStep m after.store.mappings := by
  have confined := execute_confined inside done
  cases about : op.onMappings with
  | false => exact .kept (confined.mappings about)
  | true =>
    cases op with
    | urlMap => exact .changed (Or.inl here) confined.slots
    | urlMapDelete => exact .changed (Or.inr here) confined.slots
    | urlMapCheck =>
      have left : m.checkMapping.state = after := congrArg Outcome.state done
      rcases checkMapping_polls inside with same | ⟨status, polled⟩
      · rw [left] at same
        exact .kept same
      · rw [left] at polled
        exact .polled status here polled
    | _ => cases about

theorem execute_error_mappings (inside : m.pc.toNat < m.memory.capacity)
    (here : m.opcode? = some op) (failed : m.execute clock op = .error fault after) :
    MappingStep m after.store.mappings := by
  by_cases clearing : op = .reset
  · subst clearing
    exact .cleared here
  · by_cases polling : op = .urlMapCheck
    · subst polling
      have left : m.checkMapping.state = after := congrArg Outcome.state failed
      rcases checkMapping_polls inside with same | ⟨status, polled⟩
      · rw [left] at same
        exact .kept same
      · rw [left] at polled
        exact .polled status here polled
    · exact .kept (residue_mappings (execute_residue failed) clearing polling)

theorem step_mappings (m : Machine R) (clock : Clock) :
    MappingStep m (m.step clock).state.store.mappings := by
  cases outcome : m.step clock with
  | ok u after =>
    rcases step_ok outcome with ⟨-, rfl⟩ | ⟨-, op, next, changed, here, run, rfl⟩
    · exact .kept rfl
    · have inside := (Memory.load_eq_ok.mp (opcode_eq_some.mp here)).1
      have step := execute_mappings (m := m.started) inside here run
      exact mappingStep_of_started step
  | error fault after =>
    rcases step_error outcome with ⟨-, ⟨-, rfl⟩ | ⟨op, left, here, run, rfl⟩⟩
    · exact .kept rfl
    · have inside := (Memory.load_eq_ok.mp (opcode_eq_some.mp here)).1
      have step := execute_error_mappings (m := m.started) inside here run
      exact mappingStep_of_started step

end Machine

namespace Store
open MappingTable Mapping
variable {R : Type} {s : Store} {id : UInt8}

theorem table_keeps (active : s.mappings.ActiveAt id) (step : TableStep) :
    (s.mappings.take step).ActiveAt id ∨ Ends (R := R) id s (.table step) := by
  by_cases own : step.id = id
  · obtain ⟨m, found, alive⟩ := active
    have changed := slot?_take_self s.mappings step
    rw [own, found] at changed
    cases step with
    | map other request =>
      cases own
      exact Or.inr (.mapped request)
    | unmap other =>
      cases own
      exact Or.inr .unmapped
    | complete other => exact Or.inl ⟨m.completed, changed, completed_isActive alive⟩
    | fail other code =>
      cases own
      by_cases top : code &&& 0x80 = 0
      · exact Or.inl ⟨m.failed code, changed, (failed_isActive alive).mpr top⟩
      · exact Or.inr (.disowned code top)
    | check other release =>
      cases own
      rcases poll_keeps alive release with same | ⟨rfl, single, finished⟩
      · refine Or.inl ⟨m, ?_, alive⟩
        rw [changed]
        exact congrArg some same
      · exact Or.inr (.polled ⟨m, found, single, finished⟩)
  · exact Or.inl (activeAt_of_eq active (slot?_take_other s.mappings (Ne.symm own)))

theorem afterConsume_keeps (active : s.mappings.ActiveAt id) (other : UInt8) (served : Mapping) :
    (s.afterConsume other served).mappings.ActiveAt id ∨
      Ends (R := R) id s (.consumeOnce other served) := by
  unfold afterConsume
  cases done : s.mappings.consumeOnce other served with
  | error fault => exact Or.inl active
  | ok pair =>
    obtain ⟨dropped, mappings⟩ := pair
    rcases consumeOnce_keeps active done with still | ⟨rfl, rfl⟩
    · exact Or.inl still
    · exact Or.inr (.consumed served mappings done)

variable [Rational R]

theorem step_keeps (active : s.mappings.ActiveAt id) (m : Machine R) (clock : Clock) :
    ((m.onStore s).step clock).state.store.mappings.ActiveAt id ∨ Ends id s (.step m clock) := by
  cases Machine.step_mappings (m.onStore s) clock with
  | kept same =>
    rw [same]
    exact Or.inl active
  | polled status here done =>
    rcases check_keeps active done with still | ⟨named, -, finished⟩
    · exact Or.inl still
    · exact Or.inr (.checked m clock here named finished)
  | changed here one =>
    by_cases named : (m.onStore s).namedId = id
    · rcases here with map | delete
      · exact Or.inr (.remapped m clock map named)
      · exact Or.inr (.deleted m clock delete named)
    · exact Or.inl (activeAt_of_eq active (one.others id (Ne.symm named)))
  | cleared here => exact Or.inr (.reset m clock here)

theorem afterLoad_keeps (active : s.mappings.ActiveAt id) (format : PayloadFormat) (other : UInt8) :
    (s.afterLoad R format other).mappings.ActiveAt id ∨ Ends (R := R) id s (.load format other) := by
  unfold afterLoad
  cases done : s.loadValue R format other with
  | error fault => exact Or.inl active
  | ok pair =>
    rw [loadValue_eq] at done
    obtain ⟨served, -, finished⟩ := except_bind_eq_ok.mp done
    rcases finishLoad_mappings finished with same | ⟨dropped, consumed⟩
    · refine Or.inl ?_
      dsimp only
      rw [same]
      exact active
    · rcases consumeOnce_keeps active consumed with still | ⟨rfl, rfl⟩
      · exact Or.inl still
      · exact Or.inr (.loaded format served pair.2.mappings consumed)

theorem afterStore_keeps (active : s.mappings.ActiveAt id) (format : PayloadFormat) (other : UInt8)
    (payload : List UInt8) :
    (s.afterStore R format other payload).mappings.ActiveAt id ∨
      Ends (R := R) id s (.store format other payload) := by
  unfold afterStore
  cases done : s.storeValue R format other payload with
  | error fault => exact Or.inl active
  | ok after =>
    rw [storeValue_eq] at done
    obtain ⟨served, -, finished⟩ := except_bind_eq_ok.mp done
    obtain ⟨dropped, consumed⟩ := finishStore_mappings finished
    rcases consumeOnce_keeps active consumed with still | ⟨rfl, rfl⟩
    · exact Or.inl still
    · exact Or.inr (.stored format payload served after.mappings consumed)

theorem undergo_keeps (active : s.mappings.ActiveAt id) (event : StoreEvent R) :
    (s.undergo event).mappings.ActiveAt id ∨ Ends id s event := by
  cases event with
  | table step => exact table_keeps active step
  | clear => exact Or.inr .cleared
  | overwrite memory => exact Or.inl active
  | consumeOnce other served => exact afterConsume_keeps active other served
  | load format other => exact afterLoad_keeps active format other
  | store format other payload => exact afterStore_keeps active format other payload
  | step m clock => exact step_keeps active m clock

/-- By induction on the events: the first that does not keep the slot active is one that ends it. -/
theorem lost_by_ending (active : s.mappings.ActiveAt id) (events : List (StoreEvent R))
    (lost : ¬ (events.foldl undergo s).mappings.ActiveAt id) :
    ∃ earlier event later, events = earlier ++ event :: later ∧
      (earlier.foldl undergo s).mappings.ActiveAt id ∧
      Ends id (earlier.foldl undergo s) event := by
  induction events generalizing s with
  | nil => exact absurd active lost
  | cons event events ih =>
    rcases undergo_keeps active event with still | ends
    · obtain ⟨earlier, ending, later, split, alive, ends⟩ := ih still lost
      exact ⟨event :: earlier, ending, later, by rw [split, List.cons_append], alive, ends⟩
    · exact ⟨[], event, events, rfl, active, ends⟩

/-- An active slot is lost to nothing but the events that end it, and a poll right after a report
    sees all bits of its code and that the transfer is over, unless the code has the top bit. -/
theorem active_until_ended (s : Store) (id : UInt8) (m : Mapping) (events : List (StoreEvent R))
    (found : s.mappings.slot? id = some m) (active : m.isActive = true) :
    (¬ (events.foldl undergo s).mappings.ActiveAt id →
      ∃ earlier event later, events = earlier ++ event :: later ∧
        (earlier.foldl undergo s).mappings.ActiveAt id ∧
        Ends id (earlier.foldl undergo s) event) ∧
      ∀ code, ∃ reported, s.mappings.fail id code = .ok reported ∧
        reported.check id false = .ok
          (if code &&& 0x80 = 0 then m.status ||| (code ||| done) else 0, reported) := by
  constructor
  · exact lost_by_ending ⟨m, found, active⟩ events
  · intro code
    refine ⟨_, update_eq_ok.mpr ⟨m, found, rfl⟩, ?_⟩
    exact check_after_fail found active code

def offer : Store := ⟨.ofCapacity 300, .offering⟩

def transfer : List (StoreEvent Fixed) :=
  [.table (.fail 3 0x04), .overwrite ((Memory.ofCapacity 300).patch 0 [0x71, 0x30, 0x08, 0x00]),
    .step (.ofSizes 1 1 1 1) ⟨0⟩, .table (.complete 3), .load .octets 3]

theorem active_until_ended_transfer :
    offer.mappings.slot? 3 = some MappingTable.offered ∧ MappingTable.offered.isActive = true ∧
      ((transfer.take 4).foldl undergo offer).memory.byteAt 8 = 0x05 ∧
      ¬ (transfer.foldl undergo offer).mappings.ActiveAt 3 ∧
      ∃ earlier event later, transfer = earlier ++ event :: later ∧
        (earlier.foldl undergo offer).mappings.ActiveAt 3 ∧
        Ends 3 (earlier.foldl undergo offer) event := by
  have found : offer.mappings.slot? 3 = some MappingTable.offered := by rfl
  have active : MappingTable.offered.isActive = true := by decide
  have gone : (transfer.foldl undergo offer).mappings.slot? 3 = some Mapping.unmapped := by
    decide +kernel
  have lost : ¬ (transfer.foldl undergo offer).mappings.ActiveAt 3 := by
    rintro ⟨m, here, alive⟩
    rw [gone] at here
    cases here
    cases alive
  refine ⟨found, active, by decide +kernel, lost, ?_⟩
  exact (active_until_ended offer 3 MappingTable.offered transfer found active).1 lost

/-- A report with the top bit ends the mapping, and the poll after it sees none of its bits. -/
theorem report_ends_mapping :
    offer.mappings.ActiveAt 3 ∧
      ¬ (offer.undergo (R := Fixed) (.table (.fail 3 0x80))).mappings.ActiveAt 3 ∧
      ∃ reported, offer.mappings.fail 3 0x80 = .ok reported ∧
        reported.check 3 false = .ok (0, reported) ∧
        (reported.slot? 3).map (·.status) = some 0x81 := by
  refine ⟨⟨MappingTable.offered, by rfl, by decide⟩, ?_, _, by rfl, by rfl, by rfl⟩
  rintro ⟨m, here, alive⟩
  cases here
  cases alive

end Store
end ControlMachine
