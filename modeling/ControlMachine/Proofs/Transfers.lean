import ControlMachine.Proofs.MemoryInPlace
import ControlMachine.Proofs.PayloadBytes

/- Transfers worked out on the store itself, one change after the other. What was done before an
   error stays done there. Nothing that can fail follows the first change of a transfer, so it is
   done as a whole or not at all. -/
namespace ControlMachine

namespace MappingTable
variable {t : MappingTable} {id : UInt8} {served : Mapping} {used : Prop}

structure Served (t after : MappingTable) (id : UInt8) (used : Prop) : Prop where
  gone : after.slot? id = some .unmapped ↔ used
  kept : ¬ used → after = t
  others : t.ChangedAt after id

theorem served_set (found : t.slot? id = some served) (yes : used) :
    Served t (t.set id .unmapped) id used where
  gone := ⟨fun _ => yes, fun _ => slot?_set_self found .unmapped⟩
  kept := fun no => absurd yes no
  others := changedAt_set t id .unmapped

theorem served_self (read : t.active id = .ok served) (no : ¬ used) : Served t t id used := by
  obtain ⟨found, active⟩ := active_eq_ok.mp read
  constructor
  case gone =>
    refine ⟨?_, fun yes => absurd yes no⟩
    intro gone
    rw [found] at gone
    cases gone
    rw [Mapping.isActive_unmapped] at active
    cases active
  case kept => exact fun _ => rfl
  case others => exact changedAt_refl t id

theorem served_of_active (read : t.active id = .ok served) (used : Bool) :
    Served t (if used then t.set id .unmapped else t) id (used = true) := by
  cases used with
  | true => exact served_set (active_eq_ok.mp read).1 rfl
  | false => exact served_self read Bool.false_ne_true

/-- A slot that was just read holds what was read, so giving it up cannot fail. -/
theorem consumeOnce_of_active (read : t.active id = .ok served) :
    t.consumeOnce id served =
      .ok (served.isOnce, if served.isOnce then t.set id .unmapped else t) := by
  have same : served.consumedBy served = served.isOnce := by simp [Mapping.consumedBy]
  refine consumeOnce_eq_ok.mpr ⟨served, (active_eq_ok.mp read).1, same.symm, ?_⟩
  rw [same]

end MappingTable

namespace InPlace

/-- The bounds are checked before the first byte is set. -/
def write (pending : Payload.CellWrite) (address : UInt16) : InPlace NetworkError Store Unit := do
  lookUp fun s => networkFault (s.memory.check pending.access address pending.values.length)
  within Store.memory (fun s memory => { s with memory := memory })
    (Memory.setBytes address.toNat pending.values)

def giveUp (id : UInt8) (served : Mapping) : InPlace NetworkError Store Unit := fun s =>
  match networkFault (s.mappings.consumeOnce id served) with
  | .ok (_, mappings) => .ok () { s with mappings := mappings }
  | .error error => .error error s

theorem write_eq (pending : Payload.CellWrite) (address : UInt16) (s : Store) :
    write pending address s = match pending.make s.memory address with
      | .ok memory => .ok () { s with memory := memory }
      | .error error => .error error s := by
  rw [write, lookUp_bind, Payload.CellWrite.make, Memory.write]
  cases s.memory.check pending.access address pending.values.length with
  | error fault => rfl
  | ok u =>
    simp only [within, Memory.setBytes_eq]
    rfl

end InPlace

namespace Store
open InPlace
variable {R : Type} [Rational R] {s after : Store} {format : PayloadFormat} {id : UInt8}
  {served : Mapping} {payload : List UInt8}

def loadInPlace (R : Type) [Rational R] (format : PayloadFormat) (id : UInt8) :
    InPlace NetworkError Store (List UInt8) := do
  let served ← lookUp fun s => s.mappings.active id
  let type ← lookUp fun _ => served.dataType
  let payload ← lookUp fun s =>
    networkFault (Payload.read R s.memory format type served.valueAddress)
  if usedUpByRead format served then giveUp id served
  return payload

def storeInPlace (R : Type) [Rational R] (format : PayloadFormat) (id : UInt8)
    (payload : List UInt8) : InPlace NetworkError Store Unit := do
  let served ← lookUp fun s => s.mappings.active id
  let type ← lookUp fun _ => served.dataType
  let pending ← lookUp fun _ => Payload.cellBytes R format type payload
  write pending served.valueAddress
  giveUp id served

theorem usedUpByRead_iff : usedUpByRead format served = true ↔
    served.isOnce = true ∧
      (format = .octets ∨ served.status = 0 ∨ served.status = Mapping.done) := by
  have low : served.status ≤ Mapping.done ↔ served.status = 0 ∨ served.status = Mapping.done := by
    simp only [UInt8.le_iff_toNat_le, ← UInt8.toNat_inj, Mapping.done, UInt8.reduceToNat]
    omega
  cases format <;> simp [usedUpByRead, low]

theorem giveUp_of_active (read : s.mappings.active id = .ok served) :
    giveUp id served s = .ok ()
      { s with mappings := if served.isOnce then s.mappings.set id .unmapped else s.mappings } := by
  simp [giveUp, MappingTable.consumeOnce_of_active read, networkFault]

theorem loadInPlace_eq (s : Store) (format : PayloadFormat) (id : UInt8) :
    loadInPlace R format id s = allOrNothing s (s.loadValue R format id) := by
  simp only [loadInPlace, loadValue, lookUp_bind]
  cases read : s.mappings.active id with
  | error error => rfl
  | ok served =>
    cases typed : served.dataType with
    | error error => simp only [typed, bind, Except.bind, allOrNothing]
    | ok type =>
      simp only [typed, bind, Except.bind]
      cases networkFault (Payload.read R s.memory format type served.valueAddress) with
      | error error => rfl
      | ok payload =>
        cases used : usedUpByRead format served with
        | false => rfl
        | true =>
          simp only [if_true, EStateM.bind, giveUp_of_active read, networkFault,
            MappingTable.consumeOnce_of_active read]
          rfl

/-- What can fail comes before the first byte is set, and the slot that was read can be given up. -/
theorem storeInPlace_eq (s : Store) (format : PayloadFormat) (id : UInt8) (payload : List UInt8) :
    storeInPlace R format id payload s =
      allOrNothing s ((fun after => ((), after)) <$> s.storeValue R format id payload) := by
  simp only [storeInPlace, storeValue, lookUp_bind, Payload.write_eq]
  cases read : s.mappings.active id with
  | error error => rfl
  | ok served =>
    cases typed : served.dataType with
    | error error => simp only [typed, bind, Except.bind, Functor.map, Except.map, allOrNothing]
    | ok type =>
      -- up to here only the slot and the payload were looked at
      cases given : Payload.cellBytes R format type payload with
      | error error =>
        simp only [typed, given, bind, Except.bind, Functor.map, Except.map, allOrNothing]
      | ok pending =>
        simp only [typed, given, bind, Except.bind, Functor.map, Except.map, EStateM.bind, write_eq]
        cases pending.make s.memory served.valueAddress with
        | error error => rfl
        | ok memory =>
          -- the bytes are set, and the table is still the one that was read
          have released : giveUp id served { s with memory := memory } = .ok () _ :=
            giveUp_of_active read
          simp only [MappingTable.consumeOnce_of_active read, networkFault, released]
          rfl

theorem loadValue_eq_ok : s.loadValue R format id = .ok (payload, after) ↔
    ∃ served type, s.mappings.active id = .ok served ∧ served.dataType = .ok type ∧
      Payload.read R s.memory format type served.valueAddress = .ok payload ∧
      after = ⟨s.memory,
        if usedUpByRead format served then s.mappings.set id .unmapped else s.mappings⟩ := by
  constructor
  · intro done
    obtain ⟨served, read, rest⟩ := except_bind_eq_ok.mp done
    obtain ⟨type, typed, rest⟩ := except_bind_eq_ok.mp rest
    obtain ⟨found, given, rest⟩ := except_bind_eq_ok.mp rest
    refine ⟨served, type, read, typed, ?_⟩
    split at rest
    · rename_i used
      obtain ⟨⟨dropped, mappings⟩, consumed, same⟩ := except_bind_eq_ok.mp rest
      cases except_pure_eq_ok.mp same
      rw [networkFault_eq_ok, MappingTable.consumeOnce_of_active read,
        (usedUpByRead_iff.mp used).1] at consumed
      cases consumed
      exact ⟨networkFault_eq_ok.mp given, by rw [if_pos used]; rfl⟩
    · rename_i kept
      cases except_pure_eq_ok.mp rest
      exact ⟨networkFault_eq_ok.mp given, by rw [if_neg kept]⟩
  · rintro ⟨served, type, read, typed, given, rfl⟩
    unfold loadValue
    simp only [read, typed, given, networkFault, bind, Except.bind]
    cases used : usedUpByRead format served with
    | false => rfl
    | true =>
      simp only [MappingTable.consumeOnce_of_active read, (usedUpByRead_iff.mp used).1]
      rfl

theorem storeValue_eq_ok : s.storeValue R format id payload = .ok after ↔
    ∃ served type memory, s.mappings.active id = .ok served ∧ served.dataType = .ok type ∧
      Payload.write R s.memory format type served.valueAddress payload = .ok memory ∧
      after = ⟨memory, if served.isOnce then s.mappings.set id .unmapped else s.mappings⟩ := by
  constructor
  · intro done
    obtain ⟨served, read, rest⟩ := except_bind_eq_ok.mp done
    obtain ⟨type, typed, rest⟩ := except_bind_eq_ok.mp rest
    obtain ⟨memory, written, rest⟩ := except_bind_eq_ok.mp rest
    obtain ⟨⟨dropped, mappings⟩, consumed, same⟩ := except_bind_eq_ok.mp rest
    cases except_pure_eq_ok.mp same
    rw [networkFault_eq_ok, MappingTable.consumeOnce_of_active read] at consumed
    cases consumed
    exact ⟨served, type, memory, read, typed, written, rfl⟩
  · rintro ⟨served, type, memory, read, typed, written, rfl⟩
    unfold storeValue
    simp only [read, typed, written, networkFault, bind, Except.bind,
      MappingTable.consumeOnce_of_active read]
    rfl

section Lasting
variable {type : DataType} {memory : Memory}

theorem loadValue_lasting (read : s.mappings.active id = .ok served)
    (typed : served.dataType = .ok type) (lasting : served.isOnce = false)
    (given : Payload.read R s.memory format type served.valueAddress = .ok payload) :
    s.loadValue R format id = .ok (payload, s) := by
  have kept : ¬ usedUpByRead format served = true := by
    rw [usedUpByRead_iff, lasting]
    exact fun used => Bool.false_ne_true used.1
  refine loadValue_eq_ok.mpr ⟨served, type, read, typed, given, ?_⟩
  rw [if_neg kept]

theorem storeValue_lasting (read : s.mappings.active id = .ok served)
    (typed : served.dataType = .ok type) (lasting : served.isOnce = false)
    (written : Payload.write R s.memory format type served.valueAddress payload = .ok memory) :
    s.storeValue R format id payload = .ok { s with memory := memory } := by
  refine storeValue_eq_ok.mpr ⟨served, type, memory, read, typed, written, ?_⟩
  rw [lasting, if_neg Bool.false_ne_true]

end Lasting

structure ReadConfined (R : Type) [Rational R] (s : Store) (format : PayloadFormat)
    (id : UInt8) : Prop where
  same : loadInPlace R format id s = allOrNothing s (s.loadValue R format id)
  whole : ∀ error after, loadInPlace R format id s = .error error after → after = s
  memory : (left (loadInPlace R format id s)).memory = s.memory
  others : s.mappings.ChangedAt (left (loadInPlace R format id s)).mappings id
  slot : ∀ payload after, loadInPlace R format id s = .ok payload after →
    ∃ served, s.mappings.active id = .ok served ∧
      s.mappings.Served after.mappings id (served.isOnce = true ∧
        (format = .octets ∨ served.status = 0 ∨ served.status = Mapping.done))

structure WriteConfined (R : Type) [Rational R] (s : Store) (format : PayloadFormat)
    (id : UInt8) (payload : List UInt8) : Prop where
  same : storeInPlace R format id payload s =
    allOrNothing s ((fun after => ((), after)) <$> s.storeValue R format id payload)
  whole : ∀ error after, storeInPlace R format id payload s = .error error after → after = s
  others : s.mappings.ChangedAt (left (storeInPlace R format id payload s)).mappings id
  cell : ∀ after, storeInPlace R format id payload s = .ok () after →
    ∃ served type, s.mappings.active id = .ok served ∧ served.dataType = .ok type ∧
      s.memory.Overwritten after.memory served.valueAddress.toNat type.bytes ∧
      s.mappings.Served after.mappings id (served.isOnce = true)

theorem loadValue_served (done : s.loadValue R format id = .ok (payload, after)) :
    after.memory = s.memory ∧ ∃ served, s.mappings.active id = .ok served ∧
      s.mappings.Served after.mappings id (served.isOnce = true ∧
        (format = .octets ∨ served.status = 0 ∨ served.status = Mapping.done)) := by
  obtain ⟨served, type, read, -, -, rfl⟩ := loadValue_eq_ok.mp done
  refine ⟨rfl, served, read, ?_⟩
  rw [← usedUpByRead_iff]
  exact MappingTable.served_of_active read (usedUpByRead format served)

theorem storeValue_served (done : s.storeValue R format id payload = .ok after) :
    ∃ served type, s.mappings.active id = .ok served ∧ served.dataType = .ok type ∧
      s.memory.Overwritten after.memory served.valueAddress.toNat type.bytes ∧
      s.mappings.Served after.mappings id (served.isOnce = true) := by
  obtain ⟨served, type, memory, read, typed, written, rfl⟩ := storeValue_eq_ok.mp done
  exact ⟨served, type, read, typed, Payload.write_overwritten written,
    MappingTable.served_of_active read served.isOnce⟩

theorem readConfined (R : Type) [Rational R] (s : Store) (format : PayloadFormat) (id : UInt8) :
    ReadConfined R s format id := by
  have same := loadInPlace_eq (R := R) s format id
  have kept := left_allOrNothing s (s.loadValue R format id)
  rw [← same] at kept
  constructor
  case same => exact same
  case whole =>
    intro error after failed
    rw [same] at failed
    exact allOrNothing_error failed
  case memory =>
    rcases kept with kept | ⟨payload, done⟩
    · rw [kept]
    · exact (loadValue_served done).1
  case others =>
    rcases kept with kept | ⟨payload, done⟩
    · rw [kept]
      exact MappingTable.changedAt_refl _ _
    · obtain ⟨-, served, -, slot⟩ := loadValue_served done
      exact slot.others
  case slot =>
    intro payload after done
    rw [same] at done
    exact (loadValue_served (allOrNothing_ok done)).2

theorem storeValue_of_map {a : Unit}
    (done : (fun after => ((), after)) <$> s.storeValue R format id payload = .ok (a, after)) :
    s.storeValue R format id payload = .ok after := by
  cases run : s.storeValue R format id payload with
  | error error =>
    rw [run] at done
    cases done
  | ok last =>
    rw [run] at done
    cases done
    rfl

theorem writeConfined (R : Type) [Rational R] (s : Store) (format : PayloadFormat) (id : UInt8)
    (payload : List UInt8) : WriteConfined R s format id payload := by
  have same := storeInPlace_eq (R := R) s format id payload
  have kept := left_allOrNothing s ((fun after => ((), after)) <$> s.storeValue R format id payload)
  rw [← same] at kept
  constructor
  case same => exact same
  case whole =>
    intro error after failed
    rw [same] at failed
    exact allOrNothing_error failed
  case others =>
    rcases kept with kept | ⟨a, done⟩
    · rw [kept]
      exact MappingTable.changedAt_refl _ _
    · obtain ⟨served, type, -, -, -, slot⟩ := storeValue_served (storeValue_of_map done)
      exact slot.others
  case cell =>
    intro after done
    rw [same] at done
    exact storeValue_served (storeValue_of_map (allOrNothing_ok done))

/-- A transfer that fails leaves the store as it was. One that succeeds changes at most its own
    slot, and a write also its own cell. -/
theorem transfers_confined (R : Type) [Rational R] (s : Store) (format : PayloadFormat) (id : UInt8)
    (payload : List UInt8) : ReadConfined R s format id ∧ WriteConfined R s format id payload :=
  ⟨readConfined R s format id, writeConfined R s format id payload⟩

end Store
end ControlMachine
