import ControlMachine.Network.Payload
import ControlMachine.Number.Fixed
import ControlMachine.Proofs.SlotChanges

/- What becomes of a slot while a transfer for an older mapping in it is under way. At its end the
   transfer gives the slot up if it holds what was served, and it knows what was served by the
   fields only. A slot that was mapped anew in the meantime stays, unless the new mapping is the
   very same one and its status is the same again. -/
namespace ControlMachine

theorem networkFault_eq_ok {α : Type} {x : Except Fault α} {a : α} :
    networkFault x = .ok a ↔ x = .ok a := by
  cases x <;> simp [networkFault]

namespace Mapping
variable {m served : Mapping}

def fresh (m : Mapping) : Mapping := { m with status := 0 }

/-- The slot still holds what was made by a request, whatever its status, or nothing. -/
def MadeBy (request m : Mapping) : Prop := m = unmapped ∨ m.fresh = request.fresh

theorem isActive_unmapped : unmapped.isActive = false := by decide

theorem eq_of_fresh (same : m.fresh = served.fresh) (status : m.status = served.status) :
    m = served := by
  cases m
  cases served
  simp_all [fresh]

theorem consumedBy_iff : m.consumedBy served = true ↔ served.isOnce = true ∧ m = served := by
  simp [consumedBy]

end Mapping

/-- What a program or the network may do to the table. The status in a request counts for nothing. -/
inductive TableStep where
  | map (id : UInt8) (request : Mapping)
  | unmap (id : UInt8)
  | check (id : UInt8) (release : Bool)
  | complete (id : UInt8)
  | fail (id code : UInt8)

namespace TableStep

def id : TableStep → UInt8
  | map id _ | unmap id | check id _ | complete id | fail id _ => id

def change : TableStep → Mapping → Mapping
  | map _ request => fun _ => request.fresh
  | unmap _ => fun _ => .unmapped
  | check _ release => fun m => (m.poll release).2
  | complete _ => Mapping.completed
  | fail _ code => (Mapping.failed · code)

def maps (id : UInt8) : TableStep → Bool
  | map other _ => other == id
  | _ => false

theorem change_madeBy {step : TableStep} {request m : Mapping} (kept : step.maps step.id = false)
    (before : request.MadeBy m) : request.MadeBy (step.change m) := by
  cases step with
  | map id other => simp [maps, TableStep.id] at kept
  | unmap => exact Or.inl rfl
  | check id release =>
    simp only [change, Mapping.poll]
    split
    · split
      · exact Or.inl rfl
      · exact before
    · exact before
  | complete | fail =>
    simp only [change, Mapping.completed, Mapping.failed]
    split
    · rename_i active
      rcases before with rfl | made
      · rw [Mapping.isActive_unmapped] at active
        cases active
      · exact Or.inr made
    · exact before

end TableStep

namespace MappingTable
variable {t after : MappingTable} {id : UInt8} {served request : Mapping}

def attempt (t : MappingTable) : TableStep → Except Fault MappingTable
  | .map id request => t.map id request.selector request.options request.valueAddress request.port
      request.urlAddress request.resourceAddress
  | .unmap id => t.unmap id
  | .check id release => Prod.snd <$> t.check id release
  | .complete id => t.complete id
  | .fail id code => t.fail id code

/-- A step on a slot that does not exist changes nothing. -/
def take (t : MappingTable) (step : TableStep) : MappingTable :=
  match t.attempt step with
  | .ok after => after
  | .error _ => t

theorem attempt_eq_update (t : MappingTable) (step : TableStep) :
    t.attempt step = t.update step.id step.change := by
  cases step with
  | check id release =>
    simp only [attempt, check, update, TableStep.id, TableStep.change]
    cases t.slot id <;> rfl
  | _ => rfl

theorem slot?_take_self (t : MappingTable) (step : TableStep) :
    (t.take step).slot? step.id = (t.slot? step.id).map step.change := by
  unfold take
  rw [attempt_eq_update]
  cases found : t.slot? step.id with
  | none =>
    have missing : t.update step.id step.change = .error (.idUnavailable .mapping step.id) := by
      simp [update, slot, found, bind, Except.bind]
    rw [missing]
    exact found
  | some m =>
    rw [update_eq_ok.mpr ⟨m, found, rfl⟩]
    exact slot?_set_self found _

theorem slot?_take_other (t : MappingTable) {step : TableStep} (differs : id ≠ step.id) :
    (t.take step).slot? id = t.slot? id := by
  unfold take
  cases done : t.attempt step with
  | error fault => rfl
  | ok after =>
    rw [attempt_eq_update] at done
    exact (update_changedAt done).others id differs

theorem slot?_take_some (step : TableStep) {m : Mapping} (found : t.slot? id = some m) :
    ∃ now, (t.take step).slot? id = some now := by
  by_cases same : id = step.id
  · subst same
    rw [slot?_take_self, found]
    exact ⟨_, rfl⟩
  · rw [slot?_take_other t same]
    exact ⟨m, found⟩

theorem slot?_foldl_some (steps : List TableStep) {m : Mapping} (found : t.slot? id = some m) :
    ∃ now, (steps.foldl take t).slot? id = some now := by
  induction steps generalizing t m with
  | nil => exact ⟨m, found⟩
  | cons step steps ih =>
    obtain ⟨next, there⟩ := slot?_take_some step found
    exact ih there

theorem take_madeBy {step : TableStep} (kept : step.maps id = false) {m : Mapping}
    (found : t.slot? id = some m) (made : request.MadeBy m) :
    ∃ now, (t.take step).slot? id = some now ∧ request.MadeBy now := by
  by_cases same : id = step.id
  · subst same
    rw [slot?_take_self, found]
    exact ⟨_, rfl, TableStep.change_madeBy kept made⟩
  · rw [slot?_take_other t same]
    exact ⟨m, found, made⟩

theorem foldl_madeBy {steps : List TableStep} (kept : ∀ step ∈ steps, step.maps id = false)
    {m : Mapping} (found : t.slot? id = some m) (made : request.MadeBy m) :
    ∃ now, (steps.foldl take t).slot? id = some now ∧ request.MadeBy now := by
  induction steps generalizing t m with
  | nil => exact ⟨m, found, made⟩
  | cons step steps ih =>
    obtain ⟨next, there, still⟩ := take_madeBy (kept step (by simp)) found made
    exact ih (fun later among => kept later (by simp [among])) there still

theorem active_eq_ok : t.active id = .ok served ↔ t.slot? id = some served ∧ served.isActive = true := by
  unfold active
  cases t.slot? id with
  | none => simp
  | some m =>
    simp only [Option.some.injEq]
    split
    · rename_i activated
      simp only [Except.ok.injEq]
      grind
    · grind

/-- Steps led from one table to the other, and the last of them that mapped the slot had this
    request. -/
def Remapped (before t : MappingTable) (id : UInt8) (request : Mapping) : Prop :=
  ∃ earlier later, t = (earlier ++ .map id request :: later).foldl take before ∧
    ∀ step ∈ later, TableStep.maps id step = false

theorem remapped_slot {before : MappingTable} (read : before.active id = .ok served)
    (remapped : Remapped before t id request) :
    ∃ now, t.slot? id = some now ∧ request.MadeBy now := by
  obtain ⟨earlier, later, rfl, kept⟩ := remapped
  obtain ⟨older, found⟩ := slot?_foldl_some earlier (active_eq_ok.mp read).1
  have made : ((earlier.foldl take before).take (.map id request)).slot? id = some request.fresh := by
    have mapped := slot?_take_self (earlier.foldl take before) (.map id request)
    rw [TableStep.id, found] at mapped
    exact mapped
  rw [List.foldl_append, List.foldl_cons]
  exact foldl_madeBy kept made (Or.inr rfl)

/-- How a transfer of `served` ends in a table where its slot was mapped anew. -/
structure Ending (t after : MappingTable) (id : UInt8) (served request : Mapping)
    (dropped : Bool) : Prop where
  kept : dropped = false → after = t
  lost : dropped = true → after.slot? id = some .unmapped
  others : t.ChangedAt after id
  repeated : dropped = true ↔ served.isOnce = true ∧ request.fresh = served.fresh ∧
    ∃ now, t.slot? id = some now ∧ now.status = served.status

theorem consumeOnce_eq_ok {dropped : Bool} :
    t.consumeOnce id served = .ok (dropped, after) ↔
      ∃ now, t.slot? id = some now ∧ dropped = now.consumedBy served ∧
        after = if now.consumedBy served then t.set id .unmapped else t := by
  simp only [consumeOnce, except_bind_eq_ok, slot_eq_ok]
  constructor
  · rintro ⟨now, found, done⟩
    refine ⟨now, found, ?_⟩
    split at done <;> cases except_pure_eq_ok.mp done <;> simp_all
  · rintro ⟨now, found, rfl, rfl⟩
    refine ⟨now, found, ?_⟩
    split <;> simp_all [except_pure_eq_ok]

theorem consumeOnce_ending {now : Mapping} (active : served.isActive = true)
    (found : t.slot? id = some now) (made : request.MadeBy now) :
    ∃ dropped after, t.consumeOnce id served = .ok (dropped, after) ∧
      Ending t after id served request dropped := by
  refine ⟨_, _, consumeOnce_eq_ok.mpr ⟨now, found, rfl, rfl⟩, ?_⟩
  cases dropped : now.consumedBy served with
  | true =>
    obtain ⟨once, rfl⟩ := Mapping.consumedBy_iff.mp dropped
    have repeated : request.fresh = now.fresh := by
      rcases made with rfl | same
      · rw [Mapping.isActive_unmapped] at active
        cases active
      · exact same.symm
    constructor
    case kept =>
      intro no
      cases no
    case lost => exact fun _ => slot?_set_self found .unmapped
    case others => exact changedAt_set t id .unmapped
    case repeated => exact ⟨fun _ => ⟨once, repeated, now, found, rfl⟩, fun _ => rfl⟩
  | false =>
    constructor
    case kept => exact fun _ => rfl
    case lost =>
      intro no
      cases no
    case others => exact changedAt_refl t id
    case repeated =>
      constructor
      · intro no
        cases no
      · rintro ⟨once, repeated, other, same, status⟩
        rw [found] at same
        cases same
        have again : now = served := by
          rcases made with rfl | fresh
          · -- an empty slot has the status of no active one
            simp [Mapping.isActive, ← status, Mapping.unmapped] at active
          · exact Mapping.eq_of_fresh (fresh.trans repeated) status
        rw [Mapping.consumedBy_iff.mpr ⟨once, again⟩] at dropped
        cases dropped

theorem consumeOnce_remapped {before : MappingTable} (read : before.active id = .ok served)
    (remapped : Remapped before t id request) :
    ∃ dropped after, t.consumeOnce id served = .ok (dropped, after) ∧
      Ending t after id served request dropped := by
  obtain ⟨now, found, made⟩ := remapped_slot read remapped
  exact consumeOnce_ending (active_eq_ok.mp read).2 found made

end MappingTable

namespace Store
variable {R : Type} [Rational R] {s after : Store} {format : PayloadFormat} {id : UInt8}
  {served request : Mapping} {payload : List UInt8}

def finishLoad (R : Type) [Rational R] (s : Store) (format : PayloadFormat) (id : UInt8)
    (served : Mapping) : Except NetworkError (List UInt8 × Store) := do
  let type ← served.dataType
  let payload ← networkFault (Payload.read R s.memory format type served.valueAddress)
  if usedUpByRead format served then
    let (_, mappings) ← networkFault (s.mappings.consumeOnce id served)
    return (payload, { s with mappings := mappings })
  else return (payload, s)

def finishStore (R : Type) [Rational R] (s : Store) (format : PayloadFormat) (id : UInt8)
    (payload : List UInt8) (served : Mapping) : Except NetworkError Store := do
  let type ← served.dataType
  let memory ← Payload.write R s.memory format type served.valueAddress payload
  let (_, mappings) ← networkFault (s.mappings.consumeOnce id served)
  return ⟨memory, mappings⟩

theorem loadValue_eq (s : Store) (format : PayloadFormat) (id : UInt8) :
    s.loadValue R format id = (do s.finishLoad R format id (← s.mappings.active id)) := rfl

theorem storeValue_eq (s : Store) (format : PayloadFormat) (id : UInt8) (payload : List UInt8) :
    s.storeValue R format id payload =
      (do s.finishStore R format id payload (← s.mappings.active id)) := rfl

variable {before : MappingTable}

theorem finishLoad_mappings (done : s.finishLoad R format id served = .ok (payload, after)) :
    after.mappings = s.mappings ∨
      ∃ dropped, s.mappings.consumeOnce id served = .ok (dropped, after.mappings) := by
  obtain ⟨type, -, rest⟩ := except_bind_eq_ok.mp done
  obtain ⟨found, -, rest⟩ := except_bind_eq_ok.mp rest
  split at rest
  · obtain ⟨⟨dropped, mappings⟩, consumed, same⟩ := except_bind_eq_ok.mp rest
    cases except_pure_eq_ok.mp same
    exact Or.inr ⟨dropped, networkFault_eq_ok.mp consumed⟩
  · cases except_pure_eq_ok.mp rest
    exact Or.inl rfl

theorem finishStore_mappings (done : s.finishStore R format id payload served = .ok after) :
    ∃ dropped, s.mappings.consumeOnce id served = .ok (dropped, after.mappings) := by
  obtain ⟨type, -, rest⟩ := except_bind_eq_ok.mp done
  obtain ⟨memory, -, rest⟩ := except_bind_eq_ok.mp rest
  obtain ⟨⟨dropped, mappings⟩, consumed, same⟩ := except_bind_eq_ok.mp rest
  cases except_pure_eq_ok.mp same
  exact ⟨dropped, networkFault_eq_ok.mp consumed⟩

theorem mappings_after_transfer (read : before.active id = .ok served)
    (remapped : before.Remapped s.mappings id request) {dropped : Bool}
    (consumed : s.mappings.consumeOnce id served = .ok (dropped, after.mappings)) :
    after.mappings = s.mappings ∨
      MappingTable.Ending s.mappings after.mappings id served request true := by
  obtain ⟨_, _, done, ending⟩ := MappingTable.consumeOnce_remapped read remapped
  rw [consumed] at done
  cases done
  cases dropped with
  | true => exact Or.inr ending
  | false => exact Or.inl (ending.kept rfl)

/-- A transfer that ends in the table leaves all mappings alone, or it gives up a slot with the served
    mapping made over again. -/
structure Finishes (R : Type) [Rational R] (t : MappingTable) (id : UInt8)
    (served request : Mapping) : Prop where
  load : ∀ (s after : Store) (format : PayloadFormat) (payload : List UInt8), s.mappings = t →
    s.finishLoad R format id served = .ok (payload, after) →
      after.mappings = t ∨ MappingTable.Ending t after.mappings id served request true
  store : ∀ (s after : Store) (format : PayloadFormat) (payload : List UInt8), s.mappings = t →
    s.finishStore R format id payload served = .ok after →
      after.mappings = t ∨ MappingTable.Ending t after.mappings id served request true

theorem finishes_after_map {t : MappingTable} (read : before.active id = .ok served)
    (remapped : before.Remapped t id request) : Finishes R t id served request := by
  constructor
  case load =>
    rintro s after format payload rfl done
    rcases finishLoad_mappings done with same | ⟨dropped, consumed⟩
    · exact Or.inl same
    · exact mappings_after_transfer read remapped consumed
  case store =>
    rintro s after format payload rfl done
    obtain ⟨dropped, consumed⟩ := finishStore_mappings done
    exact mappings_after_transfer read remapped consumed

end Store

namespace MappingTable

/-- A transfer that read its slot before the last map of it gives the slot up only if that map was
    the served one over again, for one transfer, and the status is back at what was read. -/
theorem consumeOnce_after_map (R : Type) [Rational R] (before t : MappingTable) (id : UInt8)
    (served request : Mapping) (read : before.active id = .ok served)
    (remapped : Remapped before t id request) :
    (∃ dropped after, t.consumeOnce id served = .ok (dropped, after) ∧
      Ending t after id served request dropped) ∧ Store.Finishes R t id served request := by
  constructor
  · exact consumeOnce_remapped read remapped
  · exact Store.finishes_after_map read remapped

def offered : Mapping := ⟨4, 0, 112, 256, 288, 5683, 0⟩

def offering : MappingTable := (ofSize 4).take (.map 3 offered)

def offeringNext : MappingTable :=
  [.unmap 3, .map 3 { offered with valueAddress := 116 }, .check 3 true].foldl take offering

theorem consumeOnce_after_map_next :
    offering.active 3 = .ok offered ∧
      Remapped offering offeringNext 3 { offered with valueAddress := 116 } ∧
      ∃ after, offeringNext.consumeOnce 3 offered = .ok (false, after) ∧ after = offeringNext := by
  have read : offering.active 3 = .ok offered := by rfl
  have remapped : Remapped offering offeringNext 3 { offered with valueAddress := 116 } :=
    ⟨[.unmap 3], [.check 3 true], rfl, by simp [TableStep.maps]⟩
  obtain ⟨⟨dropped, after, done, ending⟩, -⟩ :=
    consumeOnce_after_map Fixed _ _ _ _ _ read remapped
  have kept : dropped = false := by
    rw [← Bool.not_eq_true, ending.repeated]
    rintro ⟨-, same, -⟩
    exact absurd same (by decide)
  subst kept
  exact ⟨read, remapped, after, done, ending.kept rfl⟩

def offeringAgain : MappingTable := [.unmap 3, .map 3 offered].foldl take offering

/-- The transfer of the first offer ends the second one. -/
theorem second_offer_lost :
    offering.active 3 = .ok offered ∧ Remapped offering offeringAgain 3 offered ∧
      offeringAgain.slot? 3 = some offered ∧
      ∃ after, offeringAgain.consumeOnce 3 offered = .ok (true, after) ∧
        after.slot? 3 = some .unmapped := by
  have remapped : Remapped offering offeringAgain 3 offered := ⟨[.unmap 3], [], rfl, by simp⟩
  exact ⟨by rfl, remapped, by rfl, _, by rfl, by rfl⟩

end MappingTable
end ControlMachine
