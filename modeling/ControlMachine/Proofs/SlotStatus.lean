import ControlMachine.Proofs.SlotChanges

/- The status of a slot as the network reports it and as polls see it. A slot with three addresses
   is active as long as the top bit of its status is clear, so a report may end it and a poll may,
   and nothing else about the slot matters. -/
namespace ControlMachine.Mapping
variable {m : Mapping} {status code mask : UInt8}

theorem or_and_eq_zero (a b mask : UInt8) :
    (a ||| b) &&& mask = 0 ↔ a &&& mask = 0 ∧ b &&& mask = 0 := by
  have spread : (a ||| b) &&& mask = (a &&& mask) ||| (b &&& mask) := by
    apply UInt8.toBitVec_inj.mp
    simp [BitVec.and_or_distrib_right]
  rw [spread, UInt8.or_eq_zero_iff]

theorem reported_ne_zero (status code : UInt8) : status ||| (code ||| done) ≠ 0 := by
  simp [done]

theorem reported_and_eq_zero (apart : done &&& mask = 0) :
    (status ||| (code ||| done)) &&& mask = 0 ↔ status &&& mask = 0 ∧ code &&& mask = 0 := by
  rw [or_and_eq_zero, or_and_eq_zero]
  simp [apart]

theorem eq_done_iff (status : UInt8) : status = done ↔ status ≠ 0 ∧ status &&& 0xFE = 0 := by
  have all : ∀ i : Fin 256,
      UInt8.ofFin i = done ↔ UInt8.ofFin i ≠ 0 ∧ UInt8.ofFin i &&& 0xFE = 0 := by
    decide +kernel
  exact all status.toFin

theorem status_of_active (active : m.isActive = true) : m.status &&& 0x80 = 0 := by
  simp only [isActive, Bool.and_eq_true, beq_iff_eq] at active
  exact active.2

theorem isActive_withStatus (active : m.isActive = true) :
    { m with status := status }.isActive = true ↔ status &&& 0x80 = 0 := by
  simp only [isActive, Bool.and_eq_true, beq_iff_eq] at active ⊢
  simp [active.1]

theorem completed_of_active (active : m.isActive = true) :
    m.completed = { m with status := done } := by
  simp [completed, active]

theorem failed_of_active (active : m.isActive = true) :
    m.failed code = { m with status := m.status ||| (code ||| done) } := by
  simp [failed, active]

theorem poll_of_done (active : m.isActive = true) (single : m.isOnce = true)
    (finished : m.status = done) : m.poll true = (done, unmapped) := by
  simp [poll, active, single, isCleanDone, finished]

theorem poll_of_other (active : m.isActive = true) (other : m.status ≠ done) (release : Bool) :
    m.poll release = (m.status, m) := by
  simp [poll, active, isCleanDone, other]

theorem poll_of_inactive (inactive : m.isActive = false) (release : Bool) :
    m.poll release = (0, m) := by
  simp [poll, inactive]

theorem poll_keeps (active : m.isActive = true) (release : Bool) :
    (m.poll release).2 = m ∨ release = true ∧ m.isOnce = true ∧ m.status = done := by
  by_cases finished : m.status = done
  · cases release with
    | false => simp [poll, active]
    | true =>
      cases single : m.isOnce with
      | false => simp [poll, active, single]
      | true => exact Or.inr ⟨rfl, rfl, finished⟩
  · rw [poll_of_other active finished]
    exact Or.inl rfl

theorem completed_isActive (active : m.isActive = true) : m.completed.isActive = true := by
  rw [completed_of_active active, isActive_withStatus active]
  decide

theorem failed_isActive (active : m.isActive = true) :
    (m.failed code).isActive = true ↔ code &&& 0x80 = 0 := by
  rw [failed_of_active active, isActive_withStatus active, reported_and_eq_zero (by decide)]
  simp [status_of_active active]

end ControlMachine.Mapping

namespace ControlMachine.MappingTable
variable {t : MappingTable} {id : UInt8} {m : Mapping}

theorem check_of_slot (found : t.slot? id = some m) (release : Bool) :
    t.check id release = .ok ((m.poll release).1, t.set id (m.poll release).2) :=
  check_eq_ok.mpr ⟨m, found, rfl, rfl⟩

theorem set_self (found : t.slot? id = some m) : t.set id m = t := by
  obtain ⟨inside, rfl⟩ := List.getElem?_eq_some_iff.mp found
  cases t
  simp only [set, List.set_getElem_self]

end ControlMachine.MappingTable
