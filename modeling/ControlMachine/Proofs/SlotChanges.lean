import ControlMachine.Pid.Bank
import ControlMachine.Proofs.ControllerOperations

/- Slots of the mapping table and controllers of the bank, one at a time. An operation on one id
   leaves all other ids as they were, and creates or drops none. -/
namespace ControlMachine

theorem except_pure_eq_ok {ε α : Type} {a b : α} : (pure a : Except ε α) = .ok b ↔ b = a := by
  simp [pure, Except.pure, eq_comm]

namespace MappingTable
variable {t after : MappingTable} {id : UInt8} {mapping : Mapping} {f : Mapping → Mapping}

theorem slot_eq_ok : t.slot id = .ok mapping ↔ t.slot? id = some mapping := by
  unfold slot
  cases t.slot? id <;> simp

theorem update_eq_ok :
    t.update id f = .ok after ↔ ∃ mapping, t.slot? id = some mapping ∧ after = t.set id (f mapping) := by
  simp only [update, except_bind_eq_ok, slot_eq_ok, except_pure_eq_ok]

theorem check_eq_ok {release : Bool} {status : UInt8} :
    t.check id release = .ok (status, after) ↔
      ∃ mapping, t.slot? id = some mapping ∧ status = (mapping.poll release).1 ∧
        after = t.set id (mapping.poll release).2 := by
  simp only [check, except_bind_eq_ok, slot_eq_ok, except_pure_eq_ok, Prod.mk.injEq]

theorem slot?_set_self (found : t.slot? id = some mapping) (new : Mapping) :
    (t.set id new).slot? id = some new := by
  have inside := (List.getElem?_eq_some_iff.mp found).1
  simp [slot?, set, inside]

theorem slot?_set_other {other : UInt8} (differs : other ≠ id) (new : Mapping) :
    (t.set id new).slot? other = t.slot? other := by
  have apart : id.toNat ≠ other.toNat := by
    intro same
    exact differs (UInt8.toNat_inj.mp same).symm
  simp [slot?, set, apart]

structure ChangedAt (t after : MappingTable) (id : UInt8) : Prop where
  count : after.slots.length = t.slots.length
  others : ∀ other, other ≠ id → after.slot? other = t.slot? other

theorem changedAt_refl (t : MappingTable) (id : UInt8) : ChangedAt t t id :=
  ⟨rfl, fun _ _ => rfl⟩

theorem changedAt_set (t : MappingTable) (id : UInt8) (new : Mapping) :
    ChangedAt t (t.set id new) id := by
  constructor
  · exact List.length_set
  · intro other differs
    exact slot?_set_other differs new

theorem update_changedAt (done : t.update id f = .ok after) : ChangedAt t after id := by
  obtain ⟨mapping, -, rfl⟩ := update_eq_ok.mp done
  exact changedAt_set t id (f mapping)

theorem check_changedAt {release : Bool} {status : UInt8}
    (done : t.check id release = .ok (status, after)) : ChangedAt t after id := by
  obtain ⟨mapping, -, -, rfl⟩ := check_eq_ok.mp done
  exact changedAt_set t id _

end MappingTable

namespace Bank
variable {R : Type} {b after : Bank R} {id : UInt8} {c : Controller R}

theorem controller_eq_ok : b.controller id = .ok c ↔ b.controllers[id.toNat]? = some c := by
  unfold controller
  cases b.controllers[id.toNat]? <;> simp

theorem eq_of_controllers {other : Bank R} (same : b.controllers = other.controllers) :
    b = other := by
  cases b
  cases other
  simpa using same

theorem set_controller (found : b.controller id = .ok c) : b.set id c = b := by
  obtain ⟨inside, rfl⟩ := List.getElem?_eq_some_iff.mp (controller_eq_ok.mp found)
  exact eq_of_controllers (List.set_getElem_self inside)

theorem controller_set_other {other : UInt8} (differs : other ≠ id) (c : Controller R) :
    (b.set id c).controller other = b.controller other := by
  have apart : id.toNat ≠ other.toNat := by
    intro same
    exact differs (UInt8.toNat_inj.mp same).symm
  simp [controller, set, apart]

structure ChangedAt (b after : Bank R) (id : UInt8) : Prop where
  count : after.count = b.count
  others : ∀ other, other ≠ id → after.controller other = b.controller other

theorem changedAt_refl (b : Bank R) (id : UInt8) : ChangedAt b b id :=
  ⟨rfl, fun _ _ => rfl⟩

theorem changedAt_set (b : Bank R) (id : UInt8) (c : Controller R) :
    ChangedAt b (b.set id c) id := by
  constructor
  · exact List.length_set
  · intro other differs
    exact controller_set_other differs c

theorem update_eq_ok {f : Controller R → Controller R} :
    b.update id f = .ok after ↔ ∃ c, b.controller id = .ok c ∧ after = b.set id (f c) := by
  simp only [update, except_bind_eq_ok, except_pure_eq_ok]

variable [Rational R]

/-- An initialization that is refused leaves nothing behind: the limits on its way are set in manual
    mode, where that cannot fail. -/
theorem init_eq (b : Bank R) (id : UInt8) (store : Store) (settings : PidSettings R)
    (now : UInt64) :
    b.init id store settings now = match b.controller id with
      | .error fault => .error fault (b, store.memory)
      | .ok c =>
        if c.initialized then .error (.pidAlreadyInitialized c.id) (b, store.memory)
        else .ok () (b.set id (c.tiedTo settings now store.mappings), store.memory) := by
  unfold init
  cases found : b.controller id with
  | error fault => rfl
  | ok c =>
    dsimp only
    rw [Controller.init_eq]
    cases c.initialized with
    | true =>
      rw [if_pos rfl, if_pos rfl, Outcome.mapState]
      dsimp only
      rw [set_controller found]
    | false => rfl

theorem init_ok {store : Store} {settings : PidSettings R} {now : UInt64}
    {both : Bank R × Memory} (done : b.init id store settings now = .ok () both) :
    ∃ c, b.controller id = .ok c ∧ c.initialized = false ∧
      both = (b.set id (c.tiedTo settings now store.mappings), store.memory) := by
  rw [init_eq] at done
  split at done
  · cases done
  · rename_i c found
    split at done
    · cases done
    · rename_i cleared
      cases done
      exact ⟨c, found, by simpa using cleared, rfl⟩

theorem init_error {store : Store} {settings : PidSettings R} {now : UInt64} {fault : Fault}
    {both : Bank R × Memory} (failed : b.init id store settings now = .error fault both) :
    both = (b, store.memory) := by
  rw [init_eq] at failed
  split at failed
  · cases failed
    rfl
  · split at failed
    · cases failed
      rfl
    · cases failed

theorem setMode_eq_ok {memory : Memory} {mode : Mode} :
    b.setMode id memory mode = .ok () after ↔
      ∃ c turned, b.controller id = .ok c ∧ c.setMode memory mode = .ok () turned ∧
        after = b.set id turned := by
  unfold setMode
  cases b.controller id with
  | error fault => simp
  | ok c =>
    simp only [Except.ok.injEq, exists_and_left, exists_eq_left']
    cases c.setMode memory mode with
    | error fault kept => simp [Outcome.mapState]
    | ok u turned => simp [Outcome.mapState, eq_comm]

end Bank
end ControlMachine
