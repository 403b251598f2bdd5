import ControlMachine.Machine.Run
import ControlMachine.Proofs.FieldReading
import ControlMachine.Proofs.SlotChanges

/- What an instruction may change, by its opcode, when it succeeds and when it faults. All that is
   said about single steps and about runs starts from here. -/
namespace ControlMachine.Machine
variable {R : Type} {m after : Machine R} {next : UInt16} {fault : Fault}

def changing {α : Type} (m : Machine R) (put : α → Machine R) (act : Fetch α) :
    Outcome (Machine R) UInt16 :=
  match act (m.pc + 1) with
  | .ok a next => .ok next (put a)
  | .error fault _ => .error fault m

theorem changing_ok {α : Type} {put : α → Machine R} {act : Fetch α}
    (done : m.changing put act = .ok next after) :
    ∃ a, act (m.pc + 1) = .ok a next ∧ after = put a := by
  unfold changing at done
  cases run : act (m.pc + 1) with
  | error fault last => simp [run] at done
  | ok a last =>
    simp only [run, EStateM.Result.ok.injEq] at done
    exact ⟨a, by rw [done.1], done.2.symm⟩

theorem changing_error {α : Type} {put : α → Machine R} {act : Fetch α}
    (failed : m.changing put act = .error fault after) : after = m := by
  unfold changing at failed
  cases run : act (m.pc + 1) with
  | error reason last =>
    simp only [run, EStateM.Result.error.injEq] at failed
    exact failed.2.symm
  | ok a last => simp [run] at failed

theorem changingMemory_eq (m : Machine R) (act : Fetch Memory) :
    m.changingMemory act = m.changing m.withMemory act := by
  unfold changingMemory changing
  cases act (m.pc + 1) <;> rfl

theorem changingMappings_eq (m : Machine R) (act : Fetch MappingTable) :
    m.changingMappings act = m.changing m.withMappings act := by
  unfold changingMappings changing
  cases act (m.pc + 1) <;> rfl

theorem changingBank_eq (m : Machine R) (act : Fetch (Bank R)) :
    m.changingBank act = m.changing (fun bank => { m with bank := bank }) act := by
  unfold changingBank changing
  cases act (m.pc + 1) <;> rfl

theorem changingMemory_ok {act : Fetch Memory} (done : m.changingMemory act = .ok next after) :
    ∃ memory, act (m.pc + 1) = .ok memory next ∧ after = m.withMemory memory := by
  rw [changingMemory_eq] at done
  exact changing_ok done

theorem changingMappings_ok {act : Fetch MappingTable}
    (done : m.changingMappings act = .ok next after) :
    ∃ mappings, act (m.pc + 1) = .ok mappings next ∧ after = m.withMappings mappings := by
  rw [changingMappings_eq] at done
  exact changing_ok done

theorem changingBank_ok {act : Fetch (Bank R)} (done : m.changingBank act = .ok next after) :
    ∃ bank, act (m.pc + 1) = .ok bank next ∧ after = { m with bank := bank } := by
  rw [changingBank_eq] at done
  exact changing_ok done

theorem changingMemory_error {act : Fetch Memory}
    (failed : m.changingMemory act = .error fault after) : after = m := by
  rw [changingMemory_eq] at failed
  exact changing_error failed

theorem changingMappings_error {act : Fetch MappingTable}
    (failed : m.changingMappings act = .error fault after) : after = m := by
  rw [changingMappings_eq] at failed
  exact changing_error failed

theorem changingBank_error {act : Fetch (Bank R)}
    (failed : m.changingBank act = .error fault after) : after = m := by
  rw [changingBank_eq] at failed
  exact changing_error failed

theorem branching_ok {act : Fetch (UInt16 × CallStack)}
    (done : m.branching act = .ok next after) :
    ∃ stack last, act (m.pc + 1) = .ok (next, stack) last ∧ after = { m with stack := stack } := by
  unfold branching at done
  cases run : act (m.pc + 1) with
  | error fault last => simp [run] at done
  | ok target last =>
    simp only [run, EStateM.Result.ok.injEq] at done
    exact ⟨target.2, last, by rw [← done.1], done.2.symm⟩

theorem branching_error {act : Fetch (UInt16 × CallStack)}
    (failed : m.branching act = .error fault after) : after = m := by
  unfold branching at failed
  split at failed <;> simp_all

theorem branching_same {act : Fetch (UInt16 × CallStack)}
    (same : ∀ pc target stack last, act pc = .ok (target, stack) last → stack = m.stack)
    (done : m.branching act = .ok next after) : after = m := by
  obtain ⟨stack, last, run, rfl⟩ := branching_ok done
  rw [same _ _ _ _ run]

def Effect (op : Opcode) (m after : Machine R) : Prop :=
  match op with
  | .halt => after = { m with flags := { m.flags with halted := true } }
  | .arithmetic _ | .bitwise _ | .not | .load | .multiload | .copy | .time =>
    ∃ memory, after = m.withMemory memory
  | .jump | .compare | .compareTime => after = m
  | .call | .ret => ∃ stack, after = { m with stack := stack }
  | .urlMap | .urlMapDelete => ∃ mappings, after = m.withMappings mappings
  | .urlMapCheck => ∃ mappings memory, after = (m.withMappings mappings).withMemory memory
  | .pidInit | .pidClear | .pidStop | .pidRun => ∃ bank, after = { m with bank := bank }
  | .push | .pop | .reset => False

/-- What an instruction that faults may have changed. Most leave all as it was. -/
def Residue (op : Opcode) (m after : Machine R) : Prop :=
  match op with
  | .multiload => ∃ memory, after = m.withMemory memory
  | .urlMapCheck => ∃ mappings, after = m.withMappings mappings
  | .pidRun => ∃ bank, after = { m with bank := bank }
  | .reset => after = { m with
      store := m.store.clear, stack := m.stack.clear, bank := m.bank.clearAll }
  | _ => after = m

def pollHeader (m : Machine R) : Fetch (UInt8 × UInt16) := do
  let s ← Fetch.selector m.code
  return (s.id, ← Fetch.address m.code)

theorem checkMapping_ok (done : m.checkMapping = .ok next after) :
    ∃ id dest status mappings memory, m.pollHeader (m.pc + 1) = .ok (id, dest) next ∧
      m.store.mappings.check id true = .ok (status, mappings) ∧
      m.memory.store dest status = .ok memory ∧
      after = (m.withMappings mappings).withMemory memory := by
  unfold checkMapping at done
  dsimp only at done
  split at done
  · cases done
  · rename_i id dest last header
    split at done
    · cases done
    · rename_i status mappings polled
      split at done
      · cases done
      · rename_i memory stored
        cases done
        exact ⟨id, dest, status, mappings, memory, header, polled, stored, rfl⟩

/-- A poll that cannot store its status has changed the slot it polled by then. -/
theorem checkMapping_error (failed : m.checkMapping = .error fault after) :
    after = m ∨ ∃ id status mappings, m.store.mappings.check id true = .ok (status, mappings) ∧
      after = m.withMappings mappings := by
  unfold checkMapping at failed
  dsimp only at failed
  split at failed
  · cases failed
    exact Or.inl rfl
  · rename_i id dest last header
    split at failed
    · cases failed
      exact Or.inl rfl
    · rename_i status mappings polled
      split at failed
      · cases failed
        exact Or.inr ⟨id, status, mappings, polled, rfl⟩
      · cases failed

theorem checkMapping_residue (failed : m.checkMapping = .error fault after) :
    ∃ mappings, after = m.withMappings mappings := by
  rcases checkMapping_error failed with rfl | ⟨id, status, mappings, -, rfl⟩
  · exact ⟨after.store.mappings, rfl⟩
  · exact ⟨mappings, rfl⟩

variable [Rational R] {clock : Clock} {op : Opcode}

/-- What stands before the elements: their selector and type, the first cell and their number. -/
def elementsHeader (m : Machine R) : Fetch (Selector × DataType × UInt16 × UInt8) := do
  let s ← Fetch.selector m.code
  let type ← Fetch.lift (Opcode.multiload.dataType s)
  let dest ← Fetch.address m.code
  return (s, type, dest, ← Fetch.byte m.code)

theorem multiload_ok (done : m.multiload = .ok next after) :
    ∃ s type dest count pc memory,
      m.elementsHeader (m.pc + 1) = .ok (s, type, dest, count) pc ∧
      storeElements R type s count.toNat dest.toNat m.memory pc = .ok () (memory, next) ∧
      after = m.withMemory memory := by
  unfold multiload at done
  dsimp only at done
  split at done
  · cases done
  · rename_i s type dest count pc header
    split at done
    · rename_i memory last stored
      cases done
      exact ⟨s, type, dest, count, pc, memory, header, stored, rfl⟩
    · cases done

theorem multiload_error (failed : m.multiload = .error fault after) :
    (after = m ∧ ∃ last, m.elementsHeader (m.pc + 1) = .error fault last) ∨
      ∃ s type dest count pc memory last,
        m.elementsHeader (m.pc + 1) = .ok (s, type, dest, count) pc ∧
        storeElements R type s count.toNat dest.toNat m.memory pc = .error fault (memory, last) ∧
        after = m.withMemory memory := by
  unfold multiload at failed
  dsimp only at failed
  split at failed
  · rename_i reason last header
    cases failed
    exact Or.inl ⟨rfl, last, header⟩
  · rename_i s type dest count pc header
    split at failed
    · cases failed
    · rename_i reason memory last stored
      cases failed
      exact Or.inr ⟨s, type, dest, count, pc, memory, last, header, stored, rfl⟩

theorem changeMode_ok {mode : Mode} (done : m.changeMode mode = .ok next after) :
    ∃ s bank, Fetch.selector m.code (m.pc + 1) = .ok s next ∧
      m.bank.setMode s.id m.memory mode = .ok () bank ∧ after = { m with bank := bank } := by
  unfold changeMode at done
  split at done
  · cases done
  · rename_i s last read
    split at done
    · rename_i bank set
      cases done
      exact ⟨s, bank, read, set, rfl⟩
    · cases done

theorem initController_ok (done : m.initController clock = .ok next after) :
    ∃ id settings c, m.initHeader (m.pc + 1) = .ok (id, settings) next ∧
      m.bank.controller id = .ok c ∧ c.initialized = false ∧ after = { m with
        bank := m.bank.set id (c.tiedTo settings clock.millis m.store.mappings) } := by
  unfold initController at done
  split at done
  · cases done
  · rename_i id settings last header
    split at done
    · rename_i bank memory tied
      obtain ⟨c, found, cleared, same⟩ := Bank.init_ok tied
      cases same
      cases done
      exact ⟨id, settings, c, header, found, cleared, rfl⟩
    · cases done

theorem initController_error (failed : m.initController clock = .error fault after) :
    after = m := by
  unfold initController at failed
  split at failed
  · cases failed
    rfl
  · split at failed
    · cases failed
    · rename_i refused
      cases Bank.init_error refused
      cases failed
      rfl

theorem call_ok (done : m.execute clock .call = .ok next after) :
    ∃ back, Fetch.address m.code (m.pc + 1) = .ok next back ∧
      m.stack.push back = .ok after.stack := by
  obtain ⟨stack, stop, run, rfl⟩ := branching_ok done
  obtain ⟨target, back, read, rest⟩ := Fetch.bind_eq_ok.mp run
  obtain ⟨here, middle, found, rest⟩ := Fetch.bind_eq_ok.mp rest
  obtain ⟨rfl, rfl⟩ := Fetch.get_eq_ok.mp found
  obtain ⟨pushed, finish, push, same⟩ := Fetch.bind_eq_ok.mp rest
  obtain ⟨⟨⟩, -⟩ := Fetch.pure_eq_ok.mp same
  exact ⟨back, read, (Fetch.lift_eq_ok.mp push).1⟩

theorem ret_ok (done : m.execute clock .ret = .ok next after) :
    m.stack.pop = .ok (next, after.stack) := by
  obtain ⟨stack, stop, run, rfl⟩ := branching_ok done
  exact (Fetch.lift_eq_ok.mp run).1

/-- The controller that the selector after the opcode names, under its id. -/
def addressed? (m : Machine R) : Option (UInt8 × Controller R) :=
  match Fetch.selector m.code (m.pc + 1) with
  | .error _ _ => none
  | .ok s _ =>
    match m.bank.controller s.id with
    | .error _ => none
    | .ok c => some (s.id, c)

theorem changeMode_error {mode : Mode} (failed : m.changeMode mode = .error fault after) :
    (m.addressed? = none → after = m) ∧
      ∀ id c, m.addressed? = some (id, c) → mode = .automatic ∧ c.mode = .manual ∧
        ∃ integral, after = { m with bank := m.bank.set id { c with integral := integral } } := by
  unfold changeMode at failed
  cases read : Fetch.selector m.code (m.pc + 1) with
  | error reason last =>
    simp only [read] at failed
    cases failed
    simp [addressed?, read]
  | ok s last =>
    simp only [read, Bank.setMode] at failed
    cases found : m.bank.controller s.id with
    | error reason =>
      simp only [found] at failed
      cases failed
      simp [addressed?, read, found]
    | ok c =>
      have addressed : m.addressed? = some (s.id, c) := by simp [addressed?, read, found]
      simp only [found] at failed
      cases set : c.setMode m.memory mode with
      | ok u seeded => simp [set, Outcome.mapState] at failed
      | error reason kept =>
        obtain ⟨automatic, manual, integral, rfl⟩ := Controller.setMode_error set
        simp only [set, Outcome.mapState] at failed
        cases failed
        rw [addressed]
        refine ⟨by simp, ?_⟩
        intro id d same
        cases same
        exact ⟨automatic, manual, integral, rfl⟩

theorem stop_error (failed : m.changeMode .manual = .error fault after) : after = m := by
  obtain ⟨none, some⟩ := changeMode_error failed
  cases found : m.addressed? with
  | none => exact none found
  | some pair => exact absurd (some pair.1 pair.2 found).1 (by decide)

theorem run_error (failed : m.changeMode .automatic = .error fault after) :
    ∃ bank, after = { m with bank := bank } := by
  obtain ⟨none, some⟩ := changeMode_error failed
  cases found : m.addressed? with
  | none => exact ⟨m.bank, none found⟩
  | some pair =>
    obtain ⟨-, -, integral, left⟩ := some pair.1 pair.2 found
    exact ⟨_, left⟩

theorem execute_effect (done : m.execute clock op = .ok next after) : m.Effect op after := by
  cases op with
  | halt =>
    cases done
    rfl
  | arithmetic | bitwise | not | load | copy | time =>
    obtain ⟨memory, -, same⟩ := changingMemory_ok done
    exact ⟨memory, same⟩
  | multiload =>
    obtain ⟨_, _, _, _, _, memory, -, -, same⟩ := multiload_ok done
    exact ⟨memory, same⟩
  | push | pop | reset => cases done
  | jump | compare | compareTime =>
    -- the reads leave the stack alone, and it is handed on as it was
    refine branching_same ?_ done
    simp only [Fetch.bind_eq_ok, Fetch.pure_eq_ok]
    grind
  | call | ret =>
    obtain ⟨stack, -, -, same⟩ := branching_ok done
    exact ⟨stack, same⟩
  | urlMap | urlMapDelete =>
    obtain ⟨mappings, -, same⟩ := changingMappings_ok done
    exact ⟨mappings, same⟩
  | urlMapCheck =>
    obtain ⟨_, _, _, mappings, memory, -, -, -, same⟩ := checkMapping_ok done
    exact ⟨mappings, memory, same⟩
  | pidInit =>
    obtain ⟨_, _, _, -, -, -, same⟩ := initController_ok done
    exact ⟨_, same⟩
  | pidClear =>
    obtain ⟨bank, -, same⟩ := changingBank_ok done
    exact ⟨bank, same⟩
  | pidStop | pidRun =>
    obtain ⟨_, bank, -, -, same⟩ := changeMode_ok done
    exact ⟨bank, same⟩

theorem execute_residue (failed : m.execute clock op = .error fault after) :
    m.Residue op after := by
  cases op with
  | halt => cases failed
  | arithmetic | bitwise | not | load | copy | time => exact changingMemory_error failed
  | multiload =>
    rcases multiload_error failed with ⟨rfl, -⟩ | ⟨_, _, _, _, _, memory, _, -, -, same⟩
    · exact ⟨after.memory, rfl⟩
    · exact ⟨memory, same⟩
  | push | pop =>
    cases failed
    rfl
  | jump | compare | call | ret | compareTime => exact branching_error failed
  | urlMap | urlMapDelete => exact changingMappings_error failed
  | urlMapCheck => exact checkMapping_residue failed
  | pidInit => exact initController_error failed
  | pidClear => exact changingBank_error failed
  | pidStop => exact stop_error failed
  | pidRun => exact run_error failed
  | reset =>
    cases failed
    rfl

end ControlMachine.Machine
