import ControlMachine.Pid.Controller
import ControlMachine.Proofs.MemoryAccess

/- What each operation of a controller does to it and to memory, one rule for each way it can go. -/
namespace ControlMachine

namespace Memory

theorem loadRational_error {R : Type} [Rational R] {m : Memory} {address : UInt16}
    {fault : Fault} (failed : m.loadRational (R := R) address = .error fault) :
    m.capacity < address.toNat + 4 := by
  by_cases fits : address.toNat + 4 ≤ m.capacity
  · have loaded := (loadRational_eq_ok (R := R)).mpr ⟨fits, rfl⟩
    rw [failed] at loaded
    cases loaded
  · omega

theorem storeRational_error {R : Type} [Rational R] {m : Memory} {address : UInt16} {value : R}
    {fault : Fault} (failed : m.storeRational address value = .error fault) :
    m.capacity < address.toNat + 4 := by
  by_cases fits : address.toNat + 4 ≤ m.capacity
  · have stored : m.storeRational address value = .ok (m.patch address.toNat
        (LittleEndian.bytes 4 (Rational.toBits value).toNat)) :=
      write_eq_ok.mpr ⟨by simpa using fits, rfl⟩
    rw [failed] at stored
    cases stored
  · omega

end Memory

namespace Controller
variable {R : Type} {c after : Controller R} {memory written : Memory} {store : Store}
  {now : UInt64} {fault : Fault}

def Active (c : Controller R) : Prop := c.initialized = true ∧ c.mode = .automatic

theorem active_iff : (c.initialized && c.mode == .automatic) = true ↔ c.Active := by
  rw [Bool.and_eq_true, beq_iff_eq, Active]

variable [Rational R]

theorem setTunings_gains (c : Controller R) (p i d : R) :
    ∃ kp ki kd, c.setTunings p i d = { c with kp := kp, ki := ki, kd := kd } := by
  unfold setTunings
  split
  · exact ⟨c.kp, c.ki, c.kd, rfl⟩
  · cases turned : c.direction with
    | direct => exact ⟨_, _, _, rfl⟩
    | reverse => exact ⟨_, _, _, rfl⟩

theorem setSampleTime_gains (c : Controller R) (ms : UInt32) :
    c.setSampleTime ms = c ∨
      ms ≠ 0 ∧ ∃ ki kd, c.setSampleTime ms = { c with ki := ki, kd := kd, sampleMs := ms } := by
  unfold setSampleTime
  split
  · exact Or.inl rfl
  · rename_i some
    exact Or.inr ⟨some, _, _, rfl⟩

theorem setDirection_gains (c : Controller R) (direction : Direction) :
    ∃ kp ki kd, c.setDirection direction =
      { c with kp := kp, ki := ki, kd := kd, direction := direction } := by
  unfold setDirection
  dsimp only
  split
  · exact ⟨_, _, _, rfl⟩
  · exact ⟨c.kp, c.ki, c.kd, rfl⟩

def boundTo (c : Controller R) (settings : PidSettings R) : Controller R :=
  { c with
    input := settings.input
    output := settings.output
    setpoint := settings.setpoint
    mode := .manual
    integral := 0
    lastInput := 0
    lower := if validLimits settings.lower settings.upper then settings.lower else c.lower
    upper := if validLimits settings.lower settings.upper then settings.upper else c.upper
    sampleMs := max settings.sampleMs leastSampleMs
    direction := settings.direction }

theorem boundTo_limits (c : Controller R) (settings : PidSettings R) :
    (validLimits settings.lower settings.upper = true ∧
        (c.boundTo settings).lower = settings.lower ∧
        (c.boundTo settings).upper = settings.upper) ∨
      (c.boundTo settings).lower = c.lower ∧ (c.boundTo settings).upper = c.upper := by
  unfold boundTo
  cases valid : validLimits settings.lower settings.upper with
  | true => exact Or.inl ⟨rfl, rfl, rfl⟩
  | false => exact Or.inr ⟨rfl, rfl⟩

def tiedTo (c : Controller R) (settings : PidSettings R) (now : UInt64)
    (mappings : MappingTable) : Controller R :=
  let tuned := (c.boundTo settings).setTunings settings.kp settings.ki settings.kd
  { tuned with
    lastMs := now - tuned.sampleMs.toUInt64
    mapId? := mappings.idForAddress? tuned.input
    initialized := true }

theorem tiedTo_gains (c : Controller R) (settings : PidSettings R) (now : UInt64)
    (mappings : MappingTable) :
    ∃ kp ki kd, c.tiedTo settings now mappings =
      { c.boundTo settings with
        kp := kp
        ki := ki
        kd := kd
        lastMs := now - (c.boundTo settings).sampleMs.toUInt64
        mapId? := mappings.idForAddress? settings.input
        initialized := true } := by
  obtain ⟨kp, ki, kd, tuned⟩ := setTunings_gains (c.boundTo settings)
    settings.kp settings.ki settings.kd
  rw [tiedTo, tuned]
  exact ⟨kp, ki, kd, rfl⟩

/-- In manual mode limits are only taken over: memory is not looked at, so nothing can fail. -/
theorem setLimits_of_manual (manual : c.mode = .manual) (memory : Memory) (lower upper : R) :
    c.setLimits memory lower upper = .ok ()
      ({ c with
        lower := if validLimits lower upper then lower else c.lower
        upper := if validLimits lower upper then upper else c.upper }, memory) := by
  unfold setLimits
  cases validLimits lower upper with
  | true => simp only [manual, if_true]
  | false => rfl

/-- In manual mode the gains do not turn with the direction. -/
theorem setDirection_of_manual (manual : c.mode = .manual) (direction : Direction) :
    c.setDirection direction = { c with direction := direction } := by
  have still : ¬ (c.mode = .automatic ∧ direction ≠ c.direction) := by
    rw [manual]
    exact fun turning => Mode.noConfusion turning.1
  unfold setDirection
  rw [if_neg still]

/-- An initialization has put the controller into manual mode before it sets its limits and its
    direction. So it fails at once or not at all, and does not touch memory. -/
theorem init_eq (c : Controller R) (store : Store) (settings : PidSettings R) (now : UInt64) :
    c.init store settings now =
      if c.initialized then .error (.pidAlreadyInitialized c.id) (c, store.memory)
      else .ok () (c.tiedTo settings now store.mappings, store.memory) := by
  unfold init
  simp only [setLimits_of_manual, setDirection_of_manual]
  rfl

theorem init_ok {settings : PidSettings R} {both : Controller R × Memory}
    (done : c.init store settings now = .ok () both) :
    c.initialized = false ∧ both = (c.tiedTo settings now store.mappings, store.memory) := by
  rw [init_eq] at done
  cases state : c.initialized with
  | true =>
    rw [state] at done
    cases done
  | false =>
    rw [state] at done
    cases done
    exact ⟨rfl, rfl⟩

theorem init_of_cleared (store : Store) (settings : PidSettings R) (now : UInt64)
    (cleared : c.initialized = false) : c.init store settings now =
      .ok () (c.tiedTo settings now store.mappings, store.memory) := by
  rw [init_eq, cleared]
  rfl

theorem setMode_ok {mode : Mode} (done : c.setMode memory mode = .ok () after) :
    (after = { c with mode := mode } ∧ (c.Active ∨ ¬ after.Active)) ∨
      mode = .automatic ∧ c.mode = .manual ∧ c.initialized = true ∧
        ∃ output input, memory.loadRational c.output = .ok output ∧
          memory.loadRational c.input = .ok input ∧
          after = { c with
            integral := Rational.clamp output c.lower c.upper
            lastInput := input
            mode := .automatic } := by
  unfold setMode at done
  split at done
  · rename_i seeding
    obtain ⟨rfl, manual, initialized⟩ := seeding
    cases loaded : memory.loadRational (R := R) c.output with
    | error reason => simp [loaded] at done
    | ok output =>
      cases measured : memory.loadRational (R := R) c.input with
      | error reason => simp [loaded, measured] at done
      | ok input =>
        simp only [loaded, measured] at done
        cases done
        exact Or.inr ⟨rfl, manual, initialized, output, input, rfl, rfl, rfl⟩
  · rename_i unseeded
    cases done
    refine Or.inl ⟨rfl, ?_⟩
    by_cases active : c.Active
    · exact Or.inl active
    · refine Or.inr ?_
      rintro ⟨initialized, rfl⟩
      cases before : c.mode with
      | manual => exact unseeded ⟨rfl, before, initialized⟩
      | automatic => exact active ⟨initialized, before⟩

/-- Only the seeding of an automatic controller can fail, and it gives up in manual mode. -/
theorem setMode_error {mode : Mode} (failed : c.setMode memory mode = .error fault after) :
    mode = .automatic ∧ c.mode = .manual ∧
      ∃ integral, after = { c with integral := integral } := by
  unfold setMode at failed
  split at failed
  · rename_i seeding
    refine ⟨seeding.1, seeding.2.1, ?_⟩
    split at failed
    · cases failed
      exact ⟨c.integral, rfl⟩
    · dsimp only at failed
      split at failed
      · cases failed
        exact ⟨_, rfl⟩
      · cases failed
  · cases failed

theorem setLimits_ok {lower upper : R}
    (done : c.setLimits memory lower upper = .ok () (after, written)) :
    (validLimits lower upper = false ∧ after = c ∧ written = memory) ∨
      validLimits lower upper = true ∧
        ((c.mode = .manual ∧ after = { c with lower := lower, upper := upper } ∧
            written = memory) ∨
          c.mode = .automatic ∧ c.output.toNat + 4 ≤ memory.capacity ∧
            after = { c with
              lower := lower
              upper := upper
              integral := Rational.clamp c.integral lower upper } ∧
            (written = memory ∨ memory.Overwritten written c.output.toNat 4)) := by
  unfold setLimits at done
  cases valid : validLimits lower upper with
  | false =>
    rw [valid] at done
    cases done
    exact Or.inl ⟨rfl, rfl, rfl⟩
  | true =>
    refine Or.inr ⟨rfl, ?_⟩
    cases mode : c.mode with
    | manual =>
      simp only [valid, mode, if_true] at done
      cases done
      exact Or.inl ⟨rfl, rfl, rfl⟩
    | automatic =>
      refine Or.inr ⟨rfl, ?_⟩
      cases loaded : memory.loadRational (R := R) c.output with
      | error reason => simp [valid, mode, loaded] at done
      | ok output =>
        have inside := (Memory.loadRational_eq_ok.mp loaded).1
        simp only [valid, mode, loaded, if_true] at done
        split at done
        · cases done
          exact ⟨inside, rfl, Or.inl rfl⟩
        · split at done
          · cases done
          · rename_i stored
            cases done
            exact ⟨inside, rfl, Or.inr (Memory.storeRational_overwritten stored)⟩

theorem setLimits_error {lower upper : R}
    (failed : c.setLimits memory lower upper = .error fault (after, written)) :
    validLimits lower upper = true ∧ c.mode = .automatic ∧
      memory.capacity < c.output.toNat + 4 ∧
      after = { c with lower := lower, upper := upper } ∧ written = memory := by
  unfold setLimits at failed
  cases valid : validLimits lower upper with
  | false =>
    rw [valid] at failed
    cases failed
  | true =>
    cases mode : c.mode with
    | manual => simp [valid, mode] at failed
    | automatic =>
      cases loaded : memory.loadRational (R := R) c.output with
      | error reason =>
        have outside := Memory.loadRational_error loaded
        simp only [valid, mode, loaded, if_true] at failed
        cases failed
        exact ⟨rfl, rfl, outside, rfl, rfl⟩
      | ok output =>
        simp only [valid, mode, loaded, if_true] at failed
        split at failed
        · cases failed
        · split at failed
          · rename_i stored
            have outside := Memory.storeRational_error stored
            cases failed
            exact ⟨rfl, rfl, outside, rfl, rfl⟩
          · cases failed

theorem compute_ok {wrote : Bool} (done : c.compute store now = .ok wrote (after, written)) :
    (wrote = false ∧ after = c ∧ written = store.memory) ∨
      wrote = true ∧ c.Active ∧ c.heldBack store.mappings = .ok false ∧ c.isDue now = true ∧
        ∃ input setpoint, store.memory.loadRational c.input = .ok input ∧
          store.memory.loadRational c.setpoint = .ok setpoint ∧
          store.memory.storeRational c.output (c.respond input setpoint).2 = .ok written ∧
          after = { c with
            integral := (c.respond input setpoint).1
            lastInput := input
            lastMs := now } := by
  unfold compute at done
  dsimp only at done
  split at done
  · rename_i active
    split at done
    · cases done
    · cases done
      exact Or.inl ⟨rfl, rfl, rfl⟩
    · rename_i free
      split at done
      · rename_i due
        split at done
        · cases done
        · rename_i input measured
          split at done
          · cases done
          · rename_i setpoint wanted
            split at done
            · cases done
            · rename_i stored
              cases done
              exact Or.inr ⟨rfl, active_iff.mp active, free, due, input, setpoint, measured,
                wanted, stored, rfl⟩
      · cases done
        exact Or.inl ⟨rfl, rfl, rfl⟩
  · cases done
    exact Or.inl ⟨rfl, rfl, rfl⟩

theorem compute_error (failed : c.compute store now = .error fault (after, written)) :
    c.Active ∧ written = store.memory ∧
      ((after = c ∧ c.heldBack store.mappings = .error fault) ∨
        c.heldBack store.mappings = .ok false ∧ c.isDue now = true ∧
          ((after = c ∧ (store.memory.capacity < c.input.toNat + 4 ∨
              store.memory.capacity < c.setpoint.toNat + 4)) ∨
            store.memory.capacity < c.output.toNat + 4 ∧
              ∃ input setpoint, after = { c with integral := (c.respond input setpoint).1 })) := by
  unfold compute at failed
  dsimp only at failed
  split at failed
  · rename_i active
    refine ⟨active_iff.mp active, ?_⟩
    split at failed
    · rename_i lost
      cases failed
      exact ⟨rfl, Or.inl ⟨rfl, lost⟩⟩
    · cases failed
    · rename_i free
      split at failed
      · rename_i due
        split at failed
        · rename_i outside
          cases failed
          exact ⟨rfl, Or.inr ⟨free, due, Or.inl ⟨rfl, Or.inl (Memory.loadRational_error outside)⟩⟩⟩
        · rename_i input measured
          split at failed
          · rename_i outside
            cases failed
            exact ⟨rfl, Or.inr ⟨free, due, Or.inl ⟨rfl, Or.inr (Memory.loadRational_error outside)⟩⟩⟩
          · rename_i setpoint wanted
            split at failed
            · rename_i outside
              cases failed
              exact ⟨rfl, Or.inr ⟨free, due,
                Or.inr ⟨Memory.storeRational_error outside, input, setpoint, rfl⟩⟩⟩
            · cases failed
      · cases failed
  · cases failed

/-- Of the controller a computation changes only what it computes with. -/
theorem compute_changes (c : Controller R) (store : Store) (now : UInt64) :
    ∃ integral lastInput lastMs, (c.compute store now).state.1 =
      { c with integral := integral, lastInput := lastInput, lastMs := lastMs } := by
  cases outcome : c.compute store now with
  | ok wrote both =>
    obtain ⟨after, written⟩ := both
    rcases compute_ok outcome with ⟨-, rfl, -⟩ | ⟨-, -, -, -, input, setpoint, -, -, -, rfl⟩
    · exact ⟨_, _, _, rfl⟩
    · exact ⟨_, _, _, rfl⟩
  | error fault both =>
    obtain ⟨after, written⟩ := both
    obtain ⟨-, -, ⟨rfl, -⟩ | ⟨-, -, ⟨rfl, -⟩ | ⟨-, input, setpoint, rfl⟩⟩⟩ := compute_error outcome
    · exact ⟨_, _, _, rfl⟩
    · exact ⟨_, _, _, rfl⟩
    · exact ⟨_, _, _, rfl⟩

theorem setMode_changes (c : Controller R) (memory : Memory) (mode : Mode) :
    ∃ integral lastInput next, (c.setMode memory mode).state =
      { c with integral := integral, lastInput := lastInput, mode := next } := by
  cases outcome : c.setMode memory mode with
  | ok u after =>
    rcases setMode_ok outcome with ⟨rfl, -⟩ | ⟨-, -, -, output, input, -, -, rfl⟩
    · exact ⟨_, _, _, rfl⟩
    · exact ⟨_, _, _, rfl⟩
  | error fault after =>
    obtain ⟨-, -, integral, rfl⟩ := setMode_error outcome
    exact ⟨_, _, _, rfl⟩

theorem setLimits_changes (c : Controller R) (memory : Memory) (lower upper : R) :
    ∃ low high integral, (c.setLimits memory lower upper).state.1 =
      { c with lower := low, upper := high, integral := integral } := by
  cases outcome : c.setLimits memory lower upper with
  | ok u both =>
    obtain ⟨after, written⟩ := both
    rcases setLimits_ok outcome with ⟨-, rfl, -⟩ | ⟨-, ⟨-, rfl, -⟩ | ⟨-, -, rfl, -⟩⟩
    · exact ⟨_, _, _, rfl⟩
    · exact ⟨_, _, _, rfl⟩
    · exact ⟨_, _, _, rfl⟩
  | error fault both =>
    obtain ⟨after, written⟩ := both
    obtain ⟨-, -, -, rfl, -⟩ := setLimits_error outcome
    exact ⟨_, _, _, rfl⟩

end Controller
end ControlMachine
