import ControlMachine.Number.Fixed
import ControlMachine.Proofs.BankSafety

/- A tick is the same as one computation of each controller in turn, and a second tick at the same time
   does nothing. A controller that has written must wait for its next period. One that has not is kept
   from it by something that does not depend on what is in memory, so it is kept from it still when the
   others have written to its cells. -/
namespace ControlMachine

theorem Outcome.answer_mapState {σ τ α : Type} (f : σ → τ) (x : Outcome σ α) :
    (x.mapState f).answer = x.answer := by
  cases x <;> rfl

namespace Controller
variable {R : Type} {c : Controller R} {store : Store} {now : UInt64}

theorem isDue_of_computed (period : 1 ≤ c.sampleMs) (computed : c.lastMs = now) :
    c.isDue now = false := by
  have positive : 1 ≤ c.sampleMs.toNat := UInt32.le_iff_toNat_le.mp period
  rw [isDue, computed, decide_eq_false_iff_not, UInt64.le_iff_toNat_le, UInt32.toNat_toUInt64,
    UInt64.sub_self, UInt64.toNat_zero]
  omega

variable [Rational R]

/-- What a controller needs to write its output. Of memory it is the size alone that counts. -/
structure Ready (c : Controller R) (mappings : MappingTable) (capacity : Nat) (now : UInt64) :
    Prop where
  active : c.Active
  free : c.heldBack mappings = .ok false
  due : c.isDue now = true
  input : c.input.toNat + 4 ≤ capacity
  setpoint : c.setpoint.toNat + 4 ≤ capacity
  output : c.output.toNat + 4 ≤ capacity

theorem compute_of_ready (ready : c.Ready store.mappings store.memory.capacity now) :
    ∃ after, c.compute store now = .ok true after ∧ after.1.lastMs = now ∧
      after.1.sampleMs = c.sampleMs := by
  have measured := (Memory.loadRational_eq_ok (R := R)).mpr ⟨ready.input, rfl⟩
  have wanted := (Memory.loadRational_eq_ok (R := R)).mpr ⟨ready.setpoint, rfl⟩
  simp only [compute, active_iff.mpr ready.active, ready.free, ready.due, measured, wanted, if_true]
  split
  · rename_i fault failed
    have outside := Memory.storeRational_error failed
    have inside := ready.output
    omega
  · exact ⟨_, rfl, rfl, rfl⟩

theorem compute_of_unready (output : c.Active → c.output.toNat + 4 ≤ store.memory.capacity)
    (unready : ¬ c.Ready store.mappings store.memory.capacity now) :
    (c.compute store now).state = (c, store.memory) ∧ (c.compute store now).answer ≠ .ok true := by
  cases outcome : c.compute store now with
  | ok wrote both =>
    obtain ⟨after, written⟩ := both
    rcases compute_ok outcome with
      ⟨rfl, rfl, rfl⟩ | ⟨rfl, active, free, due, input, setpoint, measured, wanted, stored, -⟩
    · exact ⟨rfl, by simp [Outcome.answer]⟩
    · have measured := (Memory.loadRational_eq_ok.mp measured).1
      have wanted := (Memory.loadRational_eq_ok.mp wanted).1
      exact absurd ⟨active, free, due, measured, wanted, output active⟩ unready
  | error fault both =>
    obtain ⟨after, written⟩ := both
    obtain ⟨active, rfl, ⟨rfl, -⟩ | ⟨-, -, ⟨rfl, -⟩ | ⟨outside, -⟩⟩⟩ := compute_error outcome
    · exact ⟨rfl, by simp [Outcome.answer]⟩
    · exact ⟨rfl, by simp [Outcome.answer]⟩
    · -- a store that fails would have left another integral behind, but the output is in memory
      have inside := output active
      omega

/-- Whether it has written or not, it does not write again at the same time. -/
theorem unready_after_compute (period : 1 ≤ c.sampleMs)
    (output : c.Active → c.output.toNat + 4 ≤ store.memory.capacity) :
    ¬ (c.compute store now).state.1.Ready store.mappings store.memory.capacity now := by
  by_cases ready : c.Ready store.mappings store.memory.capacity now
  · obtain ⟨after, wrote, stamp, same⟩ := compute_of_ready ready
    rw [wrote]
    intro again
    have late := isDue_of_computed (same ▸ period) stamp
    have due := again.due
    rw [Outcome.state, late] at due
    cases due
  · rw [(compute_of_unready output ready).1]
    exact ready

end Controller

namespace Bank
variable {R : Type} [Rational R] {b : Bank R} {store : Store} {now : UInt64}

/-- Computes the controllers with the given ids one after the other, and gives all answers and faults,
    the controllers and the memory. -/
def computeEach (now : UInt64) : List UInt8 → Bank R → Store →
    List (Except Fault Bool) × Bank R × Memory
  | [], b, store => ([], b, store.memory)
  | id :: ids, b, store =>
    let outcome := b.compute id store now
    let (answers, left) :=
      computeEach now ids outcome.state.1 { store with memory := outcome.state.2 }
    (outcome.answer :: answers, left)

theorem compute_of_found {id : UInt8} {c : Controller R} (found : b.controller id = .ok c) :
    b.compute id store now =
      (c.compute store now).mapState fun both => (b.set id both.1, both.2) := by
  simp only [compute, found]

theorem tick_cons (c : Controller R) (rest : List (Controller R)) :
    let outcome := c.compute store now
    let later := tick now rest { store with memory := outcome.state.2 }
    tick now (c :: rest) store =
      ((if outcome.answer = .ok true then 1 else 0) + later.1, outcome.state.1 :: later.2.1,
        later.2.2) := by
  rw [tick]
  cases c.compute store now with
  | error fault left => simp [Outcome.answer]
  | ok wrote left => cases wrote <;> simp [Outcome.answer]

/-- By induction on the controllers that are left, with those before them already computed. -/
theorem computeEach_suffix (now : UInt64) (b : Bank R) (store : Store)
    (done rest : List (Controller R)) (split : b.controllers = done ++ rest) :
    let each := computeEach now ((List.range' done.length rest.length).map UInt8.ofNat) b store
    let ticked := tick now rest store
    each.1.count (.ok true) = ticked.1 ∧ each.2.1.controllers = done ++ ticked.2.1 ∧
      each.2.2 = ticked.2.2 := by
  induction rest generalizing b store done with
  | nil => simp [computeEach, tick, split]
  | cons c rest ih =>
    have few := b.few
    rw [split, List.length_append, List.length_cons] at few
    have index : (UInt8.ofNat done.length).toNat = done.length := by
      rw [UInt8.toNat_ofNat']
      omega
    have found : b.controller (UInt8.ofNat done.length) = .ok c := by
      rw [controller_eq_ok, index, split]
      simp
    have placed : ∀ d, (b.set (UInt8.ofNat done.length) d).controllers = (done ++ [d]) ++ rest := by
      intro d
      simp [set, index, split]
    obtain ⟨count, controllers, memory⟩ :=
      ih _ { store with memory := (c.compute store now).state.2 } _
        (placed (c.compute store now).state.1)
    rw [List.length_append, List.length_singleton] at count controllers memory
    simp only [List.length_cons, List.range'_succ, List.map_cons, computeEach, tick_cons,
      compute_of_found found, Outcome.state_mapState, Outcome.answer_mapState, List.count_cons,
      beq_iff_eq]
    refine ⟨?_, ?_, memory⟩
    · rw [count, Nat.add_comm]
    · rw [controllers, List.append_assoc]
      rfl

def allIds (b : Bank R) : List UInt8 := (List.range b.count).map UInt8.ofNat

theorem computeAll_eq_computeEach (b : Bank R) (store : Store) (now : UInt64) :
    b.computeAll store now = ((computeEach now b.allIds b store).1.count (.ok true),
      (computeEach now b.allIds b store).2) := by
  have each := computeEach_suffix now b store [] b.controllers rfl
  rw [List.length_nil, ← List.range_eq_range'] at each
  obtain ⟨count, controllers, memory⟩ := each
  refine Prod.ext count.symm (Prod.ext ?_ memory.symm)
  exact eq_of_controllers controllers.symm

theorem tick_of_unready (cs : List (Controller R))
    (output : ∀ c ∈ cs, c.Active → c.output.toNat + 4 ≤ store.memory.capacity)
    (unready : ∀ c ∈ cs, ¬ c.Ready store.mappings store.memory.capacity now) :
    tick now cs store = (0, cs, store.memory) := by
  induction cs with
  | nil => rfl
  | cons c rest ih =>
    obtain ⟨inside, others⟩ := List.forall_mem_cons.mp output
    obtain ⟨waiting, later⟩ := List.forall_mem_cons.mp unready
    obtain ⟨kept, silent⟩ := Controller.compute_of_unready inside waiting
    simp only [tick_cons, kept, silent, if_false, ih others later]

theorem computeAll_of_unready
    (output : ∀ c ∈ b.controllers, c.Active → c.output.toNat + 4 ≤ store.memory.capacity)
    (unready : ∀ c ∈ b.controllers, ¬ c.Ready store.mappings store.memory.capacity now) :
    b.computeAll store now = (0, b, store.memory) := by
  have idle := tick_of_unready b.controllers output unready
  have count := congrArg (fun ticked => ticked.1) idle
  have same := congrArg (fun ticked => ticked.2.1) idle
  have memory := congrArg (fun ticked => ticked.2.2) idle
  exact Prod.ext count (Prod.ext (eq_of_controllers same) memory)

/-- What the others write on the way does not matter, since memory keeps its size. -/
theorem unready_after_tick {capacity : Nat} (now : UInt64) (cs : List (Controller Fixed))
    (store : Store) (size : store.memory.capacity = capacity)
    (safe : ∀ c ∈ cs, c.SafeIn capacity) :
    ∀ c ∈ (tick now cs store).2.1, ¬ c.Ready store.mappings capacity now := by
  induction cs generalizing store with
  | nil =>
    intro c none
    cases none
  | cons c rest ih =>
    obtain ⟨mine, others⟩ := List.forall_mem_cons.mp safe
    obtain ⟨-, kept⟩ := Controller.react_safeIn mine size (.compute now)
    have loop := mine store size
    have output : c.Active → c.output.toNat + 4 ≤ store.memory.capacity := by
      rw [size]
      exact loop.output
    have first : ¬ (c.compute store now).state.1.Ready store.mappings store.memory.capacity now :=
      Controller.unready_after_compute loop.period output
    rw [size] at first
    rw [tick_cons]
    exact List.forall_mem_cons.mpr ⟨first, ih _ kept others⟩

structure TicksOnce (b : Bank R) (store : Store) (now : UInt64) : Prop where
  each : b.computeAll store now = ((computeEach now b.allIds b store).1.count (.ok true),
    (computeEach now b.allIds b store).2)
  again : (b.computeAll store now).2.1.computeAll
    { store with memory := (b.computeAll store now).2.2 } now = (0, (b.computeAll store now).2)

theorem ticksOnce_of_safe {capacity : Nat} {b : Bank Fixed} (now : UInt64)
    (size : store.memory.capacity = capacity) (safe : ∀ c ∈ b.controllers, c.SafeIn capacity) :
    TicksOnce b store now := by
  refine ⟨computeAll_eq_computeEach b store now, ?_⟩
  have kept : (b.computeAll store now).2.2.capacity = capacity :=
    (computeAll_sameKind b store now).capacity.trans size
  apply computeAll_of_unready
  · intro c there active
    have still := tick_safeIn now b.controllers store size safe c there
    have loop := still { store with memory := (b.computeAll store now).2.2 } kept
    have inside : c.output.toNat + 4 ≤ capacity := loop.output active
    exact Nat.le_trans inside (Nat.le_of_eq kept.symm)
  · rw [kept]
    exact unready_after_tick now b.controllers store size safe

end Bank

/-- Whatever was done with a bank and with the store under it, a second tick at the time of the first
    one does nothing. -/
theorem Machine.second_tick_idle (count : Nat) (store : Store)
    (events : List (BankEvent Fixed store.memory.capacity)) (now : UInt64) :
    Bank.TicksOnce (withBankUsed count store events).bank (withBankUsed count store events).store
      now := by
  have safe := withBankUsed_safe count store events
  exact Bank.ticksOnce_of_safe now safe.size safe.each

def entangled : List (BankEvent Fixed ControlLoop.plant.memory.capacity) :=
  [.use (.init 0 ⟨0, 4, 8, .ofUnits 256, .ofUnits 256, 0, 100, .direct, 0, .ofUnits 2560⟩) 1000,
    .use (.init 1 ⟨4, 0, 8, .ofUnits 256, .ofUnits 256, 0, 100, .reverse, 0, .ofUnits 2560⟩) 1000,
    .use (.setMode 0 .automatic) 1000, .use (.setMode 1 .automatic) 1000]

example : ((Machine.withBankUsed 2 ControlLoop.plant entangled).bank.computeAll
    (Machine.withBankUsed 2 ControlLoop.plant entangled).store 1000).1 = 2 := by decide +kernel

end ControlMachine
