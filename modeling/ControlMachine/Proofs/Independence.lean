import ControlMachine.Proofs.MemoryContents
import ControlMachine.Proofs.RepeatedTick

/- Controllers that do not meet each other's outputs. What a controller does depends on its own
   state, on two cells and on the size of memory, so two of them whose outputs are apart from the
   cells of the other do the same in either order. All orders of a bank come from each other by
   exchanges of two neighbours, so a bank of such controllers can be computed in any order. -/
namespace ControlMachine

namespace Memory

def CellsApart (a b : UInt16) : Prop := a.toNat + 4 ≤ b.toNat ∨ b.toNat + 4 ≤ a.toNat

instance (a b : UInt16) : Decidable (CellsApart a b) :=
  inferInstanceAs (Decidable (a.toNat + 4 ≤ b.toNat ∨ b.toNat + 4 ≤ a.toNat))

/-- The same cell of both memories was written, with the same bytes, or neither of them was. -/
inductive WrittenAlike (m n : Memory) (address : UInt16) : Memory → Memory → Prop where
  | kept : WrittenAlike m n address m n
  | cell (values : List UInt8) (width : values.length = 4)
      (fits : address.toNat + 4 ≤ m.capacity) :
      WrittenAlike m n address (m.patch address.toNat values) (n.patch address.toNat values)

theorem storeRational_eq {R : Type} [Rational R] (m : Memory) (address : UInt16) (value : R) :
    m.storeRational address value =
      if address.toNat + 4 ≤ m.capacity then
        .ok (m.patch address.toNat (LittleEndian.bytes 4 (Rational.toBits value).toNat))
      else .error (.accessViolation .storeRational address.toNat 4) := by
  simp only [storeRational, write, check, LittleEndian.length_bytes]
  split <;> rfl

theorem written_comm {m one two oneTwo twoOne : Memory} {a b : UInt16} (apart : CellsApart a b)
    (first : WrittenAlike m two a one twoOne) (second : WrittenAlike m one b two oneTwo) :
    oneTwo = twoOne := by
  cases first with
  | kept =>
    cases second with
    | kept => rfl
    | cell values width fits => rfl
  | cell values width fits =>
    cases second with
    | kept => rfl
    | cell others widthToo fitsToo =>
      unfold CellsApart at apart
      apply patch_comm <;> omega

end Memory

namespace Controller
variable {R : Type} {c d : Controller R} {m n : Memory} {t : MappingTable} {now : UInt64}

/-- The output of the first one is apart from all cells of the other. -/
structure OutputApart (c d : Controller R) : Prop where
  input : Memory.CellsApart c.output d.input
  setpoint : Memory.CellsApart c.output d.setpoint
  output : Memory.CellsApart c.output d.output

def Independent (c d : Controller R) : Prop := c.OutputApart d ∧ d.OutputApart c

instance (c d : Controller R) : Decidable (c.OutputApart d) :=
  decidable_of_iff (Memory.CellsApart c.output d.input ∧ Memory.CellsApart c.output d.setpoint ∧
      Memory.CellsApart c.output d.output)
    ⟨fun ⟨input, setpoint, output⟩ => ⟨input, setpoint, output⟩,
      fun apart => ⟨apart.input, apart.setpoint, apart.output⟩⟩

instance (c d : Controller R) : Decidable (c.Independent d) :=
  inferInstanceAs (Decidable (c.OutputApart d ∧ d.OutputApart c))

/-- The two memories have one size and hold the same in the cells that the controller reads. -/
structure SeesAlike (c : Controller R) (m n : Memory) : Prop where
  size : n.capacity = m.capacity
  input : n.slice c.input.toNat 4 = m.slice c.input.toNat 4
  setpoint : n.slice c.setpoint.toNat 4 = m.slice c.setpoint.toNat 4

/-- Two computations, one on each memory, that answer the same, leave the same controller and write
    the same to the output. -/
structure ActsAlike (c : Controller R) (m n : Memory)
    (here there : Outcome (Controller R × Memory) Bool) : Prop where
  answer : there.answer = here.answer
  controller : there.state.1 = here.state.1
  memory : Memory.WrittenAlike m n c.output here.state.2 there.state.2

theorem actsAlike_of_cell (after : Controller R) {values : List UInt8} (width : values.length = 4)
    (fits : c.output.toNat + 4 ≤ m.capacity) :
    c.ActsAlike m n (.ok true (after, m.patch c.output.toNat values))
      (.ok true (after, n.patch c.output.toNat values)) := by
  constructor
  case answer => rfl
  case controller => simp only [Outcome.state]
  case memory =>
    simp only [Outcome.state]
    exact .cell values width fits

theorem seesAlike_of_written {written other : Memory} (apart : c.OutputApart d)
    (alike : Memory.WrittenAlike m n c.output written other) : d.SeesAlike m written := by
  cases alike with
  | kept => exact ⟨rfl, rfl, rfl⟩
  | cell values width fits =>
    have input := apart.input
    have setpoint := apart.setpoint
    unfold Memory.CellsApart at input setpoint
    constructor
    · exact Memory.capacity_patch m _ values
    · apply Memory.slice_patch_outside <;> omega
    · apply Memory.slice_patch_outside <;> omega

variable [Rational R]

theorem compute_alike (sees : c.SeesAlike m n) (t : MappingTable) (now : UInt64) :
    c.ActsAlike m n (c.compute ⟨m, t⟩ now) (c.compute ⟨n, t⟩ now) := by
  have measured := Memory.loadRational_congr (R := R) sees.size sees.input
  have wanted := Memory.loadRational_congr (R := R) sees.size sees.setpoint
  unfold compute
  simp only [measured, wanted]
  -- the checks in their order; a computation that one of them ends has written nothing
  by_cases active : (c.initialized && c.mode == .automatic) = true
  · simp only [active, if_true]
    cases c.heldBack t with
    | error fault => exact ⟨rfl, rfl, .kept⟩
    | ok held =>
      cases held with
      | true => exact ⟨rfl, rfl, .kept⟩
      | false =>
        by_cases due : c.isDue now = true
        · simp only [due, if_true]
          cases m.loadRational (R := R) c.input with
          | error fault => exact ⟨rfl, rfl, .kept⟩
          | ok input =>
            cases m.loadRational (R := R) c.setpoint with
            | error fault => exact ⟨rfl, rfl, .kept⟩
            | ok setpoint =>
              simp only [Memory.storeRational_eq, sees.size]
              by_cases fits : c.output.toNat + 4 ≤ m.capacity
              · have width := LittleEndian.length_bytes 4
                  (Rational.toBits (c.respond input setpoint).2).toNat
                simp only [fits, if_true]
                exact actsAlike_of_cell _ width fits
              · simp only [fits, if_false]
                exact ⟨rfl, rfl, .kept⟩
        · simp only [due]
          exact ⟨rfl, rfl, .kept⟩
  · simp only [active]
    exact ⟨rfl, rfl, .kept⟩

/-- Each of two controllers computes as if the other one had not, and together they leave the same
    memory. -/
structure Commute (c d : Controller R) (t : MappingTable) (now : UInt64) (m : Memory) : Prop where
  first : c.ActsAlike m (d.compute ⟨m, t⟩ now).state.2 (c.compute ⟨m, t⟩ now)
    (c.compute ⟨(d.compute ⟨m, t⟩ now).state.2, t⟩ now)
  second : d.ActsAlike m (c.compute ⟨m, t⟩ now).state.2 (d.compute ⟨m, t⟩ now)
    (d.compute ⟨(c.compute ⟨m, t⟩ now).state.2, t⟩ now)
  memory : (d.compute ⟨(c.compute ⟨m, t⟩ now).state.2, t⟩ now).state.2 =
    (c.compute ⟨(d.compute ⟨m, t⟩ now).state.2, t⟩ now).state.2

theorem seesAlike_after_compute (apart : c.OutputApart d) (m : Memory) (t : MappingTable)
    (now : UInt64) : d.SeesAlike m (c.compute ⟨m, t⟩ now).state.2 :=
  seesAlike_of_written apart (compute_alike (n := m) ⟨rfl, rfl, rfl⟩ t now).memory

theorem compute_commute (independent : c.Independent d) (t : MappingTable) (now : UInt64)
    (m : Memory) : c.Commute d t now m := by
  have first := compute_alike (seesAlike_after_compute independent.2 m t now) t now
  have second := compute_alike (seesAlike_after_compute independent.1 m t now) t now
  exact ⟨first, second, Memory.written_comm independent.1.output first.memory second.memory⟩

end Controller

namespace Bank
variable {R : Type} {b : Bank R} {store : Store} {now : UInt64} {i j : UInt8}

def Independent (b : Bank R) (i j : UInt8) : Prop :=
  ∀ c d, b.controller i = .ok c → b.controller j = .ok d → c.Independent d

def SameCells (b after : Bank R) : Prop :=
  ∀ id c, after.controller id = .ok c → ∃ old, b.controller id = .ok old ∧
    c.input = old.input ∧ c.setpoint = old.setpoint ∧ c.output = old.output

theorem independent_of_pairwise (pairwise : b.controllers.Pairwise Controller.Independent)
    (differs : i ≠ j) : b.Independent i j := by
  intro c d foundC foundD
  obtain ⟨insideC, rfl⟩ := List.getElem?_eq_some_iff.mp (controller_eq_ok.mp foundC)
  obtain ⟨insideD, rfl⟩ := List.getElem?_eq_some_iff.mp (controller_eq_ok.mp foundD)
  have pairs := List.pairwise_iff_getElem.mp pairwise
  rcases Nat.lt_trichotomy i.toNat j.toNat with before | same | behind
  · exact pairs i.toNat j.toNat insideC insideD before
  · exact absurd (UInt8.toNat_inj.mp same) differs
  · exact (pairs j.toNat i.toNat insideD insideC behind).symm

theorem set_comm (b : Bank R) (differs : i ≠ j) (c d : Controller R) :
    (b.set i c).set j d = (b.set j d).set i c := by
  have apart : i.toNat ≠ j.toNat := by
    intro same
    exact differs (UInt8.toNat_inj.mp same)
  apply eq_of_controllers
  exact List.set_comm c d apart

theorem controller_set_self {c : Controller R} (found : b.controller i = .ok c)
    (d : Controller R) : (b.set i d).controller i = .ok d := by
  have inside := (List.getElem?_eq_some_iff.mp (controller_eq_ok.mp found)).1
  rw [controller_eq_ok]
  simp [set, inside]

theorem independent_of_sameCells {after : Bank R} (same : b.SameCells after)
    (independent : b.Independent i j) : after.Independent i j := by
  intro c d foundC foundD
  obtain ⟨oldC, thereC, inputC, setpointC, outputC⟩ := same i c foundC
  obtain ⟨oldD, thereD, inputD, setpointD, outputD⟩ := same j d foundD
  obtain ⟨first, second⟩ := independent oldC oldD thereC thereD
  constructor
  · constructor
    · rw [outputC, inputD]
      exact first.input
    · rw [outputC, setpointD]
      exact first.setpoint
    · rw [outputC, outputD]
      exact first.output
  · constructor
    · rw [outputD, inputC]
      exact second.input
    · rw [outputD, setpointC]
      exact second.setpoint
    · rw [outputD, outputC]
      exact second.output

variable [Rational R]

theorem compute_of_missing {fault : Fault} (missing : b.controller i = .error fault) :
    b.compute i store now = .error fault (b, store.memory) := by
  simp only [compute, missing]

theorem controller_after_compute (differs : j ≠ i) :
    (b.compute i store now).state.1.controller j = b.controller j := by
  cases found : b.controller i with
  | error fault => simp only [compute_of_missing found, Outcome.state]
  | ok c =>
    rw [compute_of_found found, Outcome.state_mapState]
    exact controller_set_other differs _

theorem compute_sameCells (b : Bank R) (id : UInt8) (store : Store) (now : UInt64) :
    b.SameCells (b.compute id store now).state.1 := by
  intro other c found
  by_cases own : other = id
  · subst own
    cases before : b.controller other with
    | error fault =>
      rw [compute_of_missing before, Outcome.state, before] at found
      cases found
    | ok old =>
      rw [compute_of_found before, Outcome.state_mapState, controller_set_self before] at found
      cases found
      obtain ⟨integral, lastInput, lastMs, changed⟩ := Controller.compute_changes old store now
      rw [changed]
      exact ⟨old, rfl, rfl, rfl, rfl⟩
  · rw [controller_after_compute own] at found
    exact ⟨c, found, rfl, rfl, rfl⟩

structure Exchangeable (b : Bank R) (store : Store) (now : UInt64) (i j : UInt8) : Prop where
  answers : (computeEach now [i, j] b store).1 = (computeEach now [j, i] b store).1.reverse
  state : (computeEach now [i, j] b store).2 = (computeEach now [j, i] b store).2

theorem Exchangeable.symm (exchangeable : b.Exchangeable store now i j) :
    b.Exchangeable store now j i := by
  constructor
  · rw [exchangeable.answers, List.reverse_reverse]
  · exact exchangeable.state.symm

theorem exchangeable_of_missing {fault : Fault} (differs : i ≠ j)
    (missing : b.controller i = .error fault) : b.Exchangeable store now i j := by
  have still : (b.compute j store now).state.1.controller i = .error fault := by
    rw [controller_after_compute differs, missing]
  constructor
  · simp only [computeEach, compute_of_missing missing, compute_of_missing still]
    rfl
  · simp only [computeEach, compute_of_missing missing, compute_of_missing still]
    rfl

theorem exchangeable_of_independent (differs : i ≠ j) (independent : b.Independent i j)
    (store : Store) (now : UInt64) : b.Exchangeable store now i j := by
  cases foundI : b.controller i with
  | error fault => exact exchangeable_of_missing differs foundI
  | ok c =>
    cases foundJ : b.controller j with
    | error fault => exact (exchangeable_of_missing (Ne.symm differs) foundJ).symm
    | ok d =>
      obtain ⟨first, second, memory⟩ :=
        Controller.compute_commute (independent c d foundI foundJ) store.mappings now store.memory
      have thereJ : ∀ e, (b.set i e).controller j = .ok d := by
        intro e
        rw [controller_set_other (Ne.symm differs), foundJ]
      have thereI : ∀ e, (b.set j e).controller i = .ok c := by
        intro e
        rw [controller_set_other differs, foundI]
      constructor
      · simp only [computeEach, compute_of_found foundI, compute_of_found foundJ,
          compute_of_found (thereI _), compute_of_found (thereJ _), Outcome.state_mapState,
          Outcome.answer_mapState]
        simp [first.answer, second.answer]
      · simp only [computeEach, compute_of_found foundI, compute_of_found foundJ,
          compute_of_found (thereI _), compute_of_found (thereJ _), Outcome.state_mapState,
          Outcome.answer_mapState]
        refine Prod.ext ?_ memory
        rw [first.controller, second.controller]
        exact set_comm b differs _ _

theorem computeEach_append (now : UInt64) (first second : List UInt8) (b : Bank R)
    (store : Store) :
    computeEach now (first ++ second) b store =
      let done := computeEach now first b store
      let later := computeEach now second done.2.1 { store with memory := done.2.2 }
      (done.1 ++ later.1, later.2) := by
  induction first generalizing b store with
  | nil => rfl
  | cons id ids ih =>
    simp only [List.cons_append, computeEach, ih]

/-- By induction on the exchanges that lead from one order to the other. The controllers keep their
    cells on the way, so those that are left stay independent. -/
theorem computeEach_perm {ids order : List UInt8} (same : ids.Perm order) (b : Bank R)
    (store : Store) (independent : ∀ i j, i ≠ j → b.Independent i j) :
    (computeEach now ids b store).1.Perm (computeEach now order b store).1 ∧
      (computeEach now ids b store).2 = (computeEach now order b store).2 := by
  induction same generalizing b store with
  | nil => exact ⟨.refl _, rfl⟩
  | cons id rest ih =>
    have kept := compute_sameCells b id store now
    obtain ⟨answers, state⟩ := ih (b.compute id store now).state.1
      { store with memory := (b.compute id store now).state.2 }
      fun i j differs => independent_of_sameCells kept (independent i j differs)
    simp only [computeEach]
    exact ⟨answers.cons _, state⟩
  | swap i j rest =>
    by_cases differs : j = i
    · subst differs
      exact ⟨.refl _, rfl⟩
    · obtain ⟨answers, state⟩ :=
        exchangeable_of_independent differs (independent j i differs) store now
      have front := computeEach_append now [j, i] rest b store
      have back := computeEach_append now [i, j] rest b store
      simp only [List.cons_append, List.nil_append] at front back
      rw [front, back, state, answers]
      exact ⟨(List.reverse_perm _).append_right _, rfl⟩
  | trans one two first second =>
    obtain ⟨answers, state⟩ := first b store independent
    obtain ⟨answersToo, stateToo⟩ := second b store independent
    exact ⟨answers.trans answersToo, state.trans stateToo⟩

/-- Independent controllers can be exchanged, and a bank of them does in any order what a tick
    does. -/
theorem independent_in_any_order (b : Bank R) (store : Store) (now : UInt64) :
    (∀ i j, i ≠ j → b.Independent i j → b.Exchangeable store now i j) ∧
      (b.controllers.Pairwise Controller.Independent → ∀ order : List UInt8,
        order.Perm b.allIds → b.computeAll store now =
          ((computeEach now order b store).1.count (.ok true),
            (computeEach now order b store).2)) := by
  constructor
  · intro i j differs independent
    exact exchangeable_of_independent differs independent store now
  · intro pairwise order reordered
    obtain ⟨answers, state⟩ := computeEach_perm reordered b store
      fun i j differs => independent_of_pairwise pairwise differs
    rw [computeAll_eq_computeEach, ← answers.count_eq, ← state]

def abreast : Machine Fixed :=
  let settings (input output setpoint : UInt16) : PidSettings Fixed :=
    ⟨input, output, setpoint, .ofUnits 256, .ofUnits 256, 0, 100, .direct, 0, .ofUnits 2560⟩
  let store : Store := ⟨(Memory.ofCapacity 64).patch 8 [0, 2, 0, 0], .ofSize 1⟩
  Machine.withBankUsed 3 store
    [.use (.init 0 (settings 0 4 8)) 1000, .use (.init 1 (settings 0 12 8)) 1000,
      .use (.init 2 (settings 16 20 62)) 1000, .use (.setMode 0 .automatic) 1000,
      .use (.setMode 1 .automatic) 1000, .use (.setMode 2 .automatic) 1000]

theorem independent_in_any_order_abreast :
    abreast.bank.controllers.Pairwise Controller.Independent ∧
      abreast.bank.Exchangeable abreast.store 1000 0 2 ∧
      (computeEach 1000 [2, 1, 0] abreast.bank abreast.store).1 =
        [.error (.accessViolation .loadRational 62 4), .ok true, .ok true] ∧
      abreast.bank.computeAll abreast.store 1000 =
        (2, (computeEach 1000 [2, 1, 0] abreast.bank abreast.store).2) := by
  have pairwise : abreast.bank.controllers.Pairwise Controller.Independent := by decide +kernel
  have reordered : [2, 1, 0].Perm abreast.bank.allIds := by decide +kernel
  have answers : (computeEach 1000 [2, 1, 0] abreast.bank abreast.store).1 =
      [.error (.accessViolation .loadRational 62 4), .ok true, .ok true] := by rfl
  obtain ⟨exchange, reorder⟩ := independent_in_any_order abreast.bank abreast.store 1000
  refine ⟨pairwise, exchange 0 2 (by decide) (independent_of_pairwise pairwise (by decide)),
    answers, ?_⟩
  rw [reorder pairwise [2, 1, 0] reordered, answers]
  rfl

end Bank
end ControlMachine
