import ControlMachine.Proofs.BankSafety

/- Status reports of a bank as a reader takes them. The first byte counts the controllers and every
   byte after it tells the state of one, in the order of their ids. One byte counts to 255, but a bank
   may have one controller more. Its report then starts with zero, and a reader is done there. -/
namespace ControlMachine

def Mode.ofNibble? : UInt8 → Option Mode
  | 0 => some .manual
  | 1 => some .automatic
  | _ => none

structure ControllerState where
  mode : Mode
  initialized : Bool
  deriving DecidableEq, Repr

namespace ControllerState

/-- The state in a status byte. Each half has one bit, and the others are clear. -/
def ofByte? (status : UInt8) : Option ControllerState :=
  match Mode.ofNibble? (status >>> 4), status &&& 0x0F with
  | some mode, 0 => some ⟨mode, false⟩
  | some mode, 1 => some ⟨mode, true⟩
  | _, _ => none

def readMany : Nat → List UInt8 → Option (List ControllerState × List UInt8)
  | 0, bytes => some ([], bytes)
  | _ + 1, [] => none
  | count + 1, status :: bytes => do
    let state ← ofByte? status
    let (states, rest) ← readMany count bytes
    return (state :: states, rest)

def readReport : List UInt8 → Option (List ControllerState × List UInt8)
  | [] => none
  | count :: bytes => readMany count.toNat bytes

end ControllerState

open ControllerState

def Controller.state {R : Type} (c : Controller R) : ControllerState := ⟨c.mode, c.initialized⟩

namespace Bank
variable {R : Type}

def states (b : Bank R) : List ControllerState := b.controllers.map Controller.state

theorem ofByte?_statusByte (c : Controller R) : ofByte? c.statusByte = some c.state := by
  unfold Controller.statusByte Controller.state
  cases c.mode <;> cases c.initialized <;> rfl

theorem readMany_statusBytes (cs : List (Controller R)) (rest : List UInt8) :
    readMany cs.length (cs.map Controller.statusByte ++ rest) =
      some (cs.map Controller.state, rest) := by
  induction cs with
  | nil => rfl
  | cons c cs ih =>
    rw [List.map_cons, List.cons_append, List.length_cons, readMany, ofByte?_statusByte, ih]
    rfl

theorem readMany_report (b : Bank R) : readMany b.count b.report.tail = some (b.states, []) := by
  have read := readMany_statusBytes b.controllers []
  rwa [List.append_nil] at read

theorem readReport_of_few {b : Bank R} (few : b.count < 256) :
    readReport b.report = some (b.states, []) := by
  have counted : (UInt8.ofNat b.count).toNat = b.count := UInt8.toNat_ofNat_of_lt few
  rw [report, readReport, counted]
  exact readMany_report b

theorem readReport_of_full {b : Bank R} (full : b.count = 256) :
    readReport b.report = some ([], b.report.tail) := by
  rw [report, readReport, full]
  rfl

theorem count_eq (b : Bank R) : b.count = b.ids.length := (List.length_map _).symm

theorem ids_ofCount [Rational R] (count : Nat) :
    (ofCount count : Bank R).ids = (List.range (min count 256)).map UInt8.ofNat := by
  simp only [ids, ofCount, List.map_map]
  rfl

/-- What the report of a bank tells that was built for a number of controllers. Read by its first
    byte it tells everything and ends there, unless the bank is full. Then it tells nothing and all
    of the status bytes are left. They are in order in either case. -/
structure Reports (count : Nat) (b : Bank R) : Prop where
  ids : b.ids = (List.range (min count 256)).map UInt8.ofNat
  statuses : readMany b.count b.report.tail = some (b.states, [])
  read : count < 256 → readReport b.report = some (b.states, [])
  unread : 256 ≤ count → readReport b.report = some ([], b.report.tail)

theorem reports_of_ids {count : Nat} {b : Bank R}
    (ids : b.ids = (List.range (min count 256)).map UInt8.ofNat) : Reports count b := by
  have counted : b.count = min count 256 := by
    rw [count_eq, ids, List.length_map, List.length_range]
  constructor
  case ids => exact ids
  case statuses => exact readMany_report b
  case read =>
    intro few
    exact readReport_of_few (by omega)
  case unread =>
    intro full
    exact readReport_of_full (by omega)

end Bank

namespace Machine
variable {R : Type} [Rational R] {capacity : Nat}

theorem react_ids (m : Machine R) (event : BankEvent R capacity) :
    (m.react event).bank.ids = m.bank.ids := by
  cases event with
  | use action now => exact congrArg Sizes.ids (operate_sizes m now action)
  | disturb store same => rfl

theorem foldl_react_ids (m : Machine R) (events : List (BankEvent R capacity)) :
    (events.foldl react m).bank.ids = m.bank.ids := by
  induction events generalizing m with
  | nil => rfl
  | cons event events ih =>
    rw [List.foldl_cons, ih]
    exact react_ids m event

theorem reports_read_back (count : Nat) (store : Store)
    (events : List (BankEvent R store.memory.capacity)) :
    Bank.Reports count (withBankUsed count store events).bank := by
  apply Bank.reports_of_ids
  rw [withBankUsed, foldl_react_ids]
  exact Bank.ids_ofCount count

def fullBank : Bank Fixed := (withBankUsed 256 (.ofSizes 64 16) []).bank

/-- A reader of its report finds none of the 256 controllers and leaves all status bytes. -/
theorem full_bank_unread :
    fullBank.states.length = 256 ∧ fullBank.report.tail.length = 256 ∧
      readReport fullBank.report = some ([], fullBank.report.tail) ∧
      readReport fullBank.report ≠ some (fullBank.states, []) := by
  have full : fullBank.count = 256 := by
    rw [fullBank, withBankUsed, Bank.count_eq, foldl_react_ids, ofParts, Bank.ids_ofCount,
      List.length_map, List.length_range, Nat.min_self]
  have states : fullBank.states.length = 256 := (List.length_map _).trans full
  have unread := Bank.readReport_of_full full
  refine ⟨states, (List.length_map _).trans full, unread, ?_⟩
  intro read
  rw [unread] at read
  have none : [] = fullBank.states := congrArg Prod.fst (Option.some.inj read)
  rw [← none] at states
  cases states

end Machine
end ControlMachine
