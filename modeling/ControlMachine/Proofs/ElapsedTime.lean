import ControlMachine.Proofs.Branches
import ControlMachine.Proofs.Sizes

/- Time as a program measures it. A stamp keeps the low 32 bits of the microseconds, and the time
   since the stamp is a difference modulo 2^32. It is the time that went by until the counter has come
   all the way round, wherever it stood when the stamp was taken. -/
namespace ControlMachine

namespace Clock
variable {start now : Clock}

def since (start now : Clock) : Nat := now.micros.toNat - start.micros.toNat

theorem elapsed_wraps (later : start.micros ≤ now.micros) :
    (now.micros.toUInt32 - start.micros.toUInt32).toNat = start.since now % 0x100000000 := by
  have order : start.micros.toNat ≤ now.micros.toNat := UInt64.le_iff_toNat_le.mp later
  rw [UInt32.toNat_sub, UInt64.toNat_toUInt32, UInt64.toNat_toUInt32, since]
  omega

end Clock

namespace Machine
open Fetch
variable {R : Type} {m : Machine R} {cell expired pending : UInt16} {timeoutMs stamp : UInt32}

structure AtStamp (m : Machine R) (cell : UInt16) : Prop where
  running : m.isHalted = false
  held : m.memory.Holds m.pc.toNat (Opcode.time.byte :: LittleEndian.bytes 2 cell.toNat)
  fits : cell.toNat + 4 ≤ m.memory.capacity

structure AtTimeout (m : Machine R) (cell : UInt16) (timeoutMs : UInt32)
    (expired pending : UInt16) : Prop where
  running : m.isHalted = false
  held : m.memory.Holds m.pc.toNat (Opcode.compareTime.byte ::
    (LittleEndian.bytes 2 cell.toNat ++ (LittleEndian.bytes 4 timeoutMs.toNat ++
      (LittleEndian.bytes 2 expired.toNat ++ LittleEndian.bytes 2 pending.toNat))))

variable [Rational R]

/-- The machine after a step at each of these readings of the clock, whatever came of it. -/
def afterReadings (m : Machine R) : List Clock → Machine R
  | [] => m
  | clock :: clocks => (m.step clock).state.afterReadings clocks

theorem afterReadings_capacity (m : Machine R) (clocks : List Clock) :
    (m.afterReadings clocks).memory.capacity = m.memory.capacity := by
  induction clocks generalizing m with
  | nil => rfl
  | cons clock clocks ih =>
    rw [afterReadings, ih]
    exact congrArg Sizes.memory (step_sizes m clock)

theorem wordAt_of_stamp (clock : Clock) (ready : m.AtStamp cell) :
    (m.step clock).state.memory.wordAt .four cell.toNat = clock.micros.toUInt32.toNat := by
  have fits := ready.fits
  have room := ready.held.fits
  simp only [List.length_cons, LittleEndian.length_bytes] at room
  have placed : m.memory.addressAt (m.pc.toNat + 1) = cell.toNat :=
    Memory.addressAt_of_held (Memory.holds_cons.mp ready.held).2
  rw [← placed] at fits
  obtain ⟨next, -, done⟩ := step_time clock ready.running (opcode_of_held ready.held) room fits
  rw [done, ← placed]
  exact Memory.wordAt_withWord fits clock.micros.toUInt32.toNat_lt

theorem goesTo_of_timeout (clock : Clock) (ready : m.AtTimeout cell timeoutMs expired pending)
    (fits : cell.toNat + 4 ≤ m.memory.capacity)
    (stamped : m.memory.wordAt .four cell.toNat = stamp.toNat) :
    m.GoesTo clock (if timeoutMs.toNat * 1000 ≤ (clock.micros.toUInt32 - stamp).toNat
      then expired else pending) := by
  have here : m.opcode? = some .compareTime := opcode_of_held ready.held
  obtain ⟨start, fields⟩ := held_afterOpcode ready.held
  obtain ⟨p1, first, -, held1⟩ := address_of_held fields
  obtain ⟨p2, second, -, held2⟩ := unsigned_of_held held1
  obtain ⟨p3, third, -, held3⟩ := address_of_held held2
  rw [← List.append_nil (LittleEndian.bytes 2 pending.toNat)] at held3
  obtain ⟨p4, fourth, -, -⟩ := address_of_held held3
  have room : cell.toNat + Width.four.bytes ≤ m.memory.capacity := fits
  obtain ⟨word, loaded, value⟩ := Memory.exists_wordAt room
  have same : word = stamp := UInt32.toNat_inj.mp (value.trans stamped)
  rw [same] at loaded
  have lifted : lift (m.memory.loadUnsigned cell) p4 = .ok stamp p4 :=
    lift_eq_ok.mpr ⟨loaded, rfl⟩
  have run : m.started.execute clock .compareTime = .ok _ m.started :=
    branching_of_ok p4 ((bind_of_ok first).trans ((bind_of_ok second).trans
      ((bind_of_ok third).trans ((bind_of_ok fourth).trans (bind_of_ok lifted)))))
  exact step_of_execute ready.running here run

structure MeasuresTime (m : Machine R) (start now : Clock) (timeoutMs : UInt32)
    (expired pending : UInt16) : Prop where
  wrapping : m.GoesTo now (if 1000 * timeoutMs.toNat ≤ start.since now % 0x100000000
    then expired else pending)
  direct : start.since now < 0x100000000 →
    m.GoesTo now (if 1000 * timeoutMs.toNat ≤ start.since now then expired else pending)
  never : 4294967 < timeoutMs.toNat → m.GoesTo now pending

theorem measuresTime_of_goesTo {start now : Clock} (goes : m.GoesTo now
      (if 1000 * timeoutMs.toNat ≤ start.since now % 0x100000000 then expired else pending)) :
    m.MeasuresTime start now timeoutMs expired pending := by
  constructor
  case wrapping => exact goes
  case direct =>
    intro short
    rwa [Nat.mod_eq_of_lt short] at goes
  case never =>
    intro long
    have small := Nat.mod_lt (start.since now) (show 0 < 0x100000000 by decide)
    rwa [if_neg (by omega)] at goes

theorem elapsed_time_measured (m : Machine R) (start now : Clock) (between : List Clock)
    (cell : UInt16) (timeoutMs : UInt32) (expired pending : UInt16) (stamping : m.AtStamp cell)
    (asking : ((m.step start).state.afterReadings between).AtTimeout cell timeoutMs expired pending)
    (intact : ((m.step start).state.afterReadings between).memory.slice cell.toNat 4 =
      (m.step start).state.memory.slice cell.toNat 4)
    (later : start.micros ≤ now.micros) :
    ((m.step start).state.afterReadings between).MeasuresTime start now timeoutMs expired
      pending := by
  have stamped := wordAt_of_stamp start stamping
  have kept : ((m.step start).state.afterReadings between).memory.wordAt .four cell.toNat =
      start.micros.toUInt32.toNat := by
    rw [← stamped, Memory.wordAt, Width.bytes, intact, Memory.wordAt, Width.bytes]
  have size : ((m.step start).state.afterReadings between).memory.capacity = m.memory.capacity :=
    afterReadings_capacity m (start :: between)
  have goes := goesTo_of_timeout now asking (by rw [size]; exact stamping.fits) kept
  rw [Clock.elapsed_wraps later, Nat.mul_comm] at goes
  exact measuresTime_of_goesTo goes

def timing : Machine Fixed := filled
  [0x60, 0x13, 0x00, 0x51, 0x01, 0x08, 0x00, 0xFF,
    0x61, 0x13, 0x00, 0x02, 0x00, 0x00, 0x00, 0x40, 0x00, 0x50, 0x00, 0x00, 0x00, 0x00, 0x00]

/-- The counter comes round 500 microseconds after the stamp. -/
theorem elapsed_time_measured_around :
    timing.AtStamp 0x13 ∧
      ((timing.step ⟨0xFFFFFE0C⟩).state.afterReadings [⟨0x100000000⟩]).GoesTo ⟨0x1000005DC⟩ 0x40 := by
  have stamping : timing.AtStamp 0x13 :=
    ⟨by rfl, ⟨by decide +kernel, by decide +kernel⟩, by decide +kernel⟩
  have asking : ((timing.step ⟨0xFFFFFE0C⟩).state.afterReadings [⟨0x100000000⟩]).AtTimeout
      0x13 2 0x40 0x50 := ⟨by decide +kernel, ⟨by decide +kernel, by decide +kernel⟩⟩
  have measured := elapsed_time_measured timing ⟨0xFFFFFE0C⟩ ⟨0x1000005DC⟩ [⟨0x100000000⟩]
    0x13 2 0x40 0x50 stamping asking (by decide +kernel) (by decide)
  have expired := measured.direct (by decide)
  rw [if_pos (by decide)] at expired
  exact ⟨stamping, expired⟩

end Machine
end ControlMachine
