/- A settable clock of 64-bit microseconds. -/
namespace ControlMachine

structure Clock where
  micros : UInt64
  deriving DecidableEq, Repr

namespace Clock

def millis (c : Clock) : UInt64 := c.micros / 1000

def advanceMicros (c : Clock) (delta : UInt64) : Clock := ⟨c.micros + delta⟩

/-- The step itself is capped at 2^64 - 1 microseconds. -/
def advanceMillis (c : Clock) (delta : UInt64) : Clock :=
  c.advanceMicros (UInt64.ofNat (min (delta.toNat * 1000) 0xFFFFFFFFFFFFFFFF))

end Clock
end ControlMachine
