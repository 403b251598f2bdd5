import ControlMachine.Number.Fixed

/- Sums of fixed point numbers are taken modulo 2^32, so what overflows on the way does no harm to a
   sum that is in range at its end. A sum that is not has been turned around, so often as is counted
   here, and numbers that were turned around equally often are still in order. -/
namespace ControlMachine.Fixed
variable {m n : Int}

@[simp] theorem ofUnits_units (x : Fixed) : ofUnits x.units = x :=
  congrArg Fixed.mk (Int32.ofInt_toInt x.raw)

theorem ofUnits_add (m n : Int) : ofUnits (m + n) = ofUnits m + ofUnits n := by
  refine congrArg Fixed.mk ?_
  simp only [units, ofUnits, Int32.ofInt_add, Int32.ofInt_toInt]

theorem ofUnits_sub (m n : Int) : ofUnits (m - n) = ofUnits m - ofUnits n := by
  refine congrArg Fixed.mk ?_
  simp only [units, ofUnits, Int32.ofInt_sub, Int32.ofInt_toInt]

theorem mul_def (a b : Fixed) : a * b = ofUnits ((a.units * b.units).tdiv 256) := rfl

@[simp] theorem units_zero : (0 : Fixed).units = 0 := rfl

theorem sub_self (x : Fixed) : x - x = 0 := by
  change ofUnits (x.units - x.units) = 0
  rw [Int.sub_self]
  rfl

theorem mul_zero (x : Fixed) : x * 0 = 0 := by
  rw [mul_def, units_zero, Int.mul_zero]
  rfl

theorem add_zero (x : Fixed) : x + 0 = x := by
  change ofUnits (x.units + 0) = x
  rw [Int.add_zero, ofUnits_units]

theorem zero_add (x : Fixed) : 0 + x = x := by
  change ofUnits (0 + x.units) = x
  rw [Int.zero_add, ofUnits_units]

theorem sub_zero (x : Fixed) : x - 0 = x := by
  change ofUnits (x.units - 0) = x
  rw [Int.sub_zero, ofUnits_units]

/-- How often so many units are turned around: zero times if they are a number as they are. -/
def turns (n : Int) : Int := (n + 2147483648) / 4294967296

theorem units_ofUnits_turns (n : Int) : (ofUnits n).units = n - 4294967296 * turns n := by
  have wrapped : (ofUnits n).units = n.bmod 4294967296 := Int32.toInt_ofInt
  rw [wrapped, turns, Int.bmod_def]
  split <;> omega

theorem turns_eq_zero (low : least.units ≤ n) (high : n ≤ greatest.units) : turns n = 0 := by
  have bottom : least.units = -2147483648 := by decide
  have top : greatest.units = 2147483647 := by decide
  rw [turns]
  omega

theorem ofUnits_mono (same : turns m = turns n) (le : m ≤ n) :
    (ofUnits m).units ≤ (ofUnits n).units := by
  rw [units_ofUnits_turns, units_ofUnits_turns, same]
  omega

end ControlMachine.Fixed
