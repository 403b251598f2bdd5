import ControlMachine.Number.Fixed
import ControlMachine.Pid.Controller

/- The order of fixed point numbers is that of their units. Limits that are the right way round
   keep what is clamped between them. -/
namespace ControlMachine.Fixed
variable {x y low high : Fixed}

theorem greater_iff : Rational.greater x y = true ↔ y.units < x.units := by
  simp only [Rational.greater, Rational.order, beq_iff_eq, Option.some.injEq]
  exact Int.compare_eq_gt

theorem less_iff : Rational.less x y = true ↔ x.units < y.units := by
  simp only [Rational.less, Rational.order, beq_iff_eq, Option.some.injEq]
  exact Int.compare_eq_lt

theorem same_iff : Rational.same x y = true ↔ x.units = y.units := by
  simp only [Rational.same, Rational.order, beq_iff_eq, Option.some.injEq]
  exact Int.compare_eq_eq

theorem validLimits_iff : Controller.validLimits low high = true ↔ low.units < high.units := by
  rw [Controller.validLimits, Bool.not_eq_true', Bool.or_eq_false_iff]
  simp only [← Bool.not_eq_true, greater_iff, same_iff]
  omega

theorem units_clamp : (Rational.clamp x low high).units =
    if high.units < x.units then high.units
    else if x.units < low.units then low.units else x.units := by
  unfold Rational.clamp
  simp only [greater_iff, less_iff]
  by_cases above : high.units < x.units
  · rw [if_pos above, if_pos above]
  · rw [if_neg above, if_neg above]
    by_cases below : x.units < low.units
    · rw [if_pos below, if_pos below]
    · rw [if_neg below, if_neg below]

theorem clamp_within (ordered : low.units ≤ high.units) :
    low.units ≤ (Rational.clamp x low high).units ∧
      (Rational.clamp x low high).units ≤ high.units := by
  rw [units_clamp]
  by_cases above : high.units < x.units
  · rw [if_pos above]
    omega
  · rw [if_neg above]
    by_cases below : x.units < low.units
    · rw [if_pos below]
      omega
    · rw [if_neg below]
      omega

theorem clamp_of_within (above : low.units ≤ x.units) (below : x.units ≤ high.units) :
    Rational.clamp x low high = x := by
  unfold Rational.clamp
  simp only [greater_iff, less_iff]
  rw [if_neg (Int.not_lt.mpr below), if_neg (Int.not_lt.mpr above)]

theorem clamp_mono (ordered : low.units ≤ high.units) (le : x.units ≤ y.units) :
    (Rational.clamp x low high).units ≤ (Rational.clamp y low high).units := by
  rw [units_clamp, units_clamp]
  split <;> split <;> omega

end ControlMachine.Fixed
